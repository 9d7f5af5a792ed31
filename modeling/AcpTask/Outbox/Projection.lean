import AcpTask.Library.Run
import AcpTask.Outbox.Moves

namespace AcpTask.Outbox

open Data Library

/-! The drain loop of a worker: one event from its claim to the end of
`complete_outbox_event` or `fail_outbox_event`, cut at every statement it
commits and at the projection itself. -/

def outboxVisibilitySeconds : Int := 30

def outboxRetrySeconds : Int := 5

/-- The event types `_project_event` supports. -/
def supportedEventType (eventType : String) : Bool :=
  eventType == "workflow.outcome" ||
    eventType == "conversation.turn_committed" ||
    eventType == "conversation.resolver_completed"

inductive ProjectPhase where
  | idle
  | reading (event : OutboxEvent) (now : Int)
  | applying (event : OutboxEvent) (now : Int)
  | advancing (event : OutboxEvent) (now : Int)
  | rechecking (event : OutboxEvent) (now : Int)
  | completing (event : OutboxEvent) (now : Int)
  | completed (event : OutboxEvent) (now : Int)
  | failing (event : OutboxEvent) (now : Int) (error : String)
  | failed (event : OutboxEvent) (now : Int) (error : String) (dead : Bool)

structure EventRef where
  eventId : String
  aggregate : Aggregate
  aggregateVersion : Nat
  deriving DecidableEq

def OutboxEvent.ref (row : OutboxEvent) : EventRef :=
  ⟨row.eventId, row.aggregate, row.aggregateVersion⟩

/-- `assigned` are all events ever appended, newest first, and `applied` those
whose payload a worker has applied. -/
structure ProjectSystem where
  store : OutboxStore
  workers : Nat → ProjectPhase
  assigned : List EventRef
  applied : List EventRef

def ProjectSystem.initial : ProjectSystem :=
  ⟨OutboxStore.empty, fun _ => .idle, [], []⟩

inductive ProjectAction where
  | append (aggregate : Aggregate) (eventType : String) (payload : Value)
      (dedupeKey eventId : String) (now maxAttempts : Int)
      (availableAt : Option Int)
  | purge (tenantId : String) (completedBefore : Int)
  | claim (worker : Nat) (now : Int)
  | advance (worker : Nat) (answer : Except String Unit)
  | crash (worker : Nat)

structure ProjectConfig where
  json : Json
  workerId : Nat → String

def ProjectSystem.move (system : ProjectSystem) (worker : Nat)
    (phase : ProjectPhase) : ProjectSystem :=
  { system with workers := Function.update system.workers worker phase }

def projected (store : OutboxStore) (event : OutboxEvent) : Bool :=
  (getProjectionWatermark store event.aggregate).any fun watermark =>
    decide (event.aggregateVersion ≤ watermark.projectedVersion)

/-- The next statement of a worker; `answer` is how applying the payload
ends. -/
def projectAdvance (config : ProjectConfig) (system : ProjectSystem)
    (worker : Nat) (answer : Except String Unit) : ProjectSystem :=
  match system.workers worker with
  | .idle => system
  | .reading event now =>
      if supportedEventType event.eventType then
        system.move worker (if projected system.store event then
          .completing event now else .applying event now)
      else system.move worker (.failing event now "ValueError")
  | .applying event now =>
      match answer with
      | .ok () =>
          { system.move worker (.advancing event now) with
            applied := event.ref :: system.applied }
      | .error error => system.move worker (.failing event now error)
  | .advancing event now =>
      let advanced := advanceProjectionWatermark system.store event.aggregate
        event.aggregateVersion event.eventId now
      { system with store := advanced.2 }.move worker
        (if advanced.1 then .completing event now else .rechecking event now)
  | .rechecking event now =>
      system.move worker (if projected system.store event then
        .completing event now else .failing event now "RuntimeError")
  | .completing event now =>
      match readEvent system.store event.eventId event.aggregate.tenantId with
      | none => system.move worker .idle
      | some row => system.move worker
          (if row.status = .completed then .idle else .completed event now)
  | .completed event now =>
      { system with
        store := (completeUpdate system.store event.eventId
          event.aggregate.tenantId (config.workerId worker) now).2 }.move
        worker .idle
  | .failing event now error =>
      match failSelect system.store event.eventId event.aggregate.tenantId
          (config.workerId worker) with
      | none => system.move worker .idle
      | some dead => system.move worker (.failed event now error dead)
  | .failed event now error dead =>
      { system with
        store := failUpdate system.store event.eventId event.aggregate.tenantId
          now outboxRetrySeconds error dead }.move worker .idle

/-- An event's id is a new one: `uuid4` does not repeat. -/
def projectStep (config : ProjectConfig) (system : ProjectSystem) :
    ProjectAction → ProjectSystem
  | .append aggregate eventType payload dedupeKey eventId now maxAttempts
      availableAt =>
      if system.assigned.any fun event => event.eventId == eventId then system
      else
        match appendOutboxEvent config.json system.store aggregate eventType
            payload dedupeKey eventId now maxAttempts availableAt with
        | (.error _, _) => system
        | (.ok event, store) =>
            { system with
              store
              assigned := if event.eventId = eventId then
                event.ref :: system.assigned else system.assigned }
  | .purge tenantId completedBefore =>
      { system with
        store := purgeCompletedOutbox system.store tenantId completedBefore }
  | .claim worker now =>
      match system.workers worker, claimOutboxEvent system.store
          (config.workerId worker) now outboxVisibilitySeconds none with
      | .idle, (some event, store) =>
          { system with store }.move worker (.reading event now)
      | _, _ => system
  | .advance worker answer => projectAdvance config system worker answer
  | .crash worker => system.move worker .idle

def projectRun (config : ProjectConfig) (actions : List ProjectAction) :
    ProjectSystem :=
  run (projectStep config) ProjectSystem.initial actions

end AcpTask.Outbox
