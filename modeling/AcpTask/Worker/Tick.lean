import AcpTask.Concierge.Outcome
import AcpTask.Outbox.Projection

namespace AcpTask.Worker

open Concierge Data Library Outbox Workflow

variable (config : TickConfig) (system : TickSystem)

/-! `run_once` of any number of workers: what one tick of a worker enqueues, the
same tick drains.  Housekeeping, the owners of the conversations and their
workflows, and the continuation of paged reads act at any time. -/

structure Enqueue where
  revisionId : String
  tenantId : String
  result : RunResult

/-- What a tick has left: conversations whose completion is to be enqueued again,
or revisions to run. -/
inductive Pending where
  | recovering (revisions : List (String × String))
  | revisions (targets : List Target)

inductive TickPhase where
  | idle
  | at (pending : Pending) (now : Int)
  | running (target : Target) (targets : List Target) (now : Int)
  | enqueuing (enqueue : Enqueue) (pending : Pending) (now : Int)
  | appending (enqueue : Enqueue) (conversationId : String)
      (pending : Pending) (now : Int)
  | draining (left : Nat) (now : Int)

structure TickConfig where
  executor : ExecutorConfig
  json : Json

def TickConfig.projector : ProjectConfig :=
  ⟨config.json, config.executor.workerId⟩

/-- `faulted` marks the workers whose projection was ended by an exception from
outside. -/
structure TickSystem where
  workflow : WorkflowSystem
  outbox : ProjectSystem
  conversations : List Conversation
  ticks : Nat → TickPhase
  faulted : Nat → Bool

def TickSystem.initial : TickSystem :=
  ⟨WorkflowSystem.initial, ProjectSystem.initial, [], fun _ => .idle,
    fun _ => false⟩

def TickSystem.move (worker : Nat) (phase : TickPhase) : TickSystem :=
  { system with ticks := Function.update system.ticks worker phase }

/-- The `SELECT` of `recover_unprojected_conversation_outcomes`. -/
def unprojected (rows : List Conversation) (store : WorkflowStore) :
    List (String × String) :=
  rows.filterMap fun row =>
    match row.workflowRevisionId with
    | none => none
    | some revisionId =>
        if !row.status.terminal && row.status != .succeeded &&
            row.status != .ready &&
            (store.revisions.find? revisionId).any fun revision =>
              revision.tenantId == row.tenantId && revision.status == .completed
        then some (revisionId, row.tenantId) else none

def runnable (store : WorkflowStore) (revision : Revision) : Bool :=
  ((store.approvals.find? revision.workflowRevisionId).any fun approval =>
      approval.workflowRunId == revision.workflowRunId &&
        approval.tenantId == revision.tenantId) &&
    (revision.status == .approved || revision.status == .authorized) &&
    store.steps.rows.any fun step =>
      step.workflowRevisionId == revision.workflowRevisionId &&
        step.executionStatus == .queued

/-- `ORDER BY created_at, workflow_revision_id`. -/
def createdBefore (left right : Revision) : Bool :=
  decide (left.createdAt < right.createdAt) ||
    (left.createdAt == right.createdAt &&
      decide (left.workflowRevisionId ≤ right.workflowRevisionId))

def listRunnableRevisions (store : WorkflowStore) : List Target :=
  (((store.revisions.rows.filter (runnable store)).mergeSort
    createdBefore).take 100).map fun revision =>
      ⟨revision.workflowRunId, revision.workflowRevisionId, revision.tenantId⟩

/-- The rest of a tick after an append that raised: the one for a revision is
caught, the one of the recovery is not. -/
def Pending.raised (now : Int) : Pending → TickPhase
  | .recovering _ => .idle
  | .revisions targets => .at (.revisions targets) now

/-- `run_until_blocked` begins with, or goes on to, a call of `run_next`. -/
def startRun (worker : Nat) (target : Target) (targets : List Target)
    (now : Int) : TickSystem :=
  match getRevision system.workflow.store target with
  | none => system.move worker (.at (.revisions targets) now)
  | some _ =>
      { system with
        workflow := workflowStep config.executor system.workflow
          (.runNext worker target) }.move worker (.running target targets now)

def projection (rows : List Conversation) (event : OutboxEvent) :
    Except String Unit :=
  if event.eventType = "workflow.outcome" ∧
      projectable rows event.aggregate.tenantId event.payload = false then
    .error "RuntimeError"
  else .ok ()

/-- The next statement of `_drain_outbox`. -/
def drain (worker left : Nat) (now : Int) : TickSystem :=
  match system.outbox.workers worker with
  | .idle =>
      match left with
      | 0 => system.move worker .idle
      | left + 1 =>
          let outbox := projectStep config.projector system.outbox
            (.claim worker now)
          { system with
            outbox
            faulted := Function.update system.faulted worker false }.move
            worker (match outbox.workers worker with
              | .idle => .idle
              | _ => .draining left now)
  | .applying event _ =>
      { system with
        outbox := projectStep config.projector system.outbox
          (.advance worker (projection system.conversations event)) }
  | _ =>
      { system with
        outbox := projectStep config.projector system.outbox
          (.advance worker (.ok ())) }

/-- The next statement of a tick; `answer` and `clock` are what the executor is
told from outside. -/
def tickAdvance (worker : Nat) (answer : Answer) (clock : Int)
    (eventId : String) : TickSystem :=
  match system.ticks worker with
  | .idle => system
  | .at (.recovering []) now =>
      system.move worker
        (.at (.revisions (listRunnableRevisions system.workflow.store)) now)
  | .at (.recovering ((revisionId, tenantId) :: revisions)) now =>
      system.move worker
        (.enqueuing ⟨revisionId, tenantId, .complete⟩ (.recovering revisions)
          now)
  | .at (.revisions []) now => system.move worker (.draining 100 now)
  | .at (.revisions (target :: targets)) now =>
      startRun config system worker target targets now
  | .running target targets now =>
      match system.workflow.workers worker with
      | .idle none => system.move worker (.at (.revisions targets) now)
      | .idle (some (.stepCompleted _)) =>
          startRun config system worker target targets now
      | .idle (some result) =>
          system.move worker
            (.enqueuing ⟨target.workflowRevisionId, target.tenantId, result⟩
              (.revisions targets) now)
      | _ =>
          { system with
            workflow := workflowStep config.executor system.workflow
              (.advance worker answer clock) }
  | .enqueuing enqueue pending now =>
      match linkedConversation system.conversations enqueue.revisionId
          enqueue.tenantId with
      | none => system.move worker (.at pending now)
      | some row =>
          system.move worker (.appending enqueue row.conversationId pending now)
  | .appending enqueue conversationId pending now =>
      let aggregate := conversationAggregate enqueue.tenantId conversationId
      let payload := outcomePayload enqueue.revisionId
        (runOutcome enqueue.result)
      let dedupeKey := outcomeDedupeKey enqueue.revisionId
        (outcomeStatus enqueue.result)
      { system with
        outbox := projectStep config.projector system.outbox
          (.append aggregate "workflow.outcome" payload dedupeKey eventId now 5
            none) }.move worker
        (match (appendOutboxEvent config.json system.outbox.store aggregate
            "workflow.outcome" payload dedupeKey eventId now 5 none).1 with
        | .ok _ => .at pending now
        | .error _ => pending.raised now)
  | .draining left now => drain config system worker left now

/-- The event a worker is projecting, inside the `try` of the drain loop. -/
def projecting : ProjectPhase → Option (OutboxEvent × Int)
  | .reading event now | .applying event now | .advancing event now
  | .rechecking event now | .completing event now | .completed event now =>
      some (event, now)
  | _ => none

inductive ConversationEvent where
  | turnCommitted
  | resolverCompleted

def ConversationEvent.eventType : ConversationEvent → String
  | .turnCommitted => "conversation.turn_committed"
  | .resolverCompleted => "conversation.resolver_completed"

inductive TickAction where
  | tick (worker : Nat) (now : Int)
  | advance (worker : Nat) (answer : Answer) (clock : Int) (eventId : String)
  | fault (worker : Nat) (error : String)
  | crash (worker : Nat)
  | workflow (action : WorkflowAction)
  | converse (rows : List Conversation)
  | publish (kind : ConversationEvent) (tenantId conversationId : String)
      (payload : Value) (dedupeKey eventId : String) (now : Int)
  | purge (tenantId : String) (completedBefore : Int)

def tickStep :
    TickAction → TickSystem
  | .tick worker now =>
      match system.ticks worker with
      | .idle => system.move worker (.at (.recovering
          (unprojected system.conversations system.workflow.store)) now)
      | _ => system
  | .advance worker answer clock eventId =>
      tickAdvance config system worker answer clock eventId
  | .fault worker error =>
      match projecting (system.outbox.workers worker) with
      | none => system
      | some (event, now) =>
          { system with
            outbox := system.outbox.move worker (.failing event now error)
            faulted := Function.update system.faulted worker true }
  | .crash worker =>
      { system with
        workflow := workflowStep config.executor system.workflow (.crash worker)
        outbox := projectStep config.projector system.outbox (.crash worker)
        }.move worker .idle
  | .workflow action =>
      { system with
        workflow := workflowStep config.executor system.workflow action }
  | .converse rows => { system with conversations := rows }
  | .publish kind tenantId conversationId payload dedupeKey eventId now =>
      { system with
        outbox := projectStep config.projector system.outbox
          (.append (conversationAggregate tenantId conversationId)
            kind.eventType payload dedupeKey eventId now 5 none) }
  | .purge tenantId completedBefore =>
      { system with
        outbox := projectStep config.projector system.outbox
          (.purge tenantId completedBefore) }

def tickRun (actions : List TickAction) : TickSystem :=
  run (tickStep config) TickSystem.initial actions

end AcpTask.Worker
