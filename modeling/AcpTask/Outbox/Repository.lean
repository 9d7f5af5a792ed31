import Mathlib.Data.String.Basic
import AcpTask.Workflow.Repository

namespace AcpTask.Outbox

open Data Library Workflow

variable (store : OutboxStore)

structure Aggregate where
  tenantId : String
  aggregateType : String
  aggregateId : String
  deriving DecidableEq

inductive EventStatus where
  | pending
  | claimed
  | completed
  | deadLetter
  deriving DecidableEq

structure OutboxEvent where
  eventId : String
  aggregate : Aggregate
  aggregateVersion : Nat
  eventType : String
  payload : Value
  dedupeKey : String
  status : EventStatus := .pending
  attempts : Nat := 0
  maxAttempts : Int
  availableAt : Int
  claimedBy : Option String := none
  claimExpiresAt : Option Int := none
  lastError : Option String := none
  createdAt : Int
  completedAt : Option Int := none
  deadLetteredAt : Option Int := none

structure Watermark where
  aggregate : Aggregate
  projectionName : String
  projectedVersion : Nat
  lastEventId : String
  updatedAt : Int

abbrev Watermark.key (row : Watermark) : Aggregate × String :=
  (row.aggregate, row.projectionName)

structure OutboxStore where
  events : Table OutboxEvent OutboxEvent.eventId
  watermarks : Table Watermark Watermark.key

def OutboxStore.empty : OutboxStore := ⟨Table.empty, Table.empty⟩

/-- `COALESCE(MAX(aggregate_version), 0)`. -/
def lastVersion (aggregate : Aggregate) : Nat :=
  ((store.events.rows.filter fun row => decide (row.aggregate = aggregate)).map
    OutboxEvent.aggregateVersion).foldl max 0

def deduped (tenantId dedupeKey : String) : Option OutboxEvent :=
  store.events.rows.find? fun row =>
    row.aggregate.tenantId == tenantId && row.dedupeKey == dedupeKey

/-- `INSERT INTO workflow_outbox`, with its unique keys and its check. -/
def insertEvent (row : OutboxEvent) : Except WorkflowError OutboxStore := do
  require (decide (0 < row.maxAttempts)) .integrityError
  require (deduped store row.aggregate.tenantId row.dedupeKey).isNone
    .integrityError
  require (!store.events.rows.any fun other =>
    decide (other.aggregate = row.aggregate) &&
      other.aggregateVersion == row.aggregateVersion) .integrityError
  let events ← insertInto store.events row
  pure { store with events }

/-- `json.dumps(payload, sort_keys=True)`, by which payloads are compared. -/
structure Json where
  dumps : Value → String

def OutboxEvent.repeats (json : Json) (prior : OutboxEvent)
    (aggregate : Aggregate) (eventType : String) (payload : Value) : Bool :=
  decide (prior.aggregate = aggregate) && prior.eventType == eventType &&
    json.dumps prior.payload == json.dumps payload

def appendOutboxEvent (json : Json) (store : OutboxStore)
    (aggregate : Aggregate) (eventType : String) (payload : Value)
    (dedupeKey eventId : String) (now : Int) (maxAttempts : Int)
    (availableAt : Option Int) : Except WorkflowError OutboxEvent × OutboxStore :=
  transaction store fun store => do
    require (aggregate.tenantId != "" && aggregate.aggregateType != "" &&
        aggregate.aggregateId != "" && eventType != "" && dedupeKey != "")
      (.valueError
        "outbox tenant, aggregate, event type and dedupe key are required")
    require payload.serializable .typeError
    match deduped store aggregate.tenantId dedupeKey with
    | some prior => do
        require (prior.repeats json aggregate eventType payload)
          (.valueError "outbox dedupe key was reused for another event")
        pure (prior, store)
    | none => do
        let event : OutboxEvent := {
          eventId, aggregate, eventType, payload, dedupeKey, maxAttempts
          aggregateVersion := lastVersion store aggregate + 1
          availableAt := availableAt.getD now, createdAt := now }
        let inserted ← insertEvent store event
        pure (event, inserted)

def OutboxEvent.available (row : OutboxEvent) (now : Int) : Bool :=
  (row.status == .pending && decide (row.availableAt ≤ now)) ||
    (row.status == .claimed &&
      row.claimExpiresAt.any fun expiry => decide (expiry ≤ now))

def overtakes (row : OutboxEvent) : Bool :=
  store.events.rows.any fun earlier =>
    decide (earlier.aggregate = row.aggregate) &&
      decide (earlier.aggregateVersion < row.aggregateVersion) &&
      earlier.status != .completed

/-- `ORDER BY created_at, event_id`. -/
def OutboxEvent.before (left right : OutboxEvent) : Bool :=
  decide (left.createdAt < right.createdAt) ||
    (left.createdAt == right.createdAt && decide (left.eventId ≤ right.eventId))

def selectClaimable (now : Int) (tenantId : Option String) :
    Option OutboxEvent :=
  ((store.events.rows.filter fun row => row.available now &&
    (tenantId.all fun tenant =>
      tenant == "" || row.aggregate.tenantId == tenant) &&
    !overtakes store row).mergeSort OutboxEvent.before).head?

def OutboxEvent.claim (row : OutboxEvent) (workerId : String)
    (expiresAt : Int) : OutboxEvent :=
  { row with
    status := .claimed, claimedBy := some workerId
    claimExpiresAt := some expiresAt, attempts := row.attempts + 1 }

@[simp] theorem OutboxEvent.claim_eventId (workerId : String)
    (expiresAt : Int) (row : OutboxEvent) :
    (row.claim workerId expiresAt).eventId = row.eventId := rfl

def claimOutboxEvent (workerId : String) (now : Int) (visibilityTimeout : Int)
    (tenantId : Option String) : Option OutboxEvent × OutboxStore :=
  match selectClaimable store now tenantId with
  | none => (none, store)
  | some row =>
      (some (row.claim workerId (now + visibilityTimeout)),
        { store with
          events := store.events.updateWhere
            (fun other => other.eventId == row.eventId &&
              other.aggregate.tenantId == row.aggregate.tenantId &&
              other.available now)
            (fun other => other.claim workerId (now + visibilityTimeout))
            (OutboxEvent.claim_eventId workerId (now + visibilityTimeout)) })

/-! `complete_outbox_event` and `fail_outbox_event` read the row and write it in
statements of their own; what another process commits in between counts. -/

def OutboxEvent.is (row : OutboxEvent) (eventId tenantId : String) : Bool :=
  row.eventId == eventId && row.aggregate.tenantId == tenantId

/-- `status = 'claimed' AND claimed_by = ?`. -/
def OutboxEvent.claimedFor (row : OutboxEvent) (workerId : String) : Bool :=
  row.status == .claimed && row.claimedBy == some workerId

def readEvent (eventId tenantId : String) : Option OutboxEvent :=
  store.events.rows.find? fun row => row.is eventId tenantId

/-- True when the `UPDATE` found its row. -/
def completeUpdate (eventId tenantId workerId : String) (now : Int) :
    Bool × OutboxStore :=
  (store.events.rows.any fun row =>
      row.is eventId tenantId && row.claimedFor workerId,
    { store with
      events := store.events.updateWhere
        (fun row => row.is eventId tenantId && row.claimedFor workerId)
        (fun row => { row with
          status := .completed, completedAt := some now
          claimedBy := none, claimExpiresAt := none })
        (fun _ => rfl) })

def failSelect (eventId tenantId workerId : String) : Option Bool :=
  (store.events.rows.find? fun row =>
    row.is eventId tenantId && row.claimedFor workerId).map fun row =>
      decide (row.maxAttempts ≤ (row.attempts : Int))

def failUpdate (eventId tenantId : String) (now retryDelay : Int)
    (error : String) (dead : Bool) : OutboxStore :=
  { store with
    events := store.events.updateWhere (fun row => row.is eventId tenantId)
      (fun row => { row with
        status := if dead then .deadLetter else .pending
        availableAt := now + retryDelay
        claimedBy := none, claimExpiresAt := none
        lastError := some (error.take 1000).toString
        deadLetteredAt := if dead then some now else none })
      (fun _ => rfl) }

def conversationProjection : String := "conversation"

def getProjectionWatermark (aggregate : Aggregate) : Option Watermark :=
  store.watermarks.find? (aggregate, conversationProjection)

/-- `INSERT … ON CONFLICT DO UPDATE … WHERE projected_version <
excluded.projected_version`; true when it changed a row. -/
def advanceProjectionWatermark (aggregate : Aggregate) (projectedVersion : Nat)
    (eventId : String) (now : Int) : Bool × OutboxStore :=
  let row : Watermark :=
    ⟨aggregate, conversationProjection, projectedVersion, eventId, now⟩
  match store.watermarks.insert? row with
  | some watermarks => (true, { store with watermarks })
  | none =>
      (store.watermarks.rows.any fun old =>
          decide (old.key = row.key) &&
            decide (old.projectedVersion < projectedVersion),
        { store with
          watermarks := store.watermarks.updateWhere
            (fun old => decide (old.key = row.key) &&
              decide (old.projectedVersion < projectedVersion))
            (fun old => { old with
              projectedVersion, lastEventId := eventId, updatedAt := now })
            (fun _ => rfl) })

def purgeCompletedOutbox (tenantId : String) (completedBefore : Int) :
    OutboxStore :=
  { store with
    events := store.events.deleteWhere fun row =>
      row.aggregate.tenantId == tenantId && row.status == .completed &&
        row.completedAt.any fun completedAt =>
          decide (completedAt < completedBefore) }

end AcpTask.Outbox
