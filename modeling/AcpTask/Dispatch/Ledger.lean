import AcpTask.Data.Value
import AcpTask.Library.Run
import AcpTask.Library.Table
import AcpTask.Library.Transaction

namespace AcpTask.Dispatch

open Data Library

inductive DispatchStatus where
  | intentRecorded
  | dispatching
  | retryable
  | accepted
  | ambiguous
  | rejected
  deriving DecidableEq

structure DispatchRow where
  tenantId : String
  dispatchKey : String
  effectId : String
  payloadHash : String
  callbackToken : String
  status : DispatchStatus := .intentRecorded
  providerId : Value := .none
  providerStatus : Value := .none
  attemptCount : Nat := 0
  createdAt : Int
  updatedAt : Int

abbrev DispatchRow.key (row : DispatchRow) : String × String :=
  (row.tenantId, row.dispatchKey)

abbrev DispatchTable := Table DispatchRow DispatchRow.key

/-- The arguments of one `dispatch` call, the payload by the SHA-256 of its
canonical JSON. -/
structure Intent where
  tenantId : String
  dispatchKey : String
  effectId : String
  payloadHash : String
  callbackToken : String

abbrev Intent.key (intent : Intent) : String × String :=
  (intent.tenantId, intent.dispatchKey)

inductive ProviderException where
  | timeoutError
  | providerNetworkError
  | other (className : String) (category : Option String)

inductive ProviderOutcome where
  | returned (result : Value)
  | raised (exception : ProviderException)

inductive DispatchError where
  | duplicateDispatch (message : String)
  | ambiguousDispatch (message : String)
  | provider (exception : ProviderException)
  | integrityError

/-- `INSERT` under both unique keys of the table. -/
def insertRow (table : DispatchTable) (row : DispatchRow) :
    Except DispatchError DispatchTable :=
  if table.rows.any fun other =>
      other.tenantId == row.tenantId && other.effectId == row.effectId then
    .error .integrityError
  else match table.insert? row with
    | some inserted => .ok inserted
    | none => .error .integrityError

/-- The row the claiming transaction goes on with: a new one, or an old one of
the same intent whose status allows another attempt. -/
def claimRow (table : DispatchTable) (intent : Intent) (now : Int) :
    Except DispatchError DispatchTable :=
  match table.find? intent.key with
  | none =>
      insertRow table {
        tenantId := intent.tenantId
        dispatchKey := intent.dispatchKey
        effectId := intent.effectId
        payloadHash := intent.payloadHash
        callbackToken := intent.callbackToken
        createdAt := now
        updatedAt := now }
  | some row =>
      if row.payloadHash ≠ intent.payloadHash ∨
          row.effectId ≠ intent.effectId then
        .error (.duplicateDispatch "dispatch key is bound to different intent")
      else match row.status with
        | .ambiguous => .error
            (.ambiguousDispatch "provider outcome requires reconciliation")
        | .accepted | .dispatching | .intentRecorded | .rejected =>
            .error (.duplicateDispatch "dispatch already attempted")
        | .retryable => .ok table

/-- The transaction in front of the provider call.  Either ledger runs it under
a lock on the row. -/
def claim (table : DispatchTable) (intent : Intent) (now : Int) :
    Except DispatchError DispatchTable := do
  let recorded ← claimRow table intent now
  pure (recorded.updateWhere (fun row => decide (row.key = intent.key))
    (fun row => { row with
      attemptCount := row.attemptCount + 1, updatedAt := now })
    (fun _ => rfl))

def durableIdentifier : Value → Option (Value × Value)
  | .dict items =>
      if (Value.lookup items "provider_id").truthy then
        some (Value.lookup items "provider_id", Value.lookup items "status")
      else none
  | _ => none

def exceptionStatus : ProviderException → DispatchStatus
  | .timeoutError | .providerNetworkError => .ambiguous
  | .other _ category =>
      if category = some "rate_limit" then .retryable else .rejected

def outcomeStatus : ProviderOutcome → DispatchStatus
  | .raised exception => exceptionStatus exception
  | .returned result =>
      if (durableIdentifier result).isSome then .accepted else .ambiguous

def outcomeRow (outcome : ProviderOutcome) (now : Int) (row : DispatchRow) :
    DispatchRow :=
  match outcome with
  | .returned result =>
      match durableIdentifier result with
      | some (providerId, providerStatus) =>
          { row with status := .accepted, providerId, providerStatus,
                     updatedAt := now }
      | none => { row with status := .ambiguous, updatedAt := now }
  | .raised exception =>
      { row with status := exceptionStatus exception, updatedAt := now }

@[simp] theorem outcomeRow_key (outcome : ProviderOutcome) (now : Int)
    (row : DispatchRow) : (outcomeRow outcome now row).key = row.key := by
  unfold outcomeRow
  split
  · split <;> rfl
  · rfl

@[simp] theorem outcomeRow_status (outcome : ProviderOutcome) (now : Int)
    (row : DispatchRow) :
    (outcomeRow outcome now row).status = outcomeStatus outcome := by
  cases outcome with
  | raised => rfl
  | returned result =>
      cases found : durableIdentifier result with
      | none | some => simp [outcomeRow, outcomeStatus, found]

def recordOutcome (table : DispatchTable) (intent : Intent)
    (outcome : ProviderOutcome) (now : Int) : DispatchTable :=
  table.updateWhere (fun row => decide (row.key = intent.key))
    (outcomeRow outcome now) (outcomeRow_key outcome now)

/-- What `dispatch` hands to its caller after the provider call. -/
def dispatchResult : ProviderOutcome → Except DispatchError Value
  | .returned result =>
      if (durableIdentifier result).isSome then .ok result
      else .error (.ambiguousDispatch "provider returned no durable identifier")
  | .raised exception =>
      if exceptionStatus exception = .ambiguous then
        .error (.ambiguousDispatch "provider outcome requires reconciliation")
      else .error (.provider exception)

def reconcile (table : DispatchTable) (tenantId dispatchKey : String)
    (providerId status : Value) (now : Int) : Bool × DispatchTable :=
  match table.find? (tenantId, dispatchKey) with
  | none => (false, table)
  | some row =>
      if row.status ≠ .ambiguous then (false, table)
      else (true, table.updateWhere
        (fun row => decide (row.key = (tenantId, dispatchKey)))
        (fun row => { row with
          status := .accepted, providerId, providerStatus := status,
          updatedAt := now })
        (fun _ => rfl))

/-! Any number of workers over one ledger.  A worker that crashes stays where
it is. -/

inductive DispatchPhase where
  | idle
  | claimed (intent : Intent)
  | calling (intent : Intent)
  | returned (intent : Intent) (outcome : ProviderOutcome)

inductive ProviderEvent where
  | started (key : String × String)
  | ended (key : String × String) (status : DispatchStatus)
  deriving DecidableEq

structure DispatchSystem where
  ledger : DispatchTable
  workers : Nat → DispatchPhase
  events : List ProviderEvent

def DispatchSystem.initial : DispatchSystem := ⟨Table.empty, fun _ => .idle, []⟩

inductive DispatchAction where
  | claim (worker : Nat) (intent : Intent) (now : Int)
  | startCall (worker : Nat)
  | endCall (worker : Nat) (outcome : ProviderOutcome)
  | record (worker : Nat) (now : Int)
  | reconcile (tenantId dispatchKey : String) (providerId status : Value)
      (now : Int)

/-- One statement of one worker; an action its worker is not ready for changes
nothing. -/
def dispatchStep (system : DispatchSystem) :
    DispatchAction → DispatchSystem
  | .claim worker intent now =>
      match system.workers worker with
      | .idle =>
          match claim system.ledger intent now with
          | .ok ledger => { system with
              ledger
              workers := Function.update system.workers worker
                (.claimed intent) }
          | .error _ => system
      | _ => system
  | .startCall worker =>
      match system.workers worker with
      | .claimed intent => { system with
          workers := Function.update system.workers worker (.calling intent)
          events := .started intent.key :: system.events }
      | _ => system
  | .endCall worker outcome =>
      match system.workers worker with
      | .calling intent => { system with
          workers := Function.update system.workers worker
            (.returned intent outcome)
          events := .ended intent.key (outcomeStatus outcome) :: system.events }
      | _ => system
  | .record worker now =>
      match system.workers worker with
      | .returned intent outcome => { system with
          ledger := recordOutcome system.ledger intent outcome now
          workers := Function.update system.workers worker .idle }
      | _ => system
  | .reconcile tenantId dispatchKey providerId status now => { system with
      ledger :=
        (reconcile system.ledger tenantId dispatchKey providerId status now).2 }

end AcpTask.Dispatch
