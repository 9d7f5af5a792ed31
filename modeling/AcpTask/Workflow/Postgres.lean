import AcpTask.Workflow.Executor

namespace AcpTask.Workflow

open Library

def Lease.isOpen (row : Lease) : Bool :=
  row.consumedAt.isNone && row.revokedAt.isNone

namespace Postgres

variable (digests : Digests) (store : WorkflowStore)

/-! The statements of the Postgres repository that differ from the SQLite ones.
A transaction takes the rows it locks one after the other, so its statements
run as one step; what a concurrent transaction still holds is an argument. -/

def dependenciesCompleted (row : Step) : Bool :=
  row.dependsOn.all fun dependency =>
    (store.steps.find? (row.workflowRevisionId, dependency)).any fun parent =>
      parent.tenantId == row.tenantId && parent.executionStatus == .completed

/-- `order by step_id for update skip locked limit 1`. -/
def selectReady (target : Target) (now : Int) (locked : List StepKey) :
    Option Step :=
  ((store.steps.rows.filter fun row => target.queued row &&
    (row.retryAt.all fun retryAt => decide (retryAt ≤ now)) &&
    dependenciesCompleted store row && !locked.contains row.key).mergeSort
      fun left right => decide (left.stepId ≤ right.stepId)).head?

/-- `workflow_one_active_lease` allows one open lease a step. -/
def insertLease (row : Lease) : Except WorkflowError WorkflowStore := do
  require (!store.leases.rows.any fun other =>
    decide (other.step = row.step) && other.isOpen) .integrityError
  Workflow.insertLease store row

def claimReadyStep (target : Target) (workerId token : String)
    (now leaseTtlSeconds maxAttempts : Int) (locked : List StepKey) :
    Except WorkflowError (Option Claim) × WorkflowStore :=
  transaction store fun store => do
    let trimmed := failExhausted store target maxAttempts
    match selectReady trimmed target now locked with
    | none => pure (none, trimmed)
    | some selected =>
        let attempt := selected.attempt + 1
        let leased ← insertLease
            (startAttempt trimmed selected.key attempt workerId now) {
          leaseHash := digests.lease token, step := selected.key, attempt
          tenantId := target.tenantId, workerId
          expiresAt := now + leaseTtlSeconds }
        pure (some ⟨token, selected.key, attempt⟩, leased)

def consumeLease (key : StepKey) (tenantId : String) (attempt : Nat)
    (now : Int) : WorkflowStore :=
  { store with
    leases := store.leases.updateWhere
      (fun row => decide (row.step = key) && row.tenantId == tenantId &&
        row.attempt == attempt && row.isOpen)
      (fun row => { row with consumedAt := some now }) (fun _ => by rfl) }

theorem key_closedRevision (row : Revision) :
    Revision.workflowRevisionId { row with status := .completed } =
      row.workflowRevisionId := rfl

theorem key_closedRun (now : Int) (row : WorkflowRun) :
    WorkflowRun.workflowRunId
        { row with status := .completed, updatedAt := now } =
      row.workflowRunId := rfl

theorem key_completed (result : DispatchResult) (current row : Step) :
    Step.key { row with
      executionStatus := .completed
      verificationStatus := current.effect.verification
      terminalReason := none
      output := some result.output.orEmpty } = row.key := rfl

theorem key_requeued (row : Step) :
    Step.key { row with executionStatus := .queued, terminalReason := none } =
      row.key := rfl

/-- A completion that another transaction has not committed yet is missed when
the remaining steps are read. -/
def closeRevision (workflowRevisionId : String)
    (tenantId workflowRunId : String) (now : Int) (missed : Bool) :
    WorkflowStore :=
  if missed || store.steps.rows.any fun row =>
      row.workflowRevisionId == workflowRevisionId &&
        row.tenantId == tenantId &&
        !row.executionStatus.settled then store
  else
    { store with
      revisions := store.revisions.updateWhere
        (fun row => row.workflowRevisionId == workflowRevisionId &&
          row.tenantId == tenantId)
        (fun row => { row with status := .completed }) key_closedRevision
      runs := store.runs.updateWhere
        (fun row => row.workflowRunId == workflowRunId &&
          row.tenantId == tenantId)
        (fun row => { row with status := .completed, updatedAt := now })
        (key_closedRun now) }

def persistCompletion (key : StepKey) (tenantId : String) (attempt : Nat)
    (result : DispatchResult) (now : Int) (missed : Bool) :
    Except WorkflowError Unit × WorkflowStore :=
  transaction store fun store => do
    require result.receipt.serializable .typeError
    let attestationId ← attestationIdOf result.attestation
    match (store.steps.find? key).filter fun row => row.is key tenantId with
    | none => .error (.valueError "workflow step not found")
    | some current => do
        require (current.effect == .read || attestationId.isSome)
          (.valueError "attestation_id is required for writes")
        require result.output.serializable .typeError
        require (current.completes key tenantId attempt)
          (.valueError "workflow step completion binding changed")
        let completed := updateSteps store
          (fun row => row.completes key tenantId attempt)
          (fun row => { row with
            executionStatus := .completed
            verificationStatus := current.effect.verification
            terminalReason := none
            output := some result.output.orEmpty })
          (key_completed result current)
        let receiptId := "receipt:" ++ digests.receipt key attempt result.receipt
        let received ← insertReceipt completed {
          receiptId, step := key, attempt, tenantId
          receipt := result.receipt, createdAt := now }
        require (attestationId.isNone || result.attestation.serializable)
          .typeError
        let attested ← attest received attestationId fun attestationId => {
          attestationId, receiptId, step := key, tenantId
          attestation := result.attestation, createdAt := now }
        pure ((), closeRevision (consumeLease attested key tenantId attempt now)
          key.1 tenantId current.workflowRunId now missed)

/-- `join … and s.tenant_id = l.tenant_id … for update of l, s skip locked`. -/
def abandoned (now : Int) (skipped : List String) (lease : Lease) :
    Option (Lease × Step) :=
  if decide (lease.expiresAt < now) && lease.isOpen &&
      !skipped.contains lease.leaseHash then
    ((store.steps.find? lease.step).filter fun row =>
      row.tenantId == lease.tenantId &&
        row.executionStatus == .running).map fun row => (lease, row)
  else none

def recoverExpiredClaims (now : Int) (skipped : List String) : WorkflowStore :=
  (store.leases.rows.filterMap (abandoned store now skipped)).foldl
    (fun store item => recoverClaim store now item.1 item.2.effect) store

/-- `_step_transition`, for which a time of 0 is no time. -/
def releaseForRetry (key : StepKey) (tenantId reason : String) (retryAt : Int) :
    WorkflowStore :=
  updateSteps store (fun row => row.is key tenantId)
    (fun row => { row with
      executionStatus := .queued, terminalReason := some reason
      claimedBy := none, claimedAt := none
      retryAt := if retryAt = 0 then none else some retryAt })
    (fun _ => by rfl)

def applyReconciliation (key : StepKey) (tenantId : String) (attempt : Nat)
    (result : Reconciliation) (missed : Bool) :
    Except WorkflowError Unit × WorkflowStore :=
  match result.executionStatus with
  | .completed =>
      match result.receipt, result.attestation with
      | .dict receipt, .dict attestation =>
          persistCompletion digests store key tenantId attempt
            { receipt := .dict receipt
              attestation := .dict attestation
              output := result.output.getD (.dict receipt) }
            result.reconciledAt missed
      | _, _ =>
          (.error (.valueError
            "reconciled completion requires a receipt and signed attestation"),
            store)
  | _ => Workflow.applyReconciliation digests store key tenantId attempt result

/-- `text LIKE 'pattern%'` in Postgres: letters match in their own case, and an
underscore matches any character. -/
def likePrefix : List Char → List Char → Bool
  | [], _ => true
  | _ :: _, [] => false
  | wanted :: pattern, char :: text =>
      (wanted == '_' || wanted == char) && likePrefix pattern text

def switchable (reason : String) : Bool :=
  reason == "dispatch policy disabled" ||
    reason == "capability rollout is disabled" ||
    likePrefix "control_plane:".toList reason.toList

def resumePolicyPaused : WorkflowStore :=
  updateSteps store
    (fun row => row.executionStatus == .pausedByPolicy &&
      row.terminalReason.any switchable)
    (fun row => { row with
      executionStatus := .queued, terminalReason := none })
    key_requeued

def authorizeRequestedRead
    (workflowRunId workflowRevisionId tenantId graphHash requestedBy : String)
    (now ttlSeconds : Int) : Except WorkflowError Unit × WorkflowStore :=
  transaction store fun store => do
    let effects := (store.steps.rows.filter fun row =>
      row.workflowRunId == workflowRunId &&
        row.workflowRevisionId == workflowRevisionId &&
        row.tenantId == tenantId).map Step.effect
    require (!effects.isEmpty && effects.all fun effect => effect == .read)
      (.valueError "requested_read authorization requires a read-only revision")
    let authorized ← approve store workflowRunId workflowRevisionId tenantId
      graphHash requestedBy now (now + ttlSeconds) .requestedRead .authorized
      "revision approval binding changed"
    pure ((), authorized)

end Postgres

end AcpTask.Workflow
