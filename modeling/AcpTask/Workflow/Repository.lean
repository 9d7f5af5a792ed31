import Mathlib.Order.Lattice
import AcpTask.Data.Value
import AcpTask.Library.Table
import AcpTask.Library.Transaction

namespace AcpTask.Workflow

open Data Library

variable (digests : Digests) (store : WorkflowStore)

inductive RunStatus where
  | draft
  | completed
  | cancelled
  deriving DecidableEq

inductive RevisionStatus where
  | draft
  | awaitingApproval
  | approved
  | authorized
  | executing
  | inProgress
  | completed
  | superseded
  | cancelled
  deriving DecidableEq

inductive StepEffect where
  | read
  | write
  deriving DecidableEq

inductive ExecutionStatus where
  | queued
  | running
  | completed
  | executionUnknown
  | pausedByPolicy
  | failed
  | cancelled
  deriving DecidableEq

inductive VerificationStatus where
  | notRequired
  | pending
  | verified
  | inconclusive
  | failed
  deriving DecidableEq

inductive AuthorizationMode where
  | explicitWrite
  | requestedRead
  | campaignEnvelope

structure WorkflowRun where
  workflowRunId : String
  tenantId : String
  userPrincipalId : String
  goalHash : String
  status : RunStatus := .draft
  currentRevisionId : Option String := none
  createdAt : Int
  updatedAt : Int

structure Revision where
  workflowRevisionId : String
  workflowRunId : String
  tenantId : String
  revisionNumber : Nat
  planGraphHash : String
  status : RevisionStatus := .draft
  createdAt : Int

structure Step where
  workflowRevisionId : String
  stepId : String
  workflowRunId : String
  tenantId : String
  capabilityId : String
  capabilityVersion : String
  connectionId : Option String := none
  descriptorSnapshotHash : String
  credentialVersion : Int := 0
  inputHash : String
  input : Value
  output : Option Value := none
  contentExpiresAt : Option Int := none
  dependsOn : List String
  effect : StepEffect
  executionStatus : ExecutionStatus := .queued
  verificationStatus : VerificationStatus := .notRequired
  attempt : Nat := 0
  uncountedAttempts : Nat := 0
  claimedBy : Option String := none
  claimedAt : Option Int := none
  retryAt : Option Int := none
  reconcileAfter : Option Int := none
  reconcileAttempts : Nat := 0
  terminalReason : Option String := none

abbrev StepKey := String × String

abbrev Step.key (row : Step) : StepKey := (row.workflowRevisionId, row.stepId)

structure Approval where
  workflowRevisionId : String
  workflowRunId : String
  tenantId : String
  planGraphHash : String
  approvedBy : String
  approvedAt : Int
  expiresAt : Option Int
  authorizationMode : AuthorizationMode

structure CampaignBinding where
  workflowRevisionId : String
  workflowRunId : String
  tenantId : String
  campaignId : String
  envelopeHash : String

structure Lease where
  leaseHash : String
  step : StepKey
  attempt : Nat
  tenantId : String
  workerId : String
  expiresAt : Int
  consumedAt : Option Int := none
  revokedAt : Option Int := none

structure Receipt where
  receiptId : String
  step : StepKey
  attempt : Nat
  tenantId : String
  receipt : Value
  createdAt : Int

structure Attestation where
  attestationId : String
  receiptId : String
  step : StepKey
  tenantId : String
  attestation : Value
  createdAt : Int

structure WorkflowStore where
  runs : Table WorkflowRun WorkflowRun.workflowRunId
  revisions : Table Revision Revision.workflowRevisionId
  steps : Table Step Step.key
  approvals : Table Approval Approval.workflowRevisionId
  bindings : Table CampaignBinding CampaignBinding.workflowRevisionId
  leases : Table Lease Lease.leaseHash
  receipts : Table Receipt Receipt.receiptId
  attestations : Table Attestation Attestation.attestationId

def WorkflowStore.empty : WorkflowStore :=
  ⟨Table.empty, Table.empty, Table.empty, Table.empty, Table.empty,
    Table.empty, Table.empty, Table.empty⟩

inductive WorkflowError where
  | valueError (message : String)
  | typeError
  | attributeError
  | integrityError

structure Digests where
  lease : String → String
  receipt : StepKey → Nat → Value → String

/-- `INSERT`; a taken primary key is an integrity error. -/
def insertInto {Row Key : Type} {keyOf : Row → Key} [DecidableEq Key]
    (table : Table Row keyOf) (row : Row) :
    Except WorkflowError (Table Row keyOf) :=
  match table.insert? row with
  | some later => .ok later
  | none => .error .integrityError

def updateSteps (condition : Step → Bool) (assign : Step → Step)
    (keepsKey : ∀ row, (assign row).key = row.key) : WorkflowStore :=
  { store with steps := store.steps.updateWhere condition assign keepsKey }

/-- `WHERE workflow_revision_id = ? AND step_id = ? AND tenant_id = ?`. -/
def Step.is (row : Step) (key : StepKey) (tenantId : String) : Bool :=
  decide (row.key = key) && row.tenantId == tenantId

/-! Runs and revisions. -/

def createRun (workflowRunId tenantId userPrincipalId goalHash : String)
    (now : Int) : Except WorkflowError Unit × WorkflowStore :=
  transaction store fun store => do
    require (tenantId != "") (.valueError "tenant_id is required")
    let runs ← insertInto store.runs {
      workflowRunId, tenantId, userPrincipalId, goalHash,
      createdAt := now, updatedAt := now }
    pure ((), { store with runs })

/-- A step of the plan that `create_revision` is given. -/
structure PlannedStep where
  stepId : String
  capabilityId : String
  capabilityVersion : String
  connectionId : Option String := none
  descriptorSnapshotHash : String
  credentialVersion : Option Int := none
  inputHash : String
  input : Value := .dict []
  dependsOn : List String := []
  effect : StepEffect

def PlannedStep.row (planned : PlannedStep)
    (workflowRevisionId workflowRunId tenantId : String)
    (now contentTtlSeconds : Int) : Step where
  workflowRevisionId
  stepId := planned.stepId
  workflowRunId
  tenantId
  capabilityId := planned.capabilityId
  capabilityVersion := planned.capabilityVersion
  connectionId := planned.connectionId
  descriptorSnapshotHash := planned.descriptorSnapshotHash
  credentialVersion := planned.credentialVersion.getD 0
  inputHash := planned.inputHash
  input := planned.input
  dependsOn := planned.dependsOn
  effect := planned.effect
  verificationStatus :=
    if planned.effect = .write then .pending else .notRequired
  contentExpiresAt := some (now + contentTtlSeconds)

def RevisionStatus.live : RevisionStatus → Bool
  | .draft | .awaitingApproval | .approved | .authorized => true
  | _ => false

/-- The statuses `create_revision` and `cancel_revision` cancel. -/
def ExecutionStatus.cancellable : ExecutionStatus → Bool
  | .queued | .pausedByPolicy => true
  | _ => false

def lastRevisionNumber (workflowRunId : String) : Nat :=
  ((store.revisions.rows.filter fun row =>
    row.workflowRunId == workflowRunId).map Revision.revisionNumber).foldl max 0

def insertStep (row : Step) : Except WorkflowError WorkflowStore := do
  let steps ← insertInto store.steps row
  pure { store with steps }

def supersede (workflowRunId : String) : WorkflowStore :=
  updateSteps
    { store with
      revisions := store.revisions.updateWhere
        (fun row => row.workflowRunId == workflowRunId && row.status.live)
        (fun row => { row with status := .superseded }) (fun _ => rfl) }
    (fun row => row.workflowRunId == workflowRunId &&
      row.executionStatus.cancellable)
    (fun row => { row with
      executionStatus := .cancelled
      terminalReason := some "superseded by a new revision" })
    (fun _ => rfl)

def createRevision
    (workflowRevisionId workflowRunId tenantId planGraphHash : String)
    (plan : List PlannedStep) (now contentTtlSeconds : Int) :
    Except WorkflowError Unit × WorkflowStore :=
  transaction store fun store => do
    require ((store.runs.find? workflowRunId).any fun run =>
      run.tenantId == tenantId) (.valueError "workflow run not found")
    let superseded := supersede store workflowRunId
    let revisions ← insertInto superseded.revisions {
      workflowRevisionId, workflowRunId, tenantId, planGraphHash,
      revisionNumber := lastRevisionNumber store workflowRunId + 1,
      createdAt := now }
    let filled ← plan.foldlM (fun store planned => insertStep store
        (planned.row workflowRevisionId workflowRunId tenantId now
          contentTtlSeconds))
      { superseded with revisions }
    pure ((), { filled with
      runs := filled.runs.updateWhere
        (fun row => row.workflowRunId == workflowRunId &&
          row.tenantId == tenantId)
        (fun row => { row with
          currentRevisionId := some workflowRevisionId, updatedAt := now })
        (fun _ => rfl) })

def draftRevision
    (workflowRunId workflowRevisionId tenantId planGraphHash : String) :
    Option Revision :=
  (store.revisions.find? workflowRevisionId).filter fun row =>
    row.workflowRunId == workflowRunId && row.tenantId == tenantId &&
      row.planGraphHash == planGraphHash && row.status == .draft

def approve (workflowRunId workflowRevisionId tenantId planGraphHash : String)
    (approvedBy : String) (now expiresAt : Int) (mode : AuthorizationMode)
    (status : RevisionStatus) (refusal : String) :
    Except WorkflowError WorkflowStore :=
  match draftRevision store workflowRunId workflowRevisionId tenantId
      planGraphHash with
  | none => .error (.valueError refusal)
  | some revision => do
      let approvals ← insertInto store.approvals {
        workflowRevisionId := revision.workflowRevisionId
        workflowRunId := revision.workflowRunId
        tenantId := revision.tenantId
        planGraphHash := revision.planGraphHash
        approvedBy, approvedAt := now, expiresAt := some expiresAt
        authorizationMode := mode }
      pure { store with
        approvals
        revisions := store.revisions.updateWhere
          (fun row => row.workflowRevisionId == workflowRevisionId)
          (fun row => { row with status }) (fun _ => rfl) }

def authorizeRequestedRead
    (workflowRunId workflowRevisionId tenantId graphHash requestedBy : String)
    (now ttlSeconds : Int) : Except WorkflowError Unit × WorkflowStore :=
  transaction store fun store => do
    let effects := (store.steps.rows.filter fun row =>
      row.workflowRunId == workflowRunId &&
        row.workflowRevisionId == workflowRevisionId &&
        row.tenantId == tenantId).map Step.effect
    require (!effects.isEmpty && effects.all fun effect => effect == .read)
      (.valueError "requested_read authorization requires a read-only revision")
    let authorized ← approve store workflowRunId workflowRevisionId tenantId
      graphHash requestedBy now (now + ttlSeconds) .requestedRead .authorized
      "revision authorization binding changed"
    pure ((), authorized)

def recordApproval
    (workflowRunId workflowRevisionId tenantId graphHash approvedBy : String)
    (now ttlSeconds : Int) : Except WorkflowError Unit × WorkflowStore :=
  transaction store fun store => do
    let approved ← approve store workflowRunId workflowRevisionId tenantId
      graphHash approvedBy now (now + ttlSeconds) .explicitWrite .approved
      "revision approval binding changed"
    pure ((), approved)

def recordCampaignAuthorization
    (workflowRunId workflowRevisionId tenantId graphHash : String)
    (campaignId envelopeHash authorizedBy : String)
    (now envelopeExpiresAt : Int) : Except WorkflowError Unit × WorkflowStore :=
  transaction store fun store => do
    require (decide (now < envelopeExpiresAt))
      (.valueError "campaign envelope is expired")
    let authorized ← approve store workflowRunId workflowRevisionId tenantId
      graphHash authorizedBy now envelopeExpiresAt .campaignEnvelope
      .authorized "campaign revision authorization binding changed"
    let bindings ← insertInto authorized.bindings {
      workflowRevisionId, workflowRunId, tenantId, campaignId, envelopeHash }
    pure ((), { authorized with bindings })

def RevisionStatus.executable : RevisionStatus → Bool
  | .approved | .authorized | .executing | .inProgress | .completed => true
  | _ => false

def AuthorizationMode.covers : AuthorizationMode → StepEffect → Bool
  | .explicitWrite, _ => true
  | .requestedRead, effect => effect == .read
  | .campaignEnvelope, effect => effect == .write

def isStepAuthorized
    (workflowRunId workflowRevisionId tenantId graphHash : String)
    (effect : StepEffect) (now : Int) : Bool :=
  let approval := (store.approvals.find? workflowRevisionId).filter
    fun row => row.workflowRunId == workflowRunId &&
      row.tenantId == tenantId && row.planGraphHash == graphHash
  let revision := (store.revisions.find? workflowRevisionId).filter
    fun row => row.workflowRunId == workflowRunId && row.tenantId == tenantId
  let run := (store.runs.find? workflowRunId).filter
    fun row => row.tenantId == tenantId
  match approval, revision, run with
  | some approval, some revision, some run =>
      run.currentRevisionId == some workflowRevisionId &&
      revision.status.executable &&
      (approval.expiresAt.all fun expiry => decide (now ≤ expiry)) &&
      approval.authorizationMode.covers effect
  | _, _, _ => false

def dependenciesCompleted (workflowRevisionId : String)
    (dependencies : List String) : Bool :=
  let rows := store.steps.rows.filter fun row =>
    row.workflowRevisionId == workflowRevisionId &&
      dependencies.contains row.stepId
  dependencies.isEmpty ||
    (rows.length == dependencies.length &&
      rows.all fun row => row.executionStatus == .completed)

/-- The revision a worker runs: `run_next`'s first three arguments. -/
structure Target where
  workflowRunId : String
  workflowRevisionId : String
  tenantId : String

def Target.queued (target : Target) (row : Step) : Bool :=
  row.workflowRunId == target.workflowRunId &&
    row.workflowRevisionId == target.workflowRevisionId &&
    row.tenantId == target.tenantId && row.executionStatus == .queued

structure Claim where
  lease : String
  step : StepKey
  attempt : Nat
  deriving DecidableEq

def failExhausted (target : Target) (maxAttempts : Int) : WorkflowStore :=
  updateSteps store
    (fun row => target.queued row && decide
      (maxAttempts ≤ (row.attempt : Int) - (row.uncountedAttempts : Int)))
    (fun row => { row with
      executionStatus := .failed
      terminalReason := some "maximum attempts exceeded" })
    (fun _ => rfl)

def selectReady (target : Target) (now : Int) : Option Step :=
  (store.steps.rows.filter fun row => target.queued row &&
    row.retryAt.all fun retryAt => decide (retryAt ≤ now)).find? fun row =>
      dependenciesCompleted store target.workflowRevisionId row.dependsOn

/-- `INSERT INTO workflow_leases`: neither the token nor the attempt was leased
before. -/
def insertLease (row : Lease) : Except WorkflowError WorkflowStore := do
  require (!store.leases.rows.any fun other =>
    decide (other.step = row.step) && other.attempt == row.attempt)
    .integrityError
  let leases ← insertInto store.leases row
  pure { store with leases }

def startAttempt (key : StepKey) (attempt : Nat) (workerId : String)
    (now : Int) : WorkflowStore :=
  updateSteps store
    (fun row => decide (row.key = key) && row.executionStatus == .queued)
    (fun row => { row with
      executionStatus := .running, attempt
      claimedBy := some workerId, claimedAt := some now, retryAt := none })
    (fun _ => rfl)

def claimReadyStep (target : Target) (workerId token : String)
    (now leaseTtlSeconds maxAttempts : Int) :
    Except WorkflowError (Option Claim) × WorkflowStore :=
  transaction store fun store => do
    let trimmed := failExhausted store target maxAttempts
    match selectReady trimmed target now with
    | none => pure (none, trimmed)
    | some selected =>
        let attempt := selected.attempt + 1
        let leased ← insertLease
            (startAttempt trimmed selected.key attempt workerId now) {
          leaseHash := digests.lease token, step := selected.key, attempt
          tenantId := target.tenantId, workerId
          expiresAt := now + leaseTtlSeconds }
        pure (some ⟨token, selected.key, attempt⟩, leased)

def finishClaimLease (claim : Claim) (tenantId : String) (now : Int)
    (consumed : Bool) : WorkflowStore :=
  { store with
    leases := store.leases.updateWhere
      (fun row => claim.lease != "" &&
        row.leaseHash == digests.lease claim.lease &&
        decide (row.step = claim.step) && row.attempt == claim.attempt &&
        row.tenantId == tenantId && row.consumedAt.isNone &&
        row.revokedAt.isNone)
      (fun row => if consumed then { row with consumedAt := some now }
        else { row with revokedAt := some now })
      (fun _ => by split <;> rfl) }

/-- `_step_update`: whatever the step's status and attempt are by then. -/
def stepUpdate (key : StepKey) (tenantId : String) (status : ExecutionStatus)
    (reason : Option String) : WorkflowStore :=
  updateSteps store (fun row => row.is key tenantId)
    (fun row => { row with
      executionStatus := status, terminalReason := reason
      claimedBy := none, claimedAt := none, retryAt := none })
    (fun _ => rfl)

def markExecutionUnknown (key : StepKey) (tenantId reason : String) :
    WorkflowStore :=
  stepUpdate store key tenantId .executionUnknown (some reason)

def pauseByPolicy (key : StepKey) (tenantId reason : String) : WorkflowStore :=
  stepUpdate store key tenantId .pausedByPolicy (some reason)

def releaseForRetry (key : StepKey) (tenantId reason : String) (retryAt : Int) :
    WorkflowStore :=
  updateSteps store (fun row => row.is key tenantId)
    (fun row => { row with
      executionStatus := .queued, terminalReason := some reason
      claimedBy := none, claimedAt := none, retryAt := some retryAt })
    (fun _ => rfl)

def releaseWithoutConsumingAttempt (key : StepKey) (tenantId reason : String)
    (retryAt : Int) (attempt : Nat) : WorkflowStore :=
  updateSteps store
    (fun row => row.is key tenantId && row.attempt == attempt &&
      row.executionStatus == .running)
    (fun row => { row with
      executionStatus := .queued, terminalReason := some reason
      claimedBy := none, claimedAt := none, retryAt := some retryAt
      uncountedAttempts := row.uncountedAttempts + 1 })
    (fun _ => rfl)

/-- `(attestation or {}).get("attestation_id")`, as the text it is. -/
def attestationIdOf : Value → Except WorkflowError (Option String)
  | .dict items =>
      match Value.lookup items "attestation_id" with
      | .str id => .ok (if id = "" then none else some id)
      | value => if value.truthy then .error .typeError else .ok none
  | value => if value.truthy then .error .attributeError else .ok none

def ExecutionStatus.completable : ExecutionStatus → Bool
  | .running | .executionUnknown => true
  | _ => false

def Step.completes (row : Step) (key : StepKey) (tenantId : String)
    (attempt : Nat) : Bool :=
  row.is key tenantId && row.attempt == attempt &&
    row.executionStatus.completable

def insertReceipt (row : Receipt) : Except WorkflowError WorkflowStore := do
  require (!store.receipts.rows.any fun other =>
    decide (other.step = row.step) && other.attempt == row.attempt)
    .integrityError
  let receipts ← insertInto store.receipts row
  pure { store with receipts }

def insertAttestation (row : Attestation) :
    Except WorkflowError WorkflowStore := do
  require (!store.attestations.rows.any fun other =>
    other.receiptId == row.receiptId) .integrityError
  let attestations ← insertInto store.attestations row
  pure { store with attestations }

def attest (attestationId : Option String) (row : String → Attestation) :
    Except WorkflowError WorkflowStore :=
  match attestationId with
  | none => .ok store
  | some attestationId => insertAttestation store (row attestationId)

def closeRevision (workflowRevisionId : String) (tenantId : String)
    (now : Int) : WorkflowStore :=
  if store.steps.rows.any fun row =>
      row.workflowRevisionId == workflowRevisionId &&
        row.executionStatus != .completed then store
  else
    { store with
      revisions := store.revisions.updateWhere
        (fun row => row.workflowRevisionId == workflowRevisionId &&
          row.tenantId == tenantId)
        (fun row => { row with status := .completed }) (fun _ => rfl)
      runs := store.runs.updateWhere
        (fun row => row.currentRevisionId == some workflowRevisionId &&
          row.tenantId == tenantId)
        (fun row => { row with status := .completed, updatedAt := now })
        (fun _ => rfl) }

def StepEffect.verification : StepEffect → VerificationStatus
  | .write => .pending
  | .read => .notRequired

structure DispatchResult where
  receipt : Value
  attestation : Value
  output : Value

def persistCompletion (key : StepKey) (tenantId : String) (attempt : Nat)
    (result : DispatchResult) (now : Int) :
    Except WorkflowError Unit × WorkflowStore :=
  transaction store fun store => do
    require (result.receipt.serializable && result.attestation.serializable)
      .typeError
    let attestationId ← attestationIdOf result.attestation
    match (store.steps.find? key).filter fun row => row.is key tenantId with
    | none => .error (.valueError "workflow step not found")
    | some current => do
        require (current.effect == .read || attestationId.isSome)
          (.valueError "attestation_id is required for writes")
        require result.output.serializable .typeError
        require (current.completes key tenantId attempt)
          (.valueError "workflow step completion binding changed")
        let completed := updateSteps store
          (fun row => row.completes key tenantId attempt)
          (fun row => { row with
            executionStatus := .completed
            verificationStatus := current.effect.verification
            terminalReason := none
            output := some result.output.orEmpty })
          (fun _ => rfl)
        let receiptId := "receipt:" ++ digests.receipt key attempt result.receipt
        let received ← insertReceipt completed {
          receiptId, step := key, attempt, tenantId
          receipt := result.receipt, createdAt := now }
        let attested ← attest received attestationId fun attestationId => {
          attestationId, receiptId, step := key, tenantId
          attestation := result.attestation, createdAt := now }
        pure ((), closeRevision attested key.1 tenantId now)

def abandoned (now : Int) (lease : Lease) : Option (Lease × Step) :=
  if decide (lease.expiresAt < now) && lease.consumedAt.isNone &&
      lease.revokedAt.isNone then
    ((store.steps.find? lease.step).filter fun row =>
      row.executionStatus == .running).map fun row => (lease, row)
  else none

def StepEffect.recovered : StepEffect → ExecutionStatus
  | .write => .executionUnknown
  | .read => .queued

def recoverClaim (now : Int) (lease : Lease) (effect : StepEffect) :
    WorkflowStore :=
  let recovered := updateSteps store
    (fun row => row.is lease.step lease.tenantId &&
      row.executionStatus == .running)
    (fun row => { row with
      executionStatus := effect.recovered, claimedBy := none
      claimedAt := none, terminalReason := some "worker lease expired" })
    (fun _ => rfl)
  { recovered with
    leases := recovered.leases.updateWhere
      (fun row => row.leaseHash == lease.leaseHash)
      (fun row => { row with revokedAt := some now }) (fun _ => rfl) }

def recoverExpiredClaims (now : Int) : WorkflowStore :=
  (store.leases.rows.filterMap (abandoned store now)).foldl
    (fun store item => recoverClaim store now item.1 item.2.effect) store

def claimUnresolvedWriteStep (key : StepKey) (tenantId : String) (attempt : Nat)
    (workerId : String) (now visibilitySeconds : Int) : WorkflowStore :=
  updateSteps store
    (fun row => row.is key tenantId && row.attempt == attempt &&
      row.executionStatus == .executionUnknown &&
      row.reconcileAfter.all fun due => decide (due ≤ now))
    (fun row => { row with
      claimedBy := some workerId
      reconcileAfter := some (now + visibilitySeconds)
      reconcileAttempts := row.reconcileAttempts + 1 })
    (fun _ => rfl)

def deferReconciliation (key : StepKey) (tenantId : String) (attempt : Nat)
    (reason : String) (retryAt : Int) : WorkflowStore :=
  updateSteps store
    (fun row => row.is key tenantId && row.attempt == attempt &&
      row.executionStatus == .executionUnknown)
    (fun row => { row with
      terminalReason := some reason, claimedBy := none
      reconcileAfter := some retryAt })
    (fun _ => rfl)

structure Reconciliation where
  executionStatus : ExecutionStatus
  verificationStatus : VerificationStatus := .pending
  receipt : Value := .none
  attestation : Value := .none
  output : Option Value := none
  reconciledAt : Int := 0

def applyReconciliation (key : StepKey) (tenantId : String) (attempt : Nat)
    (result : Reconciliation) : Except WorkflowError Unit × WorkflowStore :=
  match result.executionStatus with
  | .completed =>
      match result.receipt, result.attestation with
      | .dict receipt, .dict attestation =>
          persistCompletion digests store key tenantId attempt
            { receipt := .dict receipt
              attestation := .dict attestation
              output := result.output.getD (.dict receipt) }
            result.reconciledAt
      | _, _ =>
          (.error (.valueError
            "reconciled completion requires a receipt and signed attestation"),
            store)
  | .queued | .executionUnknown =>
      (.ok (), updateSteps store
        (fun row => row.is key tenantId && row.attempt == attempt &&
          row.executionStatus == .executionUnknown)
        (fun row => { row with
          executionStatus := result.executionStatus
          verificationStatus := result.verificationStatus
          claimedBy := none, claimedAt := none })
        (fun _ => rfl))
  | _ => (.error (.valueError "invalid reconciliation transition"), store)

def setVerificationStatus (key : StepKey) (tenantId : String)
    (status : VerificationStatus) : WorkflowStore :=
  if status = .notRequired then store
  else updateSteps store
    (fun row => row.is key tenantId && row.executionStatus == .completed)
    (fun row => { row with verificationStatus := status }) (fun _ => rfl)

/-- `text LIKE 'pattern%'` in SQLite: ASCII letters match in either case and an
underscore matches any character. -/
def likePrefix : List Char → List Char → Bool
  | [], _ => true
  | _ :: _, [] => false
  | wanted :: pattern, char :: text =>
      (wanted == '_' || wanted.toLower == char.toLower) &&
        likePrefix pattern text

def switchable (reason : String) : Bool :=
  reason == "dispatch policy disabled" ||
    reason == "capability rollout is disabled" ||
    likePrefix "control_plane:".toList reason.toList

def resumePolicyPaused : WorkflowStore :=
  updateSteps store
    (fun row => row.executionStatus == .pausedByPolicy &&
      row.terminalReason.any switchable)
    (fun row => { row with
      executionStatus := .queued, terminalReason := none })
    (fun _ => rfl)

/-! `cancel_revision` runs three statements, each committed by itself. -/

def cancelSteps (target : Target) : WorkflowStore :=
  updateSteps store
    (fun row => row.workflowRunId == target.workflowRunId &&
      row.workflowRevisionId == target.workflowRevisionId &&
      row.tenantId == target.tenantId && row.executionStatus.cancellable)
    (fun row => { row with executionStatus := .cancelled }) (fun _ => rfl)

def Target.unsuperseded (target : Target) (row : Revision) : Bool :=
  row.workflowRunId == target.workflowRunId &&
    row.workflowRevisionId == target.workflowRevisionId &&
    row.tenantId == target.tenantId && row.status != .superseded

def cancelRevisionRow (target : Target) : Bool × WorkflowStore :=
  (store.revisions.rows.any target.unsuperseded,
    { store with
      revisions := store.revisions.updateWhere target.unsuperseded
        (fun row => { row with status := .cancelled }) (fun _ => rfl) })

def cancelRun (target : Target) : WorkflowStore :=
  { store with
    runs := store.runs.updateWhere
      (fun row => row.workflowRunId == target.workflowRunId &&
        row.currentRevisionId == some target.workflowRevisionId &&
        row.tenantId == target.tenantId)
      (fun row => { row with status := .cancelled }) (fun _ => rfl) }

def retrySafeRead (target : Target) (stepId : String) : WorkflowStore :=
  updateSteps store
    (fun row => target.queued row && row.stepId == stepId &&
      row.effect == .read && row.retryAt.isSome)
    (fun row => { row with retryAt := none, terminalReason := none })
    (fun _ => rfl)

def retryCorrectedWrite (key : StepKey) (tenantId : String) : WorkflowStore :=
  updateSteps store
    (fun row => row.is key tenantId && row.effect == .write &&
      row.executionStatus == .pausedByPolicy &&
      row.terminalReason.any fun reason =>
        likePrefix "missing_scope:".toList reason.toList)
    (fun row => { row with
      executionStatus := .queued, terminalReason := none
      claimedBy := none, claimedAt := none })
    (fun _ => rfl)

def ExecutionStatus.settled : ExecutionStatus → Bool
  | .completed | .cancelled | .failed => true
  | _ => false

def purgeExpiredContent (now : Int) : WorkflowStore :=
  updateSteps store
    (fun row => row.executionStatus.settled &&
      row.contentExpiresAt.any fun expiry => decide (expiry < now))
    (fun row => { row with input := .dict [], output := none })
    (fun _ => rfl)

end AcpTask.Workflow
