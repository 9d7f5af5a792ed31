import AcpTask.Library.Run
import AcpTask.Library.Table
import AcpTask.Library.Transaction

namespace AcpTask.Action

open Library

variable (store : ActionStore)

inductive ProposalStatus where
  | proposed
  | approved
  | rejected
  | superseded
  | executing
  | executionUnknown
  | completed
  | failed
  deriving DecidableEq

structure Authority where
  profile : String := "bot"
  profileId : String := "none"
  slackSubjectId : String := "none"
  deriving DecidableEq

/-- A row of `action_proposals`; payload and receipts by their canonical
JSON. -/
structure Proposal where
  proposalId : String
  version : Nat
  userPrincipalId : String
  agentPrincipalId : String
  credentialId : String
  capabilityId : String
  payloadJson : String
  payloadHash : String
  idempotencyKey : String
  status : ProposalStatus := .proposed
  expiresAt : Int
  approvedAt : Option Int := none
  rejectedAt : Option Int := none
  executionStartedAt : Option Int := none
  dispatchedAt : Option Int := none
  executionFinishedAt : Option Int := none
  receiptJson : Option String := none
  brokerResponseJson : Option String := none
  failureReason : Option String := none
  tenantId : String := "legacy"
  workflowRevisionId : String := "legacy"
  stepId : String := "legacy"
  planGraphHash : String := "legacy"
  connectionId : String := "legacy"
  attempt : Int := 0
  authority : Authority := {}
  reinforced : Bool := false
  deriving DecidableEq

abbrev Proposal.key (row : Proposal) : String × Nat :=
  (row.proposalId, row.version)

structure Lease where
  leaseHash : String
  userPrincipalId : String
  agentPrincipalId : String
  taskId : String
  credentialId : String
  capabilities : List String
  expiresAt : Int
  revokedAt : Option Int := none
  consumedAt : Option Int := none
  tenantId : String := "legacy"
  workflowRevisionId : String := "legacy"
  stepId : String := "legacy"
  planGraphHash : String := "legacy"
  connectionId : String := "legacy"
  attempt : Int := 0
  authority : Authority := {}

abbrev Lease.key (row : Lease) : String := row.leaseHash

theorem Lease.key_revoked (now : Int) (row : Lease) :
    Lease.key { row with revokedAt := some now } = row.key := rfl

theorem Lease.key_consumed (now : Int) (row : Lease) :
    Lease.key { row with consumedAt := some now } = row.key := rfl

structure ActionStore where
  proposals : Table Proposal Proposal.key
  leases : Table Lease Lease.key

def ActionStore.empty : ActionStore := ⟨Table.empty, Table.empty⟩

inductive ActionError where
  | valueError (message : String)
  | integrityError
  deriving DecidableEq

def legacyTenant : String := "legacy"

/-- `tenant_id or LEGACY_TENANT`. -/
def tenantOr (tenantId : Option String) : String :=
  match tenantId with
  | some tenant => if tenant = "" then legacyTenant else tenant
  | none => legacyTenant

def tenantScope (tenantId : Option String) (rowTenant : String) : Bool :=
  rowTenant == legacyTenant || rowTenant == tenantOr tenantId

def orDefault (value default : String) : String :=
  if value = "" then default else value

def Authority.orDefaults (authority : Authority) : Authority where
  profile := orDefault authority.profile "bot"
  profileId := orDefault authority.profileId "none"
  slackSubjectId := orDefault authority.slackSubjectId "none"

/-! Proposals. -/

/-- The arguments of `create_proposal`, with the identifiers it would otherwise
draw itself. -/
structure ProposalRequest where
  proposalId : String
  idempotencyKey : String
  userPrincipalId : String
  agentPrincipalId : String
  credentialId : String
  capabilityId : String
  payloadJson : String
  payloadHash : String
  expiresAt : Int
  workflowRevisionId : String := "legacy"
  stepId : String := "legacy"
  planGraphHash : String := "legacy"
  connectionId : String := "legacy"
  attempt : Int := 0
  authority : Authority := {}
  reinforced : Bool := false
  tenantId : Option String := none

def ProposalRequest.dynamic (request : ProposalRequest) : Bool :=
  request.workflowRevisionId != "legacy"

def endsWith (text suffix : String) : Bool :=
  suffix.toList.isSuffixOf text.toList

def ProposalRequest.attemptKey (request : ProposalRequest) : String :=
  let suffix := ":attempt:" ++ toString request.attempt
  if request.dynamic && !endsWith request.idempotencyKey suffix then
    request.idempotencyKey ++ suffix
  else request.idempotencyKey

/-- `COALESCE(MAX(version), 0)`. -/
def latestVersion (proposalId : String) : Nat :=
  ((store.proposals.rows.filter fun row =>
    row.proposalId == proposalId).map Proposal.version).foldr max 0

def ProposalRequest.row (request : ProposalRequest) (version : Nat) :
    Proposal where
  proposalId := request.proposalId
  version := version
  userPrincipalId := request.userPrincipalId
  agentPrincipalId := request.agentPrincipalId
  credentialId := request.credentialId
  capabilityId := request.capabilityId
  payloadJson := request.payloadJson
  payloadHash := request.payloadHash
  idempotencyKey := request.attemptKey
  expiresAt := request.expiresAt
  tenantId := tenantOr request.tenantId
  workflowRevisionId := request.workflowRevisionId
  stepId := request.stepId
  planGraphHash := request.planGraphHash
  connectionId := request.connectionId
  attempt := request.attempt
  authority := request.authority.orDefaults
  reinforced := request.reinforced

def insertProposal (row : Proposal) : Except ActionError ActionStore :=
  if store.proposals.rows.any fun other =>
      other.idempotencyKey == row.idempotencyKey then .error .integrityError
  else match store.proposals.insert? row with
    | some proposals => .ok { store with proposals }
    | none => .error .integrityError

def supersede (proposalId : String) : ActionStore :=
  { store with
    proposals := store.proposals.updateWhere
      (fun row => row.proposalId == proposalId &&
        decide (row.status = .proposed ∨ row.status = .approved))
      (fun row => { row with status := .superseded })
      (fun _ => rfl) }

def createProposal (request : ProposalRequest) :
    Except ActionError Proposal × ActionStore :=
  transaction store fun store =>
    if request.dynamic && store.proposals.rows.any (fun row =>
        row.proposalId == request.proposalId &&
          decide (row.status = .executing ∨
            row.status = .executionUnknown)) then
      .error (.valueError "prior attempt is still executing or unresolved")
    else do
      let row := request.row (latestVersion store request.proposalId + 1)
      let created ← insertProposal (supersede store request.proposalId) row
      pure (row, created)

def get (proposalId : String) (version : Nat) (tenantId : Option String) :
    Option Proposal :=
  (store.proposals.find? (proposalId, version)).filter fun row =>
    tenantScope tenantId row.tenantId

def getByIdempotencyKey (idempotencyKey : String) (tenantId : Option String) :
    Option Proposal :=
  store.proposals.rows.find? fun row =>
    row.idempotencyKey == idempotencyKey && tenantScope tenantId row.tenantId

/-- An `UPDATE` of the one row with a given key, under a guard; its row count
says whether the guard held. -/
def guardedUpdate (key : String × Nat) (guard : Proposal → Bool)
    (assign : Proposal → Proposal)
    (keepsKey : ∀ row, (assign row).key = row.key) : Bool × ActionStore :=
  (((store.proposals.find? key).filter guard).isSome,
    { store with
      proposals := store.proposals.updateWhere
        (fun row => decide (row.key = key) && guard row) assign keepsKey })

def decide (proposalId : String) (version : Nat) (userPrincipalId : String)
    (approved : Bool) (now : Int) (tenantId : Option String) :
    Bool × ActionStore :=
  guardedUpdate store (proposalId, version)
    (fun row => row.userPrincipalId == userPrincipalId &&
      row.status == .proposed && Decidable.decide (now ≤ row.expiresAt) &&
      tenantScope tenantId row.tenantId)
    (fun row => if approved then
        { row with status := .approved, approvedAt := some now }
      else { row with status := .rejected, rejectedAt := some now })
    (fun row => by cases approved <;> rfl)

/-- What a caller presents to use an approval or a lease; an absent field is
empty. -/
structure Binding where
  proposalId : String := ""
  version : Nat := 0
  userPrincipalId : String := ""
  agentPrincipalId : String := ""
  credentialId : String := ""
  capabilityId : String := ""
  payloadHash : String := ""
  idempotencyKey : String := ""
  taskId : Option String := none
  workflowRevisionId : Option String := none
  stepId : Option String := none
  planGraphHash : Option String := none
  connectionId : Option String := none
  attempt : Option Int := none
  authority : Authority := ⟨"", "", ""⟩
  tenantId : Option String := none

def Binding.dynamic (binding : Binding) : Bool :=
  binding.workflowRevisionId != none &&
    binding.workflowRevisionId != some "legacy"

def Binding.complete (binding : Binding) : Bool :=
  binding.proposalId != "" && binding.version != 0 &&
  binding.userPrincipalId != "" && binding.agentPrincipalId != "" &&
  binding.credentialId != "" && binding.capabilityId != "" &&
  binding.payloadHash != "" && binding.idempotencyKey != ""

/-- The columns an approval is consumed under, apart from the key, the status
and the expiry. -/
def Binding.matchesProposal (binding : Binding) (row : Proposal) : Bool :=
  row.userPrincipalId == binding.userPrincipalId &&
  row.agentPrincipalId == binding.agentPrincipalId &&
  row.credentialId == binding.credentialId &&
  row.capabilityId == binding.capabilityId &&
  row.payloadHash == binding.payloadHash &&
  row.idempotencyKey == binding.idempotencyKey &&
  (if binding.dynamic then
      some row.workflowRevisionId == binding.workflowRevisionId &&
      some row.stepId == binding.stepId &&
      some row.planGraphHash == binding.planGraphHash &&
      some row.connectionId == binding.connectionId &&
      row.attempt == binding.attempt.getD 0
    else
      row.workflowRevisionId == "legacy" && row.stepId == "legacy" &&
      row.planGraphHash == "legacy" && row.connectionId == "legacy" &&
      row.attempt == 0) &&
  tenantScope binding.tenantId row.tenantId

def consumable (binding : Binding) (now : Int) (row : Proposal) : Bool :=
  binding.matchesProposal row && row.status == .approved &&
    Decidable.decide (now ≤ row.expiresAt)

def startExecution (now : Int) (row : Proposal) : Proposal :=
  { row with status := .executing, executionStartedAt := some now }

def consumeApproval (binding : Binding) (now : Int) :
    Option Proposal × ActionStore :=
  if !binding.complete then (none, store)
  else
    let key := (binding.proposalId, binding.version)
    (((store.proposals.find? key).filter (consumable binding now)).map
        (startExecution now),
      (guardedUpdate store key (consumable binding now) (startExecution now)
        (fun _ => rfl)).2)

structure LeaseRequest where
  leaseHash : String
  userPrincipalId : String
  agentPrincipalId : String
  taskId : String
  credentialId : String
  capabilities : List String
  expiresAt : Int
  workflowRevisionId : String := "legacy"
  stepId : String := "legacy"
  planGraphHash : String := "legacy"
  connectionId : String := "legacy"
  attempt : Int := 0
  authority : Authority := {}
  tenantId : Option String := none

def Lease.active (row : Lease) : Bool :=
  row.consumedAt.isNone && row.revokedAt.isNone

def LeaseRequest.row (request : LeaseRequest) : Lease where
  leaseHash := request.leaseHash
  userPrincipalId := request.userPrincipalId
  agentPrincipalId := request.agentPrincipalId
  taskId := request.taskId
  credentialId := request.credentialId
  capabilities := request.capabilities
  expiresAt := request.expiresAt
  tenantId := tenantOr request.tenantId
  workflowRevisionId := request.workflowRevisionId
  stepId := request.stepId
  planGraphHash := request.planGraphHash
  connectionId := request.connectionId
  attempt := request.attempt
  authority := request.authority.orDefaults

/-- A retry revokes the lease its step still holds.  The two statements commit
one by one. -/
def issueLease (request : LeaseRequest) (now : Int) :
    Except ActionError Unit × ActionStore :=
  let revoked :=
    if request.workflowRevisionId != "legacy" then
      store.leases.updateWhere
        (fun row => row.workflowRevisionId == request.workflowRevisionId &&
          row.stepId == request.stepId && row.active)
        (fun row => { row with revokedAt := some now })
        (fun _ => rfl)
    else store.leases
  match revoked.insert? request.row with
  | some leases => (.ok (), { store with leases })
  | none => (.error .integrityError, { store with leases := revoked })

def workflowLeaseBindingMatches (row : Lease) (binding : Binding) : Bool :=
  row.workflowRevisionId == "legacy" ||
  (row.workflowRevisionId == binding.workflowRevisionId.getD "legacy" &&
    row.stepId == binding.stepId.getD "legacy" &&
    row.planGraphHash == binding.planGraphHash.getD "legacy" &&
    row.connectionId == binding.connectionId.getD "legacy" &&
    row.attempt == binding.attempt.getD 0 &&
    row.authority == binding.authority.orDefaults)

/-- What `validate_lease` asks of a lease; a consumed one still validates. -/
def leaseValid (binding : Binding) (now : Int) (row : Lease) : Bool :=
  row.userPrincipalId == binding.userPrincipalId &&
  row.agentPrincipalId == binding.agentPrincipalId &&
  some row.taskId == binding.taskId &&
  row.credentialId == binding.credentialId && row.revokedAt.isNone &&
  Decidable.decide (now ≤ row.expiresAt) &&
  tenantScope binding.tenantId row.tenantId &&
  row.capabilities.contains binding.capabilityId &&
  workflowLeaseBindingMatches row binding

def validateLease (leaseHash : Option String) (binding : Binding) (now : Int) :
    Bool :=
  match leaseHash with
  | none => false
  | some hash =>
      ((store.leases.find? hash).filter (leaseValid binding now)).isSome

def consumeLease (leaseHash : Option String) (binding : Binding) (now : Int) :
    Bool × ActionStore :=
  match leaseHash with
  | none => (false, store)
  | some hash =>
      let usable := fun row : Lease =>
        leaseValid binding now row && row.consumedAt.isNone
      (((store.leases.find? hash).filter usable).isSome,
        { store with
          leases := store.leases.updateWhere
            (fun row => Decidable.decide (row.leaseHash = hash) && usable row)
            (fun row => { row with consumedAt := some now })
            (fun _ => rfl) })

def completeExecution (proposalId : String) (version : Nat)
    (receiptJson : String) (now : Int) (brokerResponseJson : Option String) :
    Bool × ActionStore :=
  guardedUpdate store (proposalId, version)
    (fun row => row.status == .executing || row.status == .executionUnknown)
    (fun row => { row with
      status := .completed
      executionFinishedAt := some now
      receiptJson := some receiptJson
      brokerResponseJson := brokerResponseJson })
    (fun _ => rfl)

def preDispatch (row : Proposal) : Bool :=
  row.status == .executing && row.dispatchedAt.isNone

def markDispatched (proposalId : String) (version : Nat) (now : Int) :
    Bool × ActionStore :=
  guardedUpdate store (proposalId, version) preDispatch
    (fun row => { row with dispatchedAt := some now }) (fun _ => rfl)

def recoverPreDispatchClaim (proposalId : String) (version : Nat) :
    Bool × ActionStore :=
  guardedUpdate store (proposalId, version) preDispatch
    (fun row => { row with
      status := .approved, executionStartedAt := none })
    (fun _ => rfl)

def truncate (reason : String) : String :=
  String.ofList (reason.toList.take 500)

def failExecution (proposalId : String) (version : Nat) (reason : String)
    (now : Int) (unknown : Bool) : Bool × ActionStore :=
  guardedUpdate store (proposalId, version)
    (fun row => row.status == .executing)
    (fun row => { row with
      status := if unknown then .executionUnknown else .failed
      executionFinishedAt := some now
      failureReason := some (truncate reason) })
    (fun _ => rfl)

def resolveUnknownAsAbsent (proposalId : String) (version : Nat)
    (reason : String) (now : Int) : Bool × ActionStore :=
  guardedUpdate store (proposalId, version)
    (fun row => row.status == .executionUnknown)
    (fun row => { row with
      status := .failed
      executionFinishedAt := some now
      failureReason := some (truncate reason) })
    (fun _ => rfl)

/-- `COALESCE(MAX(l.expires_at), p.expires_at)`. -/
def sweepDeadline (row : Proposal) : Int :=
  let joined := store.leases.rows.filter fun lease =>
    lease.workflowRevisionId == row.workflowRevisionId &&
    lease.stepId == row.stepId && lease.attempt == row.attempt &&
    row.workflowRevisionId != "legacy"
  match joined.map Lease.expiresAt with
  | [] => row.expiresAt
  | expiry :: others => others.foldl max expiry

def stalledExecutions (now : Int) (limit : Nat) : List Proposal :=
  (store.proposals.rows.filter fun row =>
    row.status == .executing &&
      Decidable.decide (sweepDeadline store row < now)).take limit

structure Swept where
  recovered : List String := []
  unknown : List String := []
  deriving DecidableEq

def sweepRow (now : Int) (swept : Swept × ActionStore) (row : Proposal) :
    Swept × ActionStore :=
  if row.dispatchedAt.isNone then
    let recovered := recoverPreDispatchClaim swept.2 row.proposalId row.version
    (if recovered.1 then
        { swept.1 with recovered := swept.1.recovered ++ [row.proposalId] }
      else swept.1, recovered.2)
  else
    let failed := failExecution swept.2 row.proposalId row.version
      "dispatch lease expired without an observed outcome" now true
    (if failed.1 then
        { swept.1 with unknown := swept.1.unknown ++ [row.proposalId] }
      else swept.1, failed.2)

def sweepStalledExecutions (now : Int) (limit : Nat) : Swept × ActionStore :=
  (stalledExecutions store now limit).foldl (sweepRow now) ({}, store)

end AcpTask.Action
