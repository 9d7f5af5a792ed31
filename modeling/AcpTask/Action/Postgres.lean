import AcpTask.Action.Repository
import AcpTask.Library.Mirror

namespace AcpTask.Action

open Library

abbrev Proposal.tenantKey (row : Proposal) : String × String × Nat :=
  (row.tenantId, row.proposalId, row.version)

namespace Postgres

variable (server : Server) (store : Store)

/-! `PostgresActionRepository`, whose every statement names its tenant. -/

structure Store where
  proposals : Table Proposal Proposal.tenantKey
  leases : Table Lease Lease.key

def Store.empty : Store := ⟨Table.empty, Table.empty⟩

inductive Failure where
  | raised (error : ActionError)
  /-- A value that the driver or the column does not take. -/
  | dataError
  deriving DecidableEq

/-- What the database decides about an inserted row (the ranges of its columns,
its foreign keys and checks), and its order of proposal ids. -/
structure Server where
  proposalFits : Proposal → Bool
  proposalRegistered : Proposal → Bool
  leaseFits : Lease → Bool
  leaseRegistered : Lease → Bool
  orderByProposalId : List Proposal → List Proposal
  orderByProposalId_perm : ∀ rows, (orderByProposalId rows).Perm rows

/-- `_tenant`, in a request that has an organization. -/
def tenantOf (organization : String) (tenantId : Option String) : String :=
  match tenantId with
  | some tenant => if tenant = "" then organization else tenant
  | none => organization

def ofProposal (tenant proposalId : String) (row : Proposal) : Bool :=
  row.tenantId == tenant && row.proposalId == proposalId

def unresolved (tenant proposalId : String) : Bool :=
  store.proposals.rows.any fun row =>
    ofProposal tenant proposalId row &&
      Decidable.decide (row.status = .executing ∨
        row.status = .executionUnknown)

def latestVersion (tenant proposalId : String) : Nat :=
  ((store.proposals.rows.filter (ofProposal tenant proposalId)).map
    Proposal.version).foldr max 0

def supersede (tenant proposalId : String) : Store :=
  { store with
    proposals := store.proposals.updateWhere
      (fun row => ofProposal tenant proposalId row &&
        Decidable.decide (row.status = .proposed ∨ row.status = .approved))
      (fun row => { row with status := .superseded })
      (fun _ => by rfl) }

def keyTaken (tenant idempotencyKey : String) : Bool :=
  store.proposals.rows.any fun row =>
    row.tenantId == tenant && row.idempotencyKey == idempotencyKey

def insertProposal (row : Proposal) : Except Failure Store :=
  if !server.proposalFits row then .error .dataError
  else if !server.proposalRegistered row ||
      keyTaken store row.tenantId row.idempotencyKey then
    .error (.raised .integrityError)
  else match store.proposals.insert? row with
    | some proposals => .ok { store with proposals }
    | none => .error (.raised .integrityError)

def proposalRow (request : ProposalRequest) (tenant : String)
    (version : Nat) : Proposal :=
  { request.row version with tenantId := tenant }

def createProposal (tenant : String) (request : ProposalRequest) :
    Except Failure Proposal × Store :=
  transaction store fun store =>
    if request.dynamic && unresolved store tenant request.proposalId then
      .error (.raised
        (.valueError "prior attempt is still executing or unresolved"))
    else do
      let row := proposalRow request tenant
        (latestVersion store tenant request.proposalId + 1)
      let created ← insertProposal server
        (supersede store tenant request.proposalId) row
      pure (row, created)

def get (tenant proposalId : String) (version : Option Nat) : Option Proposal :=
  store.proposals.find? (tenant, proposalId,
    version.getD (latestVersion store tenant proposalId))

def getByIdempotencyKey (tenant idempotencyKey : String) : Option Proposal :=
  store.proposals.rows.find? fun row =>
    row.tenantId == tenant && row.idempotencyKey == idempotencyKey

/-- An `UPDATE` of one version of a proposal, beside `rowcount == 1`. -/
def updateProposal (tenant proposalId : String) (version : Nat)
    (guard : Proposal → Bool) (assign : Proposal → Proposal)
    (keepsKey : ∀ row, (assign row).tenantKey = row.tenantKey) : Bool × Store :=
  let updated := store.proposals.updateOne (tenant, proposalId, version) guard
    assign keepsKey
  (updated.1, { store with proposals := updated.2 })

def decide (tenant proposalId : String) (version : Nat)
    (userPrincipalId : String) (approved : Bool) (now : Int) : Bool × Store :=
  updateProposal store tenant proposalId version
    (fun row => row.userPrincipalId == userPrincipalId &&
      row.status == .proposed && Decidable.decide (row.expiresAt ≥ now))
    (fun row => if approved then
        { row with status := .approved, approvedAt := some now }
      else { row with status := .rejected, rejectedAt := some now })
    (fun row => by cases approved <;> rfl)

/-- The columns an approval is consumed under, a binding of no workflow standing
for the legacy one. -/
def consumable (binding : Binding) (now : Int) (row : Proposal) : Bool :=
  let bound := fun field : Option String =>
    if binding.dynamic then field else some "legacy"
  row.userPrincipalId == binding.userPrincipalId &&
  row.agentPrincipalId == binding.agentPrincipalId &&
  row.credentialId == binding.credentialId &&
  row.capabilityId == binding.capabilityId &&
  row.payloadHash == binding.payloadHash &&
  row.idempotencyKey == binding.idempotencyKey &&
  some row.workflowRevisionId == bound binding.workflowRevisionId &&
  some row.stepId == bound binding.stepId &&
  some row.planGraphHash == bound binding.planGraphHash &&
  some row.connectionId == bound binding.connectionId &&
  row.attempt == (if binding.dynamic then binding.attempt.getD 0 else 0) &&
  row.status == .approved && Decidable.decide (row.expiresAt ≥ now)

def consumeApproval (tenant : String) (binding : Binding) (now : Int) :
    Option Proposal × Store :=
  if !binding.complete then (none, store)
  else
    (((store.proposals.find? (tenant, binding.proposalId,
        binding.version)).filter (consumable binding now)).map
        (startExecution now),
      (updateProposal store tenant binding.proposalId binding.version
        (consumable binding now) (startExecution now) (fun _ => by rfl)).2)

def leaseRow (request : LeaseRequest) (tenant : String) : Lease :=
  { request.row with tenantId := tenant }

def holdsStep (tenant workflowRevisionId stepId : String) (row : Lease) :
    Bool :=
  row.tenantId == tenant && row.workflowRevisionId == workflowRevisionId &&
    row.stepId == stepId && row.active

/-- `capability_one_active_workflow_lease` knows no legacy revision. -/
def insertLease (leases : Table Lease Lease.key) (row : Lease) :
    Except Failure (Table Lease Lease.key) :=
  if !server.leaseFits row then .error .dataError
  else if !server.leaseRegistered row || leases.rows.any
      (holdsStep row.tenantId row.workflowRevisionId row.stepId) then
    .error (.raised .integrityError)
  else match leases.insert? row with
    | some leases => .ok leases
    | none => .error (.raised .integrityError)

def issueLease (tenant : String) (request : LeaseRequest) (now : Int) :
    Except Failure Unit × Store :=
  transaction store fun store => do
    let revoked :=
      if request.workflowRevisionId != "legacy" then
        store.leases.updateWhere
          (holdsStep tenant request.workflowRevisionId request.stepId)
          (fun row => { row with revokedAt := some now })
          (Lease.key_revoked now)
      else store.leases
    let leases ← insertLease server revoked (leaseRow request tenant)
    pure ((), { store with leases })

/-- A row of the `SELECT` of `_lease_allowed` whose capabilities and binding are
the ones presented. -/
def leaseAllowed (tenant : String) (binding : Binding) (now : Int)
    (row : Lease) : Bool :=
  row.tenantId == tenant &&
  row.userPrincipalId == binding.userPrincipalId &&
  row.agentPrincipalId == binding.agentPrincipalId &&
  some row.taskId == binding.taskId &&
  row.credentialId == binding.credentialId && row.revokedAt.isNone &&
  row.consumedAt.isNone && Decidable.decide (row.expiresAt ≥ now) &&
  row.capabilities.contains binding.capabilityId &&
  workflowLeaseBindingMatches row binding

def validateLease (tenant : String) (leaseHash : Option String)
    (binding : Binding) (now : Int) : Bool :=
  match leaseHash with
  | none => false
  | some hash =>
      ((store.leases.find? hash).filter
        (leaseAllowed tenant binding now)).isSome

def consumeLease (tenant : String) (leaseHash : Option String)
    (binding : Binding) (now : Int) : Bool × Store :=
  match leaseHash with
  | none => (false, store)
  | some hash =>
      if validateLease store tenant leaseHash binding now then
        let updated := store.leases.updateOne hash
          (fun row => row.tenantId == tenant && row.consumedAt.isNone)
          (fun row => { row with consumedAt := some now })
          (Lease.key_consumed now)
        (updated.1, { store with leases := updated.2 })
      else (false, store)

/-- `_finish`, which keeps each column it is given no value for. -/
def finish (tenant proposalId : String) (version : Nat)
    (status : ProposalStatus) (now : Int)
    (receiptJson brokerResponseJson reason : Option String)
    (fromStatuses : List ProposalStatus) : Bool × Store :=
  updateProposal store tenant proposalId version
    (fun row => fromStatuses.contains row.status)
    (fun row => { row with
      status := status
      executionFinishedAt := some now
      receiptJson := receiptJson.or row.receiptJson
      brokerResponseJson := brokerResponseJson.or row.brokerResponseJson
      failureReason := reason.or row.failureReason })
    (fun _ => by rfl)

def completeExecution (tenant proposalId : String) (version : Nat)
    (receiptJson : Option String) (now : Int)
    (brokerResponseJson : Option String) : Bool × Store :=
  finish store tenant proposalId version .completed now receiptJson
    brokerResponseJson none [.executing, .executionUnknown]

def markDispatched (tenant proposalId : String) (version : Nat) (now : Int) :
    Bool × Store :=
  updateProposal store tenant proposalId version preDispatch
    (fun row => { row with dispatchedAt := some now }) (fun _ => by rfl)

def recoverPreDispatchClaim (tenant proposalId : String) (version : Nat) :
    Bool × Store :=
  updateProposal store tenant proposalId version preDispatch
    (fun row => { row with
      status := .approved, executionStartedAt := none })
    (fun _ => by rfl)

def failExecution (tenant proposalId : String) (version : Nat) (reason : String)
    (now : Int) (unknown : Bool) : Bool × Store :=
  finish store tenant proposalId version
    (if unknown then .executionUnknown else .failed) now none none
    (some (truncate reason)) [.executing]

def resolveUnknownAsAbsent (tenant proposalId : String) (version : Nat)
    (reason : String) (now : Int) : Bool × Store :=
  finish store tenant proposalId version .failed now none none
    (some (truncate reason)) [.executionUnknown]

def sweepDeadline (row : Proposal) : Int :=
  let joined := store.leases.rows.filter fun lease =>
    lease.tenantId == row.tenantId &&
    lease.workflowRevisionId == row.workflowRevisionId &&
    lease.stepId == row.stepId && lease.attempt == row.attempt
  match joined.map Lease.expiresAt with
  | [] => row.expiresAt
  | expiry :: others => others.foldl max expiry

def stalledExecutions (tenant : String) (now : Int) (limit : Nat) :
    List Proposal :=
  (server.orderByProposalId (store.proposals.rows.filter fun row =>
    row.tenantId == tenant && row.status == .executing &&
      Decidable.decide (sweepDeadline store row < now))).take limit

def sweepRow (tenant : String) (now : Int) (swept : Swept × Store)
    (row : Proposal) : Swept × Store :=
  if row.dispatchedAt.isNone then
    let recovered :=
      recoverPreDispatchClaim swept.2 tenant row.proposalId row.version
    (if recovered.1 then
        { swept.1 with recovered := swept.1.recovered ++ [row.proposalId] }
      else swept.1, recovered.2)
  else
    let failed := failExecution swept.2 tenant row.proposalId row.version
      "dispatch lease expired without an observed outcome" now true
    (if failed.1 then
        { swept.1 with unknown := swept.1.unknown ++ [row.proposalId] }
      else swept.1, failed.2)

def sweepStalledExecutions (tenant : String) (now : Int) (limit : Nat) :
    Swept × Store :=
  (stalledExecutions server store tenant now limit).foldl
    (sweepRow tenant now) ({}, store)

end Postgres

end AcpTask.Action
