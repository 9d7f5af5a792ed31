import AcpTask.Action.Sweeps

namespace AcpTask.Action

/-! One tenant's calls, in either database.  A call names the tenant or leaves
it out; SQLite files what it leaves out under the legacy tenant, Postgres under
the organization of the request. -/

inductive ActionCall where
  | createProposal (request : ProposalRequest) (named : Bool)
  | get (proposalId : String) (version : Option Nat) (named : Bool)
  | getByIdempotencyKey (idempotencyKey : String) (named : Bool)
  | decide (proposalId : String) (version : Nat) (userPrincipalId : String)
      (approved : Bool) (now : Int) (named : Bool)
  | consumeApproval (binding : Binding) (now : Int) (named : Bool)
  | issueLease (request : LeaseRequest) (now : Int) (named : Bool)
  | validateLease (leaseHash : Option String) (binding : Binding) (now : Int)
      (named : Bool)
  | consumeLease (leaseHash : Option String) (binding : Binding) (now : Int)
      (named : Bool)
  | completeExecution (proposalId : String) (version : Nat)
      (receiptJson : Option String) (now : Int)
      (brokerResponseJson : Option String)
  | markDispatched (proposalId : String) (version : Nat) (now : Int)
  | recoverPreDispatchClaim (proposalId : String) (version : Nat)
  | failExecution (proposalId : String) (version : Nat) (reason : String)
      (now : Int) (unknown : Bool)
  | resolveUnknownAsAbsent (proposalId : String) (version : Nat)
      (reason : String) (now : Int)
  | sweepStalledExecutions (now : Int) (limit : Nat)

/-- A row is handed out as the database renders its times: in seconds, or as the
texts that `to_jsonb` makes of them. -/
inductive RowForm where
  | seconds
  | isoTexts
  deriving DecidableEq

inductive ActionAnswer where
  | proposal (form : RowForm) (row : Proposal)
  | noProposal
  | issued
  | flag (value : Bool)
  | swept (result : Swept)
  deriving DecidableEq

def ActionAnswer.ofRow? (form : RowForm) : Option Proposal → ActionAnswer
  | some row => .proposal form row
  | none => .noProposal

abbrev CallResult := Except Postgres.Failure ActionAnswer

def answered {Value Store : Type} (render : Value → ActionAnswer)
    (result : Value × Store) : CallResult × Store :=
  (.ok (render result.1), result.2)

/-- What stays open about the two databases of a tenant: what Postgres and its
driver make of the values sent, and the order of SQLite's groups. -/
structure Deployment where
  tenant : String
  tenant_ne : tenant ≠ ""
  server : Postgres.Server
  takes : ActionCall → Bool
  groupOrder : List Proposal → List Proposal
  groupOrder_perm : ∀ rows, (groupOrder rows).Perm rows

namespace Deployment

variable (deployment : Deployment)

def tenantId (named : Bool) : Option String :=
  if named then some deployment.tenant else none

def visibleVersion (store : ActionStore) (proposalId : String)
    (tenantId : Option String) : Nat :=
  ((store.proposals.rows.filter fun row => row.proposalId == proposalId &&
    tenantScope tenantId row.tenantId).map Proposal.version).foldr max 0

def sqliteCall (store : ActionStore) :
    ActionCall → CallResult × ActionStore
  | .createProposal request named =>
      let created := createProposal store
        { request with tenantId := deployment.tenantId named }
      ((created.1.mapError .raised).map (.proposal .seconds), created.2)
  | .get proposalId version named =>
      let tenantId := deployment.tenantId named
      answered (.ofRow? .seconds) (get store proposalId
        (version.getD (visibleVersion store proposalId tenantId)) tenantId,
        store)
  | .getByIdempotencyKey idempotencyKey named =>
      answered (.ofRow? .seconds) (getByIdempotencyKey store idempotencyKey
        (deployment.tenantId named), store)
  | .decide proposalId version userPrincipalId approved now named =>
      answered .flag (decide store proposalId version userPrincipalId approved
        now (deployment.tenantId named))
  | .consumeApproval binding now named =>
      answered (.ofRow? .seconds) (consumeApproval store
        { binding with tenantId := deployment.tenantId named } now)
  | .issueLease request now named =>
      let issued := issueLease store
        { request with tenantId := deployment.tenantId named } now
      ((issued.1.mapError .raised).map fun _ => .issued, issued.2)
  | .validateLease leaseHash binding now named =>
      answered .flag (validateLease store leaseHash
        { binding with tenantId := deployment.tenantId named } now, store)
  | .consumeLease leaseHash binding now named =>
      answered .flag (consumeLease store leaseHash
        { binding with tenantId := deployment.tenantId named } now)
  | .completeExecution proposalId version receiptJson now
      brokerResponseJson =>
      answered .flag (completeExecution store proposalId version
        (receiptJson.getD "null") now brokerResponseJson)
  | .markDispatched proposalId version now =>
      answered .flag (markDispatched store proposalId version now)
  | .recoverPreDispatchClaim proposalId version =>
      answered .flag (recoverPreDispatchClaim store proposalId version)
  | .failExecution proposalId version reason now unknown =>
      answered .flag (failExecution store proposalId version reason now unknown)
  | .resolveUnknownAsAbsent proposalId version reason now =>
      answered .flag
        (resolveUnknownAsAbsent store proposalId version reason now)
  | .sweepStalledExecutions now limit =>
      answered .swept (sweepInOrder deployment.groupOrder store now limit)

def postgresTenant (named : Bool) : String :=
  Postgres.tenantOf deployment.tenant (deployment.tenantId named)

def postgresStatements (store : Postgres.Store) :
    ActionCall → CallResult × Postgres.Store
  | .createProposal request named =>
      let created := Postgres.createProposal deployment.server store
        (deployment.postgresTenant named) request
      (created.1.map (.proposal .isoTexts), created.2)
  | .get proposalId version named =>
      answered (.ofRow? .isoTexts) (Postgres.get store
        (deployment.postgresTenant named) proposalId version, store)
  | .getByIdempotencyKey idempotencyKey named =>
      answered (.ofRow? .isoTexts) (Postgres.getByIdempotencyKey store
        (deployment.postgresTenant named) idempotencyKey, store)
  | .decide proposalId version userPrincipalId approved now named =>
      answered .flag (Postgres.decide store (deployment.postgresTenant named)
        proposalId version userPrincipalId approved now)
  | .consumeApproval binding now named =>
      answered (.ofRow? .isoTexts) (Postgres.consumeApproval store
        (deployment.postgresTenant named) binding now)
  | .issueLease request now named =>
      let issued := Postgres.issueLease deployment.server store
        (deployment.postgresTenant named) request now
      (issued.1.map fun _ => .issued, issued.2)
  | .validateLease leaseHash binding now named =>
      answered .flag (Postgres.validateLease store
        (deployment.postgresTenant named) leaseHash binding now, store)
  | .consumeLease leaseHash binding now named =>
      answered .flag (Postgres.consumeLease store
        (deployment.postgresTenant named) leaseHash binding now)
  | .completeExecution proposalId version receiptJson now
      brokerResponseJson =>
      answered .flag (Postgres.completeExecution store
        (deployment.postgresTenant false) proposalId version receiptJson now
        brokerResponseJson)
  | .markDispatched proposalId version now =>
      answered .flag (Postgres.markDispatched store
        (deployment.postgresTenant false) proposalId version now)
  | .recoverPreDispatchClaim proposalId version =>
      answered .flag (Postgres.recoverPreDispatchClaim store
        (deployment.postgresTenant false) proposalId version)
  | .failExecution proposalId version reason now unknown =>
      answered .flag (Postgres.failExecution store
        (deployment.postgresTenant false) proposalId version reason now
        unknown)
  | .resolveUnknownAsAbsent proposalId version reason now =>
      answered .flag (Postgres.resolveUnknownAsAbsent store
        (deployment.postgresTenant false) proposalId version reason now)
  | .sweepStalledExecutions now limit =>
      answered .swept (Postgres.sweepStalledExecutions deployment.server store
        (deployment.postgresTenant false) now limit)

def sends : ActionCall → Bool
  | .consumeApproval binding _ _ => binding.complete
  | .validateLease leaseHash _ _ _ => leaseHash.isSome
  | .consumeLease leaseHash _ _ _ => leaseHash.isSome
  | _ => true

def postgresCall (store : Postgres.Store) (call : ActionCall) :
    CallResult × Postgres.Store :=
  if sends call && !deployment.takes call then (.error .dataError, store)
  else deployment.postgresStatements store call

def bothStep (stores : ActionStore × Postgres.Store) (call : ActionCall) :
    ActionStore × Postgres.Store :=
  ((deployment.sqliteCall stores.1 call).2,
    (deployment.postgresCall stores.2 call).2)

def Agree (stores : ActionStore × Postgres.Store) (call : ActionCall) :
    Prop :=
  (deployment.postgresCall stores.2 call).1 =
      (deployment.sqliteCall stores.1 call).1 ∧
    (deployment.postgresCall stores.2 call).2 =
      mirror deployment.tenant (deployment.sqliteCall stores.1 call).2

def asPostgres : ActionAnswer → ActionAnswer
  | .proposal _ row => .proposal .isoTexts (row.under deployment.tenant)
  | answer => answer

def AgreeUpToForm (stores : ActionStore × Postgres.Store)
    (call : ActionCall) : Prop :=
  deployment.postgresCall stores.2 call =
    mirrored deployment.tenant
      ((deployment.sqliteCall stores.1 call).1.map deployment.asPostgres,
        (deployment.sqliteCall stores.1 call).2)

def Hidden (named : Bool) (rowTenant : String) : Prop :=
  tenantScope (deployment.tenantId named) rowTenant = false

/-- The lease is one for the binding, whether consumed or not and whichever
tenant it is filed under. -/
def boundLease (binding : Binding) (now : Int) (row : Lease) : Bool :=
  Postgres.leaseAllowed row.tenantId binding now { row with consumedAt := none }

def Refused (store : ActionStore) (request : ProposalRequest) : Prop :=
  request.dynamic = true ∧ store.unresolved request.proposalId = true

def heldFor (request : LeaseRequest) (row : Lease) : Bool :=
  row.workflowRevisionId == request.workflowRevisionId &&
    row.stepId == request.stepId && row.active

def StatementsPart (store : ActionStore) : ActionCall → Prop
  | .createProposal request _ =>
      let row := Postgres.proposalRow request deployment.tenant
        (latestVersion store request.proposalId + 1)
      ¬ Refused store request ∧
        (deployment.server.proposalFits row = false ∨
          store.keyTaken request.attemptKey = false ∧
            deployment.server.proposalRegistered row = false)
  | .get proposalId version named =>
      ∃ row, store.proposals.find? (proposalId,
          version.getD (latestVersion store proposalId)) = some row ∧
        deployment.Hidden named row.tenantId
  | .getByIdempotencyKey idempotencyKey named =>
      ∃ row, (store.proposals.rows.find? fun row =>
          row.idempotencyKey == idempotencyKey) = some row ∧
        deployment.Hidden named row.tenantId
  | .decide proposalId version userPrincipalId _ now named =>
      ∃ row, store.proposals.find? (proposalId, version) = some row ∧
        row.userPrincipalId = userPrincipalId ∧ row.status = .proposed ∧
        now ≤ row.expiresAt ∧ deployment.Hidden named row.tenantId
  | .consumeApproval binding now named =>
      binding.complete = true ∧
      ∃ row, store.proposals.find? (binding.proposalId, binding.version) =
          some row ∧ Postgres.consumable binding now row = true ∧
        deployment.Hidden named row.tenantId
  | .issueLease request _ _ =>
      let row := Postgres.leaseRow request deployment.tenant
      let held := store.leases.rows.any (heldFor request)
      let dynamic := request.workflowRevisionId != "legacy"
      deployment.server.leaseFits row = false ∨
        (store.leases.find? request.leaseHash = none ∧
          (deployment.server.leaseRegistered row = false ∨
            (dynamic = false ∧ held = true))) ∨
        (store.leases.find? request.leaseHash ≠ none ∧
          dynamic = true ∧ held = true)
  | .validateLease leaseHash binding now named =>
      ∃ hash row, leaseHash = some hash ∧
        store.leases.find? hash = some row ∧
        boundLease binding now row = true ∧
        (row.consumedAt = none ↔ deployment.Hidden named row.tenantId)
  | .consumeLease leaseHash binding now named =>
      ∃ hash row, leaseHash = some hash ∧
        store.leases.find? hash = some row ∧
        boundLease binding now row = true ∧ row.consumedAt = none ∧
        deployment.Hidden named row.tenantId
  | .completeExecution proposalId version receiptJson _
      brokerResponseJson =>
      ∃ row, store.proposals.find? (proposalId, version) = some row ∧
        (row.status = .executing ∨ row.status = .executionUnknown) ∧
        (receiptJson = none ∧ row.receiptJson ≠ some "null" ∨
          brokerResponseJson = none ∧ row.brokerResponseJson ≠ none)
  | .sweepStalledExecutions now limit =>
      ¬ SamePicks
        (Postgres.stalledExecutions deployment.server
          (mirror deployment.tenant store) deployment.tenant now limit)
        (stalledInOrder deployment.groupOrder store now limit)
  | .markDispatched .. | .recoverPreDispatchClaim ..
  | .failExecution .. | .resolveUnknownAsAbsent .. => False

def Part (store : ActionStore) (call : ActionCall) : Prop :=
  (sends call = true ∧ deployment.takes call = false) ∨
    deployment.StatementsPart store call

def HandsOut (store : ActionStore) : ActionCall → Prop
  | .createProposal request _ =>
      ¬ Refused store request ∧ store.keyTaken request.attemptKey = false
  | .get proposalId version _ =>
      store.proposals.find? (proposalId,
        version.getD (latestVersion store proposalId)) ≠ none
  | .getByIdempotencyKey idempotencyKey _ =>
      store.keyTaken idempotencyKey = true
  | .consumeApproval binding now _ =>
      binding.complete = true ∧
      ∃ row, store.proposals.find? (binding.proposalId, binding.version) =
        some row ∧ Postgres.consumable binding now row = true
  | _ => False

end Deployment

end AcpTask.Action
