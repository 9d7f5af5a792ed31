import AcpTask.Action.Leases
import AcpTask.Action.Supersession

namespace AcpTask.Action

open Library

def ActionStore.only (store : ActionStore) (tenant : String) :
    ActionStore where
  proposals := store.proposals.deleteWhere fun row => row.tenantId != tenant
  leases := store.leases.deleteWhere fun row => row.tenantId != tenant

def ActionStore.without (store : ActionStore) (tenant : String) :
    ActionStore where
  proposals := store.proposals.deleteWhere fun row => row.tenantId == tenant
  leases := store.leases.deleteWhere fun row => row.tenantId == tenant

/-- The call changes no row of the tenant, and answers as if the tenant had
none. -/
def Isolated {Answer : Type} (call : ActionStore → Answer × ActionStore)
    (tenant : String) (store : ActionStore) : Prop :=
  (call store).2.only tenant = store.only tenant ∧
    (call store).1 = (call (store.without tenant)).1

/-- What `create_proposal` and `issue_lease` owe to each tenant but the one they
are called for. -/
def IsolatesTenants (store : ActionStore) : RepoAction → Prop
  | .createProposal request =>
      ∀ tenant, tenant ≠ tenantOr request.tenantId →
        Isolated (fun store => createProposal store request) tenant store
  | .issueLease request now =>
      ∀ tenant, tenant ≠ tenantOr request.tenantId →
        Isolated (fun store => issueLease store request now) tenant store
  | _ => True

/-- The tenant's proposals do not decide what becomes of the request: another
row refuses it, or the tenant has none that would refuse it, none of a later
version of the proposal and none that a new version supersedes. -/
def ProposalApart (request : ProposalRequest) (tenant : String)
    (store : ActionStore) : Prop :=
  (request.dynamic = true ∧
    (store.without tenant).unresolved request.proposalId = true) ∨
  ((request.dynamic = true →
      (store.only tenant).unresolved request.proposalId = false) ∧
    ((store.without tenant).keyTaken request.attemptKey = true ∨
      (store.only tenant).keyTaken request.attemptKey = false ∧
      latestVersion (store.only tenant) request.proposalId ≤
        latestVersion (store.without tenant) request.proposalId ∧
      ∀ row ∈ (store.only tenant).proposals,
        row.proposalId = request.proposalId →
        row.status ≠ .proposed ∧ row.status ≠ .approved))

def LeaseApart (request : LeaseRequest) (tenant : String)
    (store : ActionStore) : Prop :=
  (request.workflowRevisionId ≠ "legacy" →
    ∀ row ∈ (store.only tenant).leases, row.active = true →
      ¬ (row.workflowRevisionId = request.workflowRevisionId ∧
        row.stepId = request.stepId)) ∧
  (store.only tenant).leases.find? request.leaseHash = none

def TenantsApart (store : ActionStore) : RepoAction → Prop
  | .createProposal request =>
      ∀ tenant, tenant ≠ tenantOr request.tenantId →
        ProposalApart request tenant store
  | .issueLease request _ =>
      ∀ tenant, tenant ≠ tenantOr request.tenantId →
        LeaseApart request tenant store
  | _ => True

section Split

variable (store : ActionStore) (tenant : String)

theorem unresolved_split (proposalId : String) :
    store.unresolved proposalId =
      ((store.without tenant).unresolved proposalId ||
        (store.only tenant).unresolved proposalId) :=
  Table.any_rows_split store.proposals (fun row => row.tenantId == tenant) _

theorem keyTaken_split (idempotencyKey : String) :
    store.keyTaken idempotencyKey =
      ((store.without tenant).keyTaken idempotencyKey ||
        (store.only tenant).keyTaken idempotencyKey) :=
  Table.any_rows_split store.proposals (fun row => row.tenantId == tenant) _

theorem latestVersion_split (proposalId : String) :
    latestVersion store proposalId =
      max (latestVersion (store.without tenant) proposalId)
        (latestVersion (store.only tenant) proposalId) := by
  simp only [latestVersion, ActionStore.without, ActionStore.only,
    Table.deleteWhere]
  generalize store.proposals.rows = rows
  induction rows with
  | nil => rfl
  | cons row _ induction =>
      by_cases same : row.proposalId = proposalId <;>
        by_cases owned : row.tenantId = tenant <;>
          simp [same, owned, induction, max_left_comm, max_assoc]

end Split

variable {store : ActionStore} {tenant : String}

theorem mem_only {row : Proposal} :
    row ∈ (store.only tenant).proposals ↔
      row ∈ store.proposals ∧ row.tenantId = tenant := by
  rw [ActionStore.only, Table.mem_deleteWhere]
  simp

theorem mem_only_leases {row : Lease} :
    row ∈ (store.only tenant).leases ↔
      row ∈ store.leases ∧ row.tenantId = tenant := by
  rw [ActionStore.only, Table.mem_deleteWhere]
  simp

theorem only_supersede_iff {proposalId : String} :
    (supersede store proposalId).only tenant = store.only tenant ↔
      ∀ row ∈ (store.only tenant).proposals, row.proposalId = proposalId →
        row.status ≠ .proposed ∧ row.status ≠ .approved := by
  have split : (supersede store proposalId).only tenant =
      store.only tenant ↔
      (supersede store proposalId).proposals.deleteWhere
          (fun row => row.tenantId != tenant) =
        store.proposals.deleteWhere fun row => row.tenantId != tenant := by
    simp [ActionStore.only, supersede]
  refine split.trans ((Table.deleteWhere_updateWhere_eq_iff
    (fun _ => by rfl) (fun _ => by rfl)).trans ?_)
  constructor
  · intro unchanged row member same
    obtain ⟨stored, owned⟩ := mem_only.mp member
    have kept := unchanged row stored (by simp [owned])
    constructor <;> intro status <;>
      · have superseded := congrArg Proposal.status
          (kept (by simp [same, status]))
        rw [status] at superseded
        cases superseded
  · intro settled row member owned selected
    simp only [Bool.and_eq_true, beq_iff_eq, decide_eq_true_eq] at selected
    have apart := settled row
      (mem_only.mpr ⟨member, by simpa using owned⟩) selected.1
    rcases selected.2 with status | status
    · exact absurd status apart.1
    · exact absurd status apart.2

theorem only_created {later : ActionStore} {request : ProposalRequest}
    {version : Nat} (foreign : tenant ≠ tenantOr request.tenantId)
    (sameLeases : later.leases = store.leases) (created : later.proposals.rows =
      (supersede store request.proposalId).proposals.rows ++
        [request.row version]) :
    later.only tenant = (supersede store request.proposalId).only tenant := by
  have apart : (request.row version).tenantId ≠ tenant := foreign.symm
  simp only [ActionStore.only, ActionStore.mk.injEq, Table.ext_iff,
    Table.deleteWhere, created, sameLeases, supersede]
  simp [apart]

theorem proposal_isolated_iff {request : ProposalRequest}
    (foreign : tenant ≠ tenantOr request.tenantId) :
    Isolated (fun store => createProposal store request) tenant store ↔
      ProposalApart request tenant store := by
  have unresolved := unresolved_split store tenant request.proposalId
  have keyTaken := keyTaken_split store tenant request.attemptKey
  have latest := latestVersion_split store tenant request.proposalId
  unfold Isolated ProposalApart
  dsimp only
  generalize store.without tenant = rest at *
  by_cases restBlocked :
      request.dynamic = true ∧ rest.unresolved request.proposalId = true
  · have blocked : store.unresolved request.proposalId = true := by
      simp [unresolved, restBlocked.2]
    rw [createProposal_blocked restBlocked.1 blocked,
      createProposal_blocked restBlocked.1 restBlocked.2]
    simp [restBlocked]
  by_cases blocked :
      request.dynamic = true ∧ store.unresolved request.proposalId = true
  · have mine : (store.only tenant).unresolved request.proposalId = true := by
      simp only [blocked.1, true_and, Bool.not_eq_true] at restBlocked
      simpa [unresolved, restBlocked] using blocked.2
    rw [createProposal_blocked blocked.1 blocked.2]
    refine iff_of_false ?_ ?_
    · rintro ⟨_, answers⟩
      cases restTaken : rest.keyTaken request.attemptKey with
      | true =>
          rw [createProposal_taken restBlocked restTaken] at answers
          cases answers
      | false =>
          obtain ⟨_, created, _⟩ := createProposal_created restBlocked restTaken
          rw [created] at answers
          cases answers
    · rintro (other | ⟨none, _⟩)
      · exact restBlocked other
      · rw [none blocked.1] at mine
        cases mine
  have mine : request.dynamic = true →
      (store.only tenant).unresolved request.proposalId = false := by
    intro dynamic
    simp only [dynamic, true_and, unresolved, Bool.or_eq_true, not_or,
      Bool.not_eq_true] at blocked
    exact blocked.2
  simp only [restBlocked, false_or, and_iff_right mine]
  cases restTaken : rest.keyTaken request.attemptKey with
  | true =>
      rw [createProposal_taken blocked (by simp [keyTaken, restTaken]),
        createProposal_taken restBlocked restTaken]
      simp
  | false =>
      obtain ⟨_, restCreated, _⟩ := createProposal_created restBlocked restTaken
      rw [restCreated]
      cases taken : (store.only tenant).keyTaken request.attemptKey with
      | true =>
          rw [createProposal_taken blocked (by simp [keyTaken, taken])]
          simp
      | false =>
          obtain ⟨_, created, sameLeases, rows⟩ :=
            createProposal_created blocked (by simp [keyTaken, taken,
              restTaken])
          rw [created]
          dsimp only
          rw [only_created foreign sameLeases rows, only_supersede_iff,
            and_comm]
          have sameVersion : (Except.ok (request.row
              (latestVersion store request.proposalId + 1)) :
                Except ActionError Proposal) =
              .ok (request.row (latestVersion rest request.proposalId + 1)) ↔
              latestVersion (store.only tenant) request.proposalId ≤
                latestVersion rest request.proposalId := by
            simp only [Except.ok.injEq, ProposalRequest.row,
              Proposal.mk.injEq, latest, Nat.add_right_cancel_iff, and_true,
              true_and]
            omega
          simp [sameVersion]

theorem find?_split (store : ActionStore) (tenant hash : String) :
    store.leases.find? hash = none ↔
      (store.without tenant).leases.find? hash = none ∧
        (store.only tenant).leases.find? hash = none := by
  simp only [Table.find?_eq_none_iff, mem_only_leases]
  simp only [ActionStore.without, Table.mem_deleteWhere, beq_eq_false_iff_ne]
  constructor
  · intro absent
    exact ⟨fun row member => absent row member.1,
      fun row member => absent row member.1⟩
  · rintro ⟨others, mine⟩ row member
    by_cases owned : row.tenantId = tenant
    · exact mine row ⟨member, owned⟩
    · exact others row ⟨member, owned⟩

theorem only_issueLease_iff {request : LeaseRequest} {now : Int}
    (foreign : tenant ≠ tenantOr request.tenantId) :
    (issueLease store request now).2.only tenant = store.only tenant ↔
      (revokeHeld store.leases request now).deleteWhere
          (fun row => row.tenantId != tenant) =
        store.leases.deleteWhere fun row => row.tenantId != tenant := by
  have apart : request.row.tenantId ≠ tenant := foreign.symm
  have leases : (issueLease store request now).2.leases.deleteWhere
      (fun row => row.tenantId != tenant) =
      (revokeHeld store.leases request now).deleteWhere
        fun row => row.tenantId != tenant := by
    rcases issueLease_cases store request now with
      ⟨_, inserted⟩ | ⟨_, _, refused⟩
    · have rows := (Table.insert?_eq_some_iff.mp inserted).2
      simp [Table.deleteWhere, rows, apart]
    · rw [refused]
  simp only [ActionStore.only, ActionStore.mk.injEq, issueLease_proposals,
    true_and, leases]

theorem lease_isolated_iff {request : LeaseRequest} {now : Int}
    (foreign : tenant ≠ tenantOr request.tenantId) :
    Isolated (fun store => issueLease store request now) tenant store ↔
      LeaseApart request tenant store := by
  refine and_congr ((only_issueLease_iff foreign).trans ?_) ?_
  · unfold revokeHeld
    split
    · rename_i dynamic
      refine (Table.deleteWhere_updateWhere_eq_iff (fun _ => by rfl)
        (fun _ => by rfl)).trans ?_
      simp only [bne_iff_ne, ne_eq] at dynamic
      constructor
      · rintro unchanged _ row member active ⟨revision, step⟩
        obtain ⟨stored, owned⟩ := mem_only_leases.mp member
        have kept := congrArg Lease.revokedAt (unchanged row stored
          (by simp [owned]) (by simp [revision, step, active]))
        simp [Lease.active, ← kept] at active
      · intro vacant row member owned selected
        simp only [Bool.and_eq_true, beq_iff_eq] at selected
        exact absurd ⟨selected.1.1, selected.1.2⟩ (vacant dynamic row
          (mem_only_leases.mpr ⟨member, by simpa using owned⟩) selected.2)
    · rename_i legacy
      simp only [bne_iff_ne, ne_eq, not_not] at legacy
      simp [legacy]
  · simp only [issueLease_answer, find?_split store tenant]
    by_cases others :
        (store.without tenant).leases.find? request.leaseHash = none
    · simp [others]
    · have mine : (store.only tenant).leases.find? request.leaseHash =
          none := by
        obtain ⟨other, found⟩ := Option.ne_none_iff_exists'.mp others
        obtain ⟨otherMember, otherHash⟩ := Table.find?_eq_some_iff.mp found
        obtain ⟨stored, apart⟩ := Table.mem_deleteWhere.mp otherMember
        rw [Table.find?_eq_none_iff]
        intro row member sameHash
        obtain ⟨rowStored, owned⟩ := mem_only_leases.mp member
        obtain rfl := Table.eq_of_key rowStored stored
          (sameHash.trans otherHash.symm)
        simp [owned] at apart
      simp [others, mine]

/-- In every sequence of calls from any store, the calls that keep to their
tenant are exactly those whose proposal, step and digest no other tenant's rows
touch. -/
theorem tenants_isolated_iff (store : ActionStore)
    (actions : List RepoAction) :
    Along repoStep IsolatesTenants store actions ↔
      Along repoStep TenantsApart store actions := by
  refine Along.iff_of_invariant (fun _ => True) ?_ (fun _ _ _ _ => trivial)
    trivial actions
  intro store action _
  cases action with
  | createProposal =>
      exact forall₂_congr fun tenant foreign => proposal_isolated_iff foreign
  | issueLease =>
      exact forall₂_congr fun tenant foreign => lease_isolated_iff foreign
  | _ => exact Iff.rfl

/-- A tenant that proposes under another's proposal id supersedes what the other
has pending. -/
theorem foreign_proposal_superseded :
    ¬ ∀ (actions : List RepoAction) (action : RepoAction),
      IsolatesTenants (run repoStep ActionStore.empty actions) action := by
  intro isolates
  have unchanged := (isolates
    [.createProposal { sampleRequest with tenantId := some "tenant-a" }]
    (.createProposal { sampleRequest with
      idempotencyKey := "other", tenantId := some "tenant-b" })
    "tenant-a" (by decide)).1
  have statuses := congrArg (fun store : ActionStore =>
    store.proposals.rows.map Proposal.status) unchanged
  exact absurd statuses (by decide +kernel)

end AcpTask.Action
