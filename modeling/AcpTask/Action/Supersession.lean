import AcpTask.Action.Creation
import AcpTask.Action.SingleUse

namespace AcpTask.Action

open Library

/-! The versions of one proposal, and which of them can still be executed. -/

def Proposal.Actionable (row : Proposal) : Prop :=
  row.status = .proposed ∨ row.status = .approved ∨
    row.status = .executing ∧ row.dispatchedAt = none

def OneActionable (store : ActionStore) : Prop :=
  ∀ row ∈ store.proposals.rows, ∀ other ∈ store.proposals.rows,
    row.proposalId = other.proposalId → row.Actionable → other.Actionable →
      row.version = other.version

def spends (store : ActionStore) : RepoAction → Option (String × Nat)
  | .decide proposalId version userPrincipalId true now tenantId =>
      if (decide store proposalId version userPrincipalId true now
        tenantId).1 then some (proposalId, version) else none
  | .consumeApproval binding now =>
      (consumeApproval store binding now).1.map Proposal.key
  | _ => none

def NewestSpent (store : ActionStore) (action : RepoAction) : Prop :=
  ∀ key, spends store action = some key → ∀ row ∈ store.proposals.rows,
    row.proposalId = key.1 → row.version ≤ key.2

def repoStep (store : ActionStore) (action : RepoAction) : ActionStore :=
  (perform store action).2

def SupersededStays (store : ActionStore) (action : RepoAction) : Prop :=
  NewestSpent store action ∧ OneActionable (repoStep store action)

/-- A proposal that no workflow owns gets a new version beside a version that
is claimed and not dispatched; the same for a workflow's is refused. -/
def CreatesBesideClaim (store : ActionStore) (action : RepoAction) : Prop :=
  ∃ request, action = .createProposal request ∧ request.dynamic = false ∧
    store.keyTaken request.attemptKey = false ∧
    ∃ row ∈ store.proposals.rows, row.proposalId = request.proposalId ∧
      row.status = .executing ∧ row.dispatchedAt = none

def NewestActionable (store : ActionStore) : Prop :=
  ∀ row ∈ store.proposals, row.Actionable → ∀ other ∈ store.proposals,
    other.proposalId = row.proposalId → other.version ≤ row.version

variable {store : ActionStore}

theorem NewestActionable.one (newest : NewestActionable store) :
    OneActionable store := by
  intro row member other otherMember same live otherLive
  exact Nat.le_antisymm (newest other otherMember otherLive row member same)
    (newest row member live other otherMember same.symm)

def Narrows (store later : ActionStore) : Prop :=
  ∀ row ∈ later.proposals, ∃ old ∈ store.proposals, row.key = old.key ∧
    (row.Actionable → old.Actionable)

namespace Narrows

theorem refl (store : ActionStore) : Narrows store store :=
  fun row member => ⟨row, member, rfl, id⟩

theorem trans {store middle later : ActionStore}
    (first : Narrows store middle) (second : Narrows middle later) :
    Narrows store later := by
  intro row member
  obtain ⟨between, betweenMember, betweenKey, betweenLive⟩ := second row member
  obtain ⟨old, oldMember, oldKey, oldLive⟩ := first between betweenMember
  exact ⟨old, oldMember, betweenKey.trans oldKey, oldLive ∘ betweenLive⟩

theorem update {store : ActionStore} {condition : Proposal → Bool}
    {assign : Proposal → Proposal}
    {keepsKey : ∀ row, (assign row).key = row.key}
    (narrows : ∀ row, condition row = true → (assign row).Actionable →
      row.Actionable) :
    Narrows store { store with
      proposals := store.proposals.updateWhere condition assign keepsKey } := by
  intro row member
  simp only [Table.mem_updateWhere] at member
  obtain ⟨old, oldMember, rfl⟩ := member
  refine ⟨old, oldMember, ?_, ?_⟩
  · split
    · exact keepsKey old
    · rfl
  · split
    · exact narrows old ‹_›
    · exact id

theorem newest {store later : ActionStore} (narrows : Narrows store later)
    (newest : NewestActionable store) : NewestActionable later := by
  intro row member live other otherMember same
  obtain ⟨old, oldMember, oldKey, oldLive⟩ := narrows row member
  obtain ⟨otherOld, otherOldMember, otherKey, -⟩ := narrows other otherMember
  simp only [Proposal.key, Prod.mk.injEq] at oldKey otherKey
  rw [oldKey.2, otherKey.2]
  refine newest old oldMember (oldLive live) otherOld otherOldMember ?_
  rw [← otherKey.1, ← oldKey.1, same]

end Narrows

theorem not_actionable_of_closed {row : Proposal}
    (closed : row.status ≠ .proposed ∧ row.status ≠ .approved ∧
      row.status ≠ .executing) : ¬ row.Actionable := by
  rintro (proposed | approved | ⟨executing, -⟩)
  · exact closed.1 proposed
  · exact closed.2.1 approved
  · exact closed.2.2 executing

theorem actionable_of_preDispatch {row : Proposal}
    (claimed : preDispatch row = true) : row.Actionable := by
  simp only [preDispatch, Bool.and_eq_true, beq_iff_eq,
    Option.isNone_iff_eq_none] at claimed
  exact .inr (.inr claimed)

theorem recoverPreDispatchClaim_narrows (store : ActionStore)
    (proposalId : String) (version : Nat) :
    Narrows store (recoverPreDispatchClaim store proposalId version).2 := by
  refine .update fun row selected _ => ?_
  exact actionable_of_preDispatch (Bool.and_eq_true_iff.mp selected).2

theorem failExecution_narrows (store : ActionStore) (proposalId : String)
    (version : Nat) (reason : String) (now : Int) (unknown : Bool) :
    Narrows store
      (failExecution store proposalId version reason now unknown).2 := by
  refine .update fun row _ live => absurd live (not_actionable_of_closed ?_)
  cases unknown <;> simp

theorem sweepStalledExecutions_narrows (store : ActionStore) (now : Int)
    (limit : Nat) :
    Narrows store (sweepStalledExecutions store now limit).2 := by
  unfold sweepStalledExecutions
  generalize ({} : Swept) = swept
  generalize stalledExecutions store now limit = rows
  induction rows generalizing swept store with
  | nil => exact .refl store
  | cons row _ induction =>
      refine Narrows.trans ?_ (induction (sweepRow now (swept, store) row).2 _)
      unfold sweepRow
      split
      · exact recoverPreDispatchClaim_narrows store row.proposalId row.version
      · exact failExecution_narrows store row.proposalId row.version _ now true

variable {action : RepoAction}

theorem repoStep_narrows (store : ActionStore)
    (other : ∀ request, action ≠ .createProposal request) :
    Narrows store (repoStep store action) := by
  cases action with
  | createProposal request => exact absurd rfl (other request)
  | decide =>
      refine .update fun row selected _ => .inl ?_
      simp only [Bool.and_eq_true, beq_iff_eq] at selected
      exact selected.2.1.1.2
  | consumeApproval =>
      simp only [repoStep, perform, consumeApproval]
      split
      · exact .refl store
      · refine .update fun row selected _ => .inr (.inl ?_)
        simp only [consumable, Bool.and_eq_true, beq_iff_eq] at selected
        exact selected.2.1.2
  | issueLease =>
      simp only [repoStep, perform, issueLease]
      split <;> exact .refl store
  | consumeLease leaseHash =>
      cases leaseHash with
      | none | some => exact .refl store
  | markDispatched =>
      refine .update fun row selected _ => ?_
      exact actionable_of_preDispatch (Bool.and_eq_true_iff.mp selected).2
  | completeExecution | resolveUnknownAsAbsent =>
      exact .update fun row _ live =>
        absurd live (not_actionable_of_closed (by simp))
  | failExecution proposalId version reason now unknown =>
      exact failExecution_narrows store proposalId version reason now unknown
  | recoverPreDispatchClaim proposalId version =>
      exact recoverPreDispatchClaim_narrows store proposalId version
  | sweepStalledExecutions now limit =>
      exact sweepStalledExecutions_narrows store now limit

theorem mem_superseded {proposalId : String} {row : Proposal}
    (member : row ∈ (supersede store proposalId).proposals) :
    ∃ old ∈ store.proposals, row.key = old.key ∧
      (row.Actionable → row = old ∧ (old.proposalId = proposalId →
        old.status = .executing ∧ old.dispatchedAt = none)) := by
  simp only [supersede, Table.mem_updateWhere] at member
  obtain ⟨old, oldMember, assigned⟩ := member
  by_cases selected : old.proposalId = proposalId ∧
      (old.status = .proposed ∨ old.status = .approved)
  · rw [if_pos (by simpa using selected)] at assigned
    subst assigned
    exact ⟨old, oldMember, rfl, fun live =>
      absurd live (not_actionable_of_closed (by simp))⟩
  · rw [if_neg (by simpa using selected)] at assigned
    subst assigned
    refine ⟨old, oldMember, rfl, fun live => ⟨rfl, fun named => ?_⟩⟩
    rcases live with proposed | approved | claimed
    · exact absurd ⟨named, .inl proposed⟩ selected
    · exact absurd ⟨named, .inr approved⟩ selected
    · exact claimed

theorem createProposal_newest {request : ProposalRequest}
    (newest : NewestActionable store)
    (alone : ¬ CreatesBesideClaim store (.createProposal request)) :
    NewestActionable (createProposal store request).2 := by
  rcases createProposal_cases store request with unchanged | ⟨free, fresh⟩
  · rw [unchanged]
    exact newest
  obtain ⟨_, created, -, rows⟩ := createProposal_created free fresh
  rw [created]
  have unclaimed : ∀ old ∈ store.proposals,
      old.proposalId = request.proposalId →
        ¬ (old.status = .executing ∧ old.dispatchedAt = none) := by
    intro old member named claimed
    cases dynamic : request.dynamic with
    | false =>
        exact alone ⟨request, rfl, dynamic, fresh, old, member, named, claimed⟩
    | true =>
        refine free ⟨dynamic, List.any_eq_true.mpr ⟨old, member, ?_⟩⟩
        simp [named, claimed.1]
  intro row member live other otherMember same
  simp only [Table.mem_def, rows, List.mem_append, List.mem_singleton]
    at member otherMember
  rcases member with oldRow | rfl
  · obtain ⟨_, oldMember, _, shape⟩ := mem_superseded oldRow
    obtain ⟨rfl, claims⟩ := shape live
    rcases otherMember with oldOther | rfl
    · obtain ⟨otherOld, otherOldMember, otherKey, -⟩ := mem_superseded oldOther
      simp only [Proposal.key, Prod.mk.injEq] at otherKey
      rw [otherKey.2]
      exact newest row oldMember live otherOld otherOldMember
        (otherKey.1.symm.trans same)
    · exact absurd (claims same.symm) (unclaimed row oldMember same.symm)
  · rcases otherMember with oldOther | rfl
    · obtain ⟨_, otherOldMember, otherKey, -⟩ := mem_superseded oldOther
      simp only [Proposal.key, Prod.mk.injEq] at otherKey
      have bound := le_latestVersion otherOldMember
      rw [← otherKey.1, same] at bound
      rw [otherKey.2]
      exact bound.trans (Nat.le_succ _)
    · exact le_rfl

theorem repoStep_newest (newest : NewestActionable store)
    (alone : ¬ CreatesBesideClaim store action) :
    NewestActionable (repoStep store action) := by
  by_cases creation : ∃ request, action = .createProposal request
  · obtain ⟨_, rfl⟩ := creation
    exact createProposal_newest newest alone
  · exact (repoStep_narrows store (not_exists.mp creation)).newest newest

theorem spends_actionable {key : String × Nat}
    (spent : spends store action = some key) :
    ∃ row ∈ store.proposals, row.key = key ∧ row.Actionable := by
  cases action with
  | decide _ _ _ approved =>
      cases approved with
      | false => cases spent
      | true =>
          simp only [spends, Option.ite_none_right_eq_some,
            Option.some.injEq] at spent
          obtain ⟨effective, rfl⟩ := spent
          obtain ⟨row, found, holds⟩ := guardedUpdate_found effective
          obtain ⟨member, sameKey⟩ := Table.find?_eq_some_iff.mp found
          simp only [Bool.and_eq_true, beq_iff_eq] at holds
          exact ⟨row, member, sameKey, .inl holds.1.1.2⟩
  | consumeApproval =>
      obtain ⟨_, taken, rfl⟩ := Option.map_eq_some_iff.mp spent
      obtain ⟨old, found, selected, rfl⟩ := consumeApproval_some taken
      obtain ⟨member, -⟩ := Table.find?_eq_some_iff.mp found
      simp only [consumable, Bool.and_eq_true, beq_iff_eq] at selected
      exact ⟨old, member, rfl, .inr (.inl selected.1.2)⟩
  | _ => cases spent

theorem NewestActionable.spent (newest : NewestActionable store)
    (action : RepoAction) :
    NewestSpent store action := by
  intro key spent other otherMember named
  obtain ⟨row, member, rfl, live⟩ := spends_actionable spent
  exact newest row member live other otherMember named

theorem not_oneActionable_of_creates (beside : CreatesBesideClaim store action) :
    ¬ OneActionable (repoStep store action) := by
  obtain ⟨request, rfl, legacy, fresh, old, member, named, claimed⟩ := beside
  have free : ¬ (request.dynamic = true ∧
      store.unresolved request.proposalId = true) := by simp [legacy]
  obtain ⟨_, created, -, rows⟩ := createProposal_created free fresh
  intro one
  simp only [repoStep, perform, created, OneActionable, rows] at one
  have kept : old ∈ (supersede store request.proposalId).proposals := by
    simp only [supersede, Table.mem_updateWhere]
    exact ⟨old, member, by simp [claimed.1]⟩
  have versions := one old (List.mem_append_left _ kept) _
    (List.mem_append_right _ (List.mem_singleton_self _)) named
    (.inr (.inr claimed)) (.inl rfl)
  have bound := le_latestVersion member
  rw [named, versions] at bound
  simp only [ProposalRequest.row] at bound
  omega

theorem supersededStays_iff (action : RepoAction)
    (newest : NewestActionable store) :
    SupersededStays store action ↔ ¬ CreatesBesideClaim store action := by
  constructor
  · rintro ⟨-, one⟩ beside
    exact not_oneActionable_of_creates beside one
  · intro alone
    exact ⟨newest.spent action, (repoStep_newest newest alone).one⟩

/-- In every sequence of calls, at most one version of a proposal can be
executed and only the newest one is approved or consumed, exactly when no
version is created beside one that is claimed and not dispatched. -/
theorem superseded_stays_superseded (actions : List RepoAction) :
    Along repoStep SupersededStays ActionStore.empty actions ↔
      Along repoStep (fun store action => ¬ CreatesBesideClaim store action)
        ActionStore.empty actions :=
  Along.iff_of_invariant NewestActionable
    (fun _ action newest => supersededStays_iff action newest)
    (fun _ _ newest alone => repoStep_newest newest alone)
    (fun _ member => absurd member (Table.not_mem_empty _)) actions

/-- The first version is approved and claimed, the second created, and the
first one is handed back to be claimed again. -/
def revivedRun : List RepoAction :=
  [.createProposal sampleRequest, .decide "proposal" 1 "user" true 50 none,
    .consumeApproval sampleBinding 60,
    .createProposal { sampleRequest with idempotencyKey := "key:2" },
    .recoverPreDispatchClaim "proposal" 1]

theorem superseded_version_revived :
    ¬ Along repoStep SupersededStays ActionStore.empty revivedRun ∧
      (run repoStep ActionStore.empty revivedRun).proposals.rows.map
        (fun row => (row.version, row.status)) =
        [(1, .approved), (2, .proposed)] ∧
      spends (run repoStep ActionStore.empty revivedRun)
        (.consumeApproval sampleBinding 70) = some ("proposal", 1) := by
  refine ⟨fun stays => ?_, by decide +kernel, by decide +kernel⟩
  obtain ⟨-, -, -, ⟨-, one⟩, -⟩ := stays
  exact not_oneActionable_of_creates ⟨_, rfl, by decide +kernel,
    by decide +kernel, by decide +kernel⟩ one

end AcpTask.Action
