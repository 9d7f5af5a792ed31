import AcpTask.Action.Repository

namespace AcpTask.Action

open Library

/-! What `create_proposal` makes of a store. -/

def ActionStore.unresolved (store : ActionStore) (proposalId : String) :
    Bool :=
  store.proposals.rows.any fun row =>
    row.proposalId == proposalId &&
      Decidable.decide (row.status = .executing ∨
        row.status = .executionUnknown)

def ActionStore.keyTaken (store : ActionStore) (idempotencyKey : String) :
    Bool :=
  store.proposals.rows.any fun row => row.idempotencyKey == idempotencyKey

theorem le_latestVersion {store : ActionStore} {row : Proposal}
    (member : row ∈ store.proposals) :
    row.version ≤ latestVersion store row.proposalId := by
  have listed : row.version ∈ ((store.proposals.rows.filter fun other =>
      other.proposalId == row.proposalId).map Proposal.version) :=
    List.mem_map.mpr ⟨row, List.mem_filter.mpr ⟨member, by simp⟩, rfl⟩
  unfold latestVersion
  generalize ((store.proposals.rows.filter fun other =>
      other.proposalId == row.proposalId).map Proposal.version) =
    versions at listed
  induction versions with
  | nil => cases listed
  | cons _ _ induction =>
      rcases List.mem_cons.mp listed with rfl | later
      · exact Nat.le_max_left _ _
      · exact (induction later).trans (Nat.le_max_right _ _)

theorem supersede_keyTaken (store : ActionStore)
    (proposalId idempotencyKey : String) :
    (supersede store proposalId).keyTaken idempotencyKey =
      store.keyTaken idempotencyKey := by
  simp only [ActionStore.keyTaken, supersede, Table.updateWhere, List.any_map]
  congr 1
  funext row
  simp only [Function.comp_apply]
  split <;> rfl

theorem createProposal_blocked {store : ActionStore}
    {request : ProposalRequest} (dynamic : request.dynamic = true)
    (unresolved : store.unresolved request.proposalId = true) :
    createProposal store request =
      (.error (.valueError "prior attempt is still executing or unresolved"),
        store) := by
  simp only [ActionStore.unresolved] at unresolved
  simp only [createProposal, transaction, dynamic, unresolved, Bool.and_self,
    if_true]

section Open

variable {store : ActionStore} {request : ProposalRequest}

theorem createProposal_taken
    (free : ¬ (request.dynamic = true ∧
      store.unresolved request.proposalId = true))
    (taken : store.keyTaken request.attemptKey = true) :
    createProposal store request = (.error .integrityError, store) := by
  rw [← supersede_keyTaken store request.proposalId] at taken
  simp only [ActionStore.unresolved, ActionStore.keyTaken] at free taken
  have insertion : insertProposal (supersede store request.proposalId)
      (request.row (latestVersion store request.proposalId + 1)) =
      .error .integrityError := by
    simp only [insertProposal, ProposalRequest.row, taken, if_true]
  simp only [createProposal, transaction, insertion, Bool.and_eq_true, free,
    if_false]
  rfl

theorem createProposal_created
    (free : ¬ (request.dynamic = true ∧
      store.unresolved request.proposalId = true))
    (fresh : store.keyTaken request.attemptKey = false) :
    ∃ later, createProposal store request =
        (.ok (request.row (latestVersion store request.proposalId + 1)),
          later) ∧
      later.leases = store.leases ∧
      later.proposals.rows =
        (supersede store request.proposalId).proposals.rows ++
          [request.row (latestVersion store request.proposalId + 1)] := by
  rw [← supersede_keyTaken store request.proposalId] at fresh
  have unused : (supersede store request.proposalId).proposals.find?
      (request.row (latestVersion store request.proposalId + 1)).key =
      none := by
    rw [Table.find?_eq_none_iff]
    intro row member same
    simp only [supersede, Table.mem_updateWhere] at member
    obtain ⟨old, oldMember, rfl⟩ := member
    have version := le_latestVersion oldMember
    have sameOld : old.key =
        (request.row (latestVersion store request.proposalId + 1)).key := by
      rw [← same]
      split <;> rfl
    simp only [Proposal.key, ProposalRequest.row, Prod.mk.injEq] at sameOld
    rw [sameOld.1, sameOld.2] at version
    omega
  cases insertion : (supersede store request.proposalId).proposals.insert?
      (request.row (latestVersion store request.proposalId + 1)) with
  | none => exact absurd unused (Table.insert?_eq_none_iff.mp insertion)
  | some proposals =>
      have inserted := (Table.insert?_eq_some_iff.mp insertion).2
      simp only [ActionStore.unresolved, ActionStore.keyTaken] at free fresh
      have stored : insertProposal (supersede store request.proposalId)
          (request.row (latestVersion store request.proposalId + 1)) =
          .ok { supersede store request.proposalId with proposals } := by
        simp only [insertProposal, insertion]
        rw [if_neg]
        simpa [ProposalRequest.row] using fresh
      refine ⟨{ supersede store request.proposalId with proposals }, ?_, rfl,
        inserted⟩
      simp only [createProposal, transaction, stored, Bool.and_eq_true, free,
        if_false]
      rfl

theorem createProposal_cases (store : ActionStore)
    (request : ProposalRequest) :
    (createProposal store request).2 = store ∨
      ¬ (request.dynamic = true ∧ store.unresolved request.proposalId = true) ∧
      store.keyTaken request.attemptKey = false := by
  by_cases blocked : request.dynamic = true ∧
      store.unresolved request.proposalId = true
  · exact .inl (by rw [createProposal_blocked blocked.1 blocked.2])
  · cases taken : store.keyTaken request.attemptKey with
    | true => exact .inl (by rw [createProposal_taken blocked taken])
    | false => exact .inr ⟨blocked, rfl⟩

end Open

end AcpTask.Action
