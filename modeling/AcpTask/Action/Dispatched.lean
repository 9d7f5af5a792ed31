import AcpTask.Action.SingleUse

namespace AcpTask.Action

open Library

/-! What becomes of a proposal once a provider call was made for it. -/

def Proposal.Ended (row : Proposal) : Prop :=
  row.status = .completed ∨ row.status = .failed ∨
    row.status = .executionUnknown

/-- A proposal that was dispatched has ended, or is executing under a call that
attends to it. -/
def Proposal.Answered (attends : String × Nat → Prop) (row : Proposal) :
    Prop :=
  row.dispatchedAt.isSome = true →
    row.Ended ∨ (row.status = .executing ∧ attends row.key)

def Answered (attends : String × Nat → Prop) (store : ActionStore) : Prop :=
  ∀ row ∈ store.proposals, row.Answered attends

section Updates

variable {attends later : String × Nat → Prop} {store : ActionStore}

variable {condition : Proposal → Bool} {assign : Proposal → Proposal}

theorem Answered.update (answered : Answered attends store)
    {keepsKey : ∀ row, (assign row).key = row.key}
    (assigned : ∀ row ∈ store.proposals, condition row = true →
      row.Answered attends → (assign row).Answered later)
    (others : ∀ row ∈ store.proposals, condition row = false →
      row.Answered attends → row.Answered later) :
    Answered later { store with
      proposals := store.proposals.updateWhere condition assign keepsKey } := by
  intro row member
  simp only [Table.mem_updateWhere] at member
  obtain ⟨old, oldMember, rfl⟩ := member
  cases selected : condition old with
  | true =>
      rw [if_pos rfl]
      exact assigned old oldMember selected (answered old oldMember)
  | false =>
      rw [if_neg (by simp)]
      exact others old oldMember selected (answered old oldMember)

theorem Answered.mono (answered : Answered attends store)
    (grows : ∀ key, attends key → later key) : Answered later store := by
  intro row member dispatched
  exact (answered row member dispatched).imp_right
    fun live => ⟨live.1, grows row.key live.2⟩

variable {row : Proposal}

theorem answered_of_open (answered : row.Answered attends)
    (unclaimed : row.status ≠ .executing ∧ ¬ row.Ended) :
    row.dispatchedAt.isSome = false := by
  by_contra dispatched
  rcases answered (Bool.not_eq_false _ ▸ dispatched) with ended | live
  · exact unclaimed.2 ended
  · exact unclaimed.1 live.1

theorem answered_of_undispatched
    (undispatched : row.dispatchedAt.isSome = false) :
    row.Answered attends := by
  intro dispatched
  rw [undispatched] at dispatched
  cases dispatched

theorem unclaimed_of_proposed
    (unclaimed : row.status = .proposed ∨ row.status = .approved) :
    row.status ≠ .executing ∧ ¬ row.Ended := by
  unfold Proposal.Ended
  rcases unclaimed with same | same <;> rw [same] <;> decide

section Answered

variable (answered : Answered attends store)

include answered

theorem Answered.unclaimed {keepsKey : ∀ row, (assign row).key = row.key}
    (unclaimed : ∀ row, condition row = true →
      row.status = .proposed ∨ row.status = .approved)
    (quiet : ∀ row, (assign row).dispatchedAt = row.dispatchedAt) :
    Answered attends { store with
      proposals := store.proposals.updateWhere condition assign keepsKey } := by
  refine answered.update (fun row _ selected before => ?_) fun _ _ _ => id
  refine answered_of_undispatched ?_
  rw [quiet]
  exact answered_of_open before (unclaimed_of_proposed (unclaimed row selected))

theorem Answered.end {keepsKey : ∀ row, (assign row).key = row.key}
    (ends : ∀ row, (assign row).Ended) :
    Answered attends { store with
      proposals := store.proposals.updateWhere condition assign keepsKey } :=
  answered.update (fun row _ _ _ _ => .inl (ends row)) fun _ _ _ => id

theorem Answered.failExecution (proposalId : String) (version : Nat)
    (reason : String) (now : Int) (unknown : Bool) :
    Answered attends
      (failExecution store proposalId version reason now unknown).2 :=
  answered.end fun _ => by cases unknown <;> simp [Proposal.Ended]

theorem Answered.recoverPreDispatchClaim (proposalId : String) (version : Nat) :
    Answered attends (recoverPreDispatchClaim store proposalId version).2 := by
  refine answered.update (fun row _ selected _ => ?_) fun _ _ _ => id
  refine answered_of_undispatched ?_
  simp only [preDispatch, Bool.and_eq_true] at selected
  exact Option.isSome_eq_false_iff.mpr selected.2.2

theorem Answered.sweepStalledExecutions (now : Int) (limit : Nat) :
    Answered attends (sweepStalledExecutions store now limit).2 := by
  unfold Action.sweepStalledExecutions
  generalize ({} : Swept) = swept
  generalize stalledExecutions store now limit = rows
  induction rows generalizing swept store with
  | nil => exact answered
  | cons row _ induction =>
      have next : Answered attends (sweepRow now (swept, store) row).2 := by
        unfold sweepRow
        split
        · exact answered.recoverPreDispatchClaim row.proposalId row.version
        · exact answered.failExecution row.proposalId row.version _ now true
      exact induction next (sweepRow now (swept, store) row).1

theorem Answered.insertProposal {created : ActionStore}
    (fresh : row.dispatchedAt = none)
    (inserted : insertProposal store row = .ok created) :
    Answered attends created := by
  unfold Action.insertProposal at inserted
  split at inserted
  · cases inserted
  · split at inserted
    · rename_i insertion
      cases inserted
      intro other member
      rcases (Table.mem_of_insert? insertion).mp member with old | rfl
      · exact answered other old
      · exact answered_of_undispatched (by rw [fresh]; rfl)
    · cases inserted

theorem Answered.createProposal (request : ProposalRequest) :
    Answered attends (createProposal store request).2 := by
  unfold Action.createProposal
  refine transaction_preserves answered ?_
  intro row created success
  split at success
  · cases success
  · obtain ⟨_, inserted, success⟩ := bind_eq_ok.mp success
    cases success
    have superseded : Answered attends (supersede store request.proposalId) := by
      refine answered.unclaimed (fun row selected => ?_) fun _ => rfl
      simp only [Bool.and_eq_true, decide_eq_true_iff] at selected
      exact selected.2
    exact superseded.insertProposal rfl inserted

theorem Answered.consumeApproval (binding : Binding) (now : Int) :
    Answered attends (consumeApproval store binding now).2 := by
  unfold Action.consumeApproval
  split
  · exact answered
  · refine answered.unclaimed (fun row selected => .inr ?_) fun _ => rfl
    simp only [consumable, Bool.and_eq_true, beq_iff_eq] at selected
    exact selected.2.1.2

theorem Answered.perform (action : RepoAction)
    (other : ∀ proposalId version now,
      action ≠ .markDispatched proposalId version now) :
    Answered attends (perform store action).2 := by
  cases action with
  | createProposal request => exact answered.createProposal request
  | decide _ _ _ approved =>
      refine answered.unclaimed (fun row selected => .inl ?_)
        fun row => by cases approved <;> rfl
      simp only [Bool.and_eq_true, beq_iff_eq] at selected
      exact selected.2.1.1.2
  | consumeApproval binding now => exact answered.consumeApproval binding now
  | issueLease =>
      simp only [Action.perform, issueLease]
      split <;> exact answered
  | consumeLease leaseHash =>
      cases leaseHash with
      | none | some => exact answered
  | markDispatched proposalId version now =>
      exact absurd rfl (other proposalId version now)
  | completeExecution => exact answered.end fun _ => .inl rfl
  | failExecution proposalId version reason now unknown =>
      exact answered.failExecution proposalId version reason now unknown
  | resolveUnknownAsAbsent => exact answered.end fun _ => .inr (.inl rfl)
  | recoverPreDispatchClaim proposalId version =>
      exact answered.recoverPreDispatchClaim proposalId version
  | sweepStalledExecutions now limit =>
      exact answered.sweepStalledExecutions now limit

theorem Answered.markDispatched (proposalId : String) (version : Nat)
    (now : Int) (grows : ∀ key, attends key → later key)
    (marks : (markDispatched store proposalId version now).1 = true →
      later (proposalId, version)) :
    Answered later (markDispatched store proposalId version now).2 := by
  refine (answered.mono grows).update (fun row member selected _ _ => ?_)
    fun _ _ _ => id
  simp only [Bool.and_eq_true, decide_eq_true_iff] at selected
  obtain ⟨named, ready⟩ := selected
  have executing : row.status = .executing := by
    simp only [preDispatch, Bool.and_eq_true, beq_iff_eq] at ready
    exact ready.1
  refine .inr ⟨executing, ?_⟩
  have marked := marks (guardedUpdate_effective member named ready)
  exact named ▸ marked

theorem Answered.leave {key : String × Nat} {guard : Proposal → Bool}
    {keepsKey : ∀ row, (assign row).key = row.key}
    (executing : ∀ row, row.status = .executing → guard row = true)
    (ends : ∀ row, (assign row).Ended)
    (others : ∀ other, other ≠ key → attends other → later other) :
    Answered later (guardedUpdate store key guard assign keepsKey).2 := by
  refine answered.update (fun row _ _ _ _ => .inl (ends row))
    fun row _ selected before dispatched => ?_
  rcases before dispatched with ended | ⟨live, attended⟩
  · exact .inl ended
  · refine .inr ⟨live, others row.key ?_ attended⟩
    rintro rfl
    simp [executing row live] at selected

end Answered

end Updates

end AcpTask.Action
