import AcpTask.Marketplace.Transactions

namespace AcpTask.Marketplace

open Library

def TaskStatus.rank : TaskStatus → Nat
  | .opened => 0
  | .accepted => 1
  | .delivered => 2
  | .completed => 3
  | .cancelled => 4

def TaskWrite.worker? : TaskWrite → Option String
  | .accept workerPrincipalId => some workerPrincipalId
  | .acceptFor _ agentPrincipalId => some agentPrincipalId
  | _ => none

def TaskWrite.Fits (write : TaskWrite) (old : Task) : Prop :=
  match write with
  | .acceptFor _ _ => old.status = .opened
  | .deliver => old.status ≠ .completed
  | _ => True

namespace Market

/-- `accept_bid` commits while the task is open, and `submit_work_result` while
it is not completed. -/
def Current (market : Market) (action : MarketAction) : Prop :=
  ∀ write ∈ market.commits? action, ∀ old ∈ market.row, write.Fits old

structure OneBid (market : Market) : Prop where
  accepted : ∀ {bidId other bid second}, market.bid? bidId = some bid →
    market.bid? other = some second → bid.status = .accepted →
    second.status = .accepted → bidId = other
  worker : ∀ {bidId bid}, market.bid? bidId = some bid →
    bid.status = .accepted → ∃ task, market.row = some task ∧
      task.workerPrincipalId = some bid.agentPrincipalId

/-- The status advances, the worker is set once and stays, and the one bid that
is accepted is the worker's. -/
structure Lawful (market : Market) (action : MarketAction) : Prop where
  status : ∀ old ∈ market.row, ∀ new ∈ (marketStep market action).row,
    old.status.rank ≤ new.status.rank
  worker : ∀ old ∈ market.row, ∀ new ∈ (marketStep market action).row,
    old.workerPrincipalId ≠ none → new.workerPrincipalId = old.workerPrincipalId
  once : ∀ write ∈ market.commits? action, write.worker? ≠ none →
    ∀ old ∈ market.row, old.workerPrincipalId = none
  bids : (marketStep market action).OneBid

variable {market : Market}

structure Matched (market : Market) : Prop where
  stored : market.row ≠ none
  worker : ∀ {task}, market.row = some task →
    (task.status = .opened ↔ task.workerPrincipalId = none)
  active : ∀ {task}, market.row = some task → task.status ≠ .cancelled
  one : market.OneBid

theorem matched_created (authorPrincipalId : String) :
    (created authorPrincipalId).Matched where
  stored := Option.some_ne_none _
  worker found := by
    cases found
    exact iff_of_true rfl rfl
  active found := by
    cases found
    exact fun same => by cases same
  one := ⟨fun found => (by cases found), fun found => (by cases found)⟩

theorem safe_created (authorPrincipalId : String) :
    (created authorPrincipalId).Safe where
  clean := RowLocks.clean_ofCommitted _
  agents found := by cases found
  holds process := RowLocks.owes_ofCommitted _ process
  drafts process bidId bid held := by cases held

theorem fits_iff {write : TaskWrite} {old : Task}
    (worker : old.status = .opened ↔ old.workerPrincipalId = none)
    (active : old.status ≠ .cancelled)
    (locked : ∀ workerPrincipalId, write = .accept workerPrincipalId →
      old.status = .opened) :
    write.Fits old ↔ old.status.rank ≤ (write.assign old).status.rank ∧
      (write.worker? ≠ none → old.workerPrincipalId = none) := by
  cases write with
  | accept workerPrincipalId =>
      have opened := locked workerPrincipalId rfl
      refine iff_of_true trivial ⟨?_, fun _ => worker.mp opened⟩
      rw [opened]
      exact Nat.zero_le _
  | acceptFor =>
      constructor
      · intro fits
        have opened : old.status = .opened := fits
        refine ⟨?_, fun _ => worker.mp opened⟩
        rw [opened]
        exact Nat.zero_le _
      · exact fun lawful => worker.mpr (lawful.2 (Option.some_ne_none _))
  | deliver =>
      change old.status ≠ .completed ↔ old.status.rank ≤ 2 ∧ _
      refine ⟨fun fits => ⟨?_, fun set => absurd rfl set⟩, ?_⟩
      · cases status : old.status <;> simp_all [TaskStatus.rank]
      · rintro ⟨advances, _⟩ completed
        rw [completed] at advances
        simp [TaskStatus.rank] at advances
  | complete =>
      refine iff_of_true trivial ⟨?_, fun set => absurd rfl set⟩
      change old.status.rank ≤ 3
      cases status : old.status <;> simp_all [TaskStatus.rank]

theorem worker_assign {write : TaskWrite} {old : Task}
    (once : write.worker? ≠ none → old.workerPrincipalId = none)
    (worker : old.workerPrincipalId ≠ none) :
    (write.assign old).workerPrincipalId = old.workerPrincipalId := by
  cases write with
  | accept _ | acceptFor _ _ =>
      exact absurd (once (Option.some_ne_none _)) worker
  | deliver | complete => rfl

section Safe

variable (safe : market.Safe) (matched : market.Matched)

include safe matched

theorem Safe.fits_iff {action : MarketAction} {write : TaskWrite} {old : Task}
    (commits : market.commits? action = some write)
    (found : market.row = some old) :
    write.Fits old ↔ old.status.rank ≤ (write.assign old).status.rank ∧
      (write.worker? ≠ none → old.workerPrincipalId = none) := by
  refine Market.fits_iff (matched.worker found) (matched.active found) ?_
  intro workerPrincipalId same
  obtain ⟨_, stored, opened⟩ := (safe.commits commits).2 _ same
  rw [found, Option.some.injEq] at stored
  subst stored
  exact opened

theorem oneBid_step {action : MarketAction} (current : market.Current action) :
    (marketStep market action).OneBid := by
  obtain ⟨old, found⟩ := Option.ne_none_iff_exists'.mp matched.stored
  -- an accepted bid is the one that the worker was set for
  have accepted : ∀ {bidId bid},
      (marketStep market action).bid? bidId = some bid →
      bid.status = .accepted →
        (market.bid? bidId = some bid ∧ old.workerPrincipalId =
            some bid.agentPrincipalId) ∨
          market.commits? action =
            some (.acceptFor bidId bid.agentPrincipalId) := by
    intro bidId bid here status
    rcases safe.bid?_step here with stored | committed
    · obtain ⟨task, same, worker⟩ := matched.one.worker stored status
      rw [found, Option.some.injEq] at same
      subst same
      exact .inl ⟨stored, worker⟩
    · exact .inr (committed status)
  -- a worker that is set excludes that a bid is accepted for the task
  have apart : ∀ {agentPrincipalId bidId other},
      old.workerPrincipalId = some agentPrincipalId →
        market.commits? action ≠ some (.acceptFor bidId other) := by
    intro agentPrincipalId bidId other set commits
    have opened : old.status = .opened := current _ commits old found
    rw [(matched.worker found).mp opened] at set
    cases set
  constructor
  · intro bidId other bid second here there status first
    rcases accepted here status with ⟨stored, worker⟩ | commits
    · rcases accepted there first with ⟨known, _⟩ | again
      · exact matched.one.accepted stored known status first
      · exact absurd again (apart worker)
    · rcases accepted there first with ⟨_, worker⟩ | again
      · exact absurd commits (apart worker)
      · rw [commits, Option.some.injEq, TaskWrite.acceptFor.injEq] at again
        exact again.1
  · intro bidId bid here status
    rcases accepted here status with ⟨_, worker⟩ | commits
    · rw [safe.row_step action, found]
      cases commits : market.commits? action with
      | none => exact ⟨old, rfl, worker⟩
      | some write =>
          have once := ((safe.fits_iff matched commits found).mp
            (current write commits old found)).2
          refine ⟨write.assign old, rfl, ?_⟩
          have set : old.workerPrincipalId ≠ none := by
            rw [worker]
            exact Option.some_ne_none _
          exact (worker_assign once set).trans worker
    · rw [safe.row_step action, found, commits]
      exact ⟨_, rfl, rfl⟩

theorem matched_step {action : MarketAction} (current : market.Current action) :
    (marketStep market action).Matched := by
  have one := oneBid_step safe matched current
  have after := safe.row_step action
  cases commits : market.commits? action with
  | none =>
      have same : (marketStep market action).row = market.row := by
        rw [after, commits]
        rfl
      constructor
      · rw [same]
        exact matched.stored
      · rw [same]
        exact matched.worker
      · rw [same]
        exact matched.active
      · exact one
  | some write =>
      obtain ⟨old, found⟩ := Option.ne_none_iff_exists'.mp matched.stored
      have same : (marketStep market action).row =
          some (write.assign old) := by
        rw [after, commits, found]
        rfl
      have set := worker_after found (safe.commits commits).1
      constructor
      · rw [same]
        exact Option.some_ne_none _
      · intro task stored
        rw [same, Option.some.injEq] at stored
        subst stored
        exact iff_of_false set.1 set.2
      · intro task stored
        rw [same, Option.some.injEq] at stored
        subst stored
        cases write <;> exact fun cancelled => by cases cancelled
      · exact one

theorem lawful_iff (action : MarketAction) :
    market.Lawful action ↔ market.Current action := by
  have after := safe.row_step action
  obtain ⟨old, found⟩ := Option.ne_none_iff_exists'.mp matched.stored
  constructor
  · intro lawful write commits task stored
    rw [commits, stored] at after
    refine (safe.fits_iff matched commits stored).mpr ⟨?_, ?_⟩
    · exact lawful.status task stored _ after
    · exact fun set => lawful.once write commits set task stored
  · intro current
    have moves : ∀ new ∈ (marketStep market action).row,
        old.status.rank ≤ new.status.rank ∧
          (old.workerPrincipalId ≠ none →
            new.workerPrincipalId = old.workerPrincipalId) := by
      intro new stored
      rw [after, found] at stored
      cases commits : market.commits? action with
      | none =>
          rw [commits] at stored
          cases stored
          exact ⟨Nat.le_refl _, fun _ => rfl⟩
      | some write =>
          rw [commits] at stored
          cases stored
          have fits := (safe.fits_iff matched commits found).mp
            (current write commits old found)
          exact ⟨fits.1, worker_assign fits.2⟩
    constructor
    · intro task stored new next
      rw [found] at stored
      cases stored
      exact (moves new next).1
    · intro task stored new next
      rw [found] at stored
      cases stored
      exact (moves new next).2
    · intro write commits set task stored
      exact ((safe.fits_iff matched commits stored).mp
        (current write commits task stored)).2 set
    · exact oneBid_step safe matched current

end Safe

/-- The lifecycle is kept along the runs in which the task is still open when
`accept_bid` commits, and not completed when `submit_work_result` does. -/
theorem lawful_run_iff (authorPrincipalId : String)
    (actions : List MarketAction) :
    Along marketStep Market.Lawful (created authorPrincipalId) actions ↔
      Along marketStep Market.Current (created authorPrincipalId) actions := by
  refine Along.iff_of_invariant
    (fun market => market.Safe ∧ market.Matched) ?_ ?_
    ⟨safe_created authorPrincipalId, matched_created authorPrincipalId⟩
    actions
  · exact fun market action holds => lawful_iff holds.1 holds.2 action
  · exact fun market action holds current =>
      ⟨holds.1.action action, matched_step holds.1 holds.2 current⟩

/-! `accept_bid` finds the task open, and `accept_task` commits before it. -/

def bidInFlight : List MarketAction :=
  [.call 1 (.createBid ⟨"agent", "terms", none⟩), .advance 1 [],
    .advance 1 [], .advance 1 [], .advance 1 [],
    .call 2 (.acceptBid 0 "author"), .advance 2 [],
    .call 3 (.acceptTask "worker"), .advance 3 [], .advance 3 [],
    .advance 3 [],
    .advance 2 [], .advance 2 [], .advance 2 [0], .advance 2 []]

/-- The task changes hands. -/
theorem worker_replaced :
    ¬ ∀ (authorPrincipalId : String) (actions : List MarketAction),
      Along marketStep Market.Lawful (created authorPrincipalId) actions := by
  intro lawful
  have along := lawful "author" (bidInFlight ++ [.advance 2 []])
  obtain ⟨_, last, _⟩ := (Along.append_iff _ _ _).mp along
  have old : (run marketStep (created "author") bidInFlight).row =
      some ⟨"author", some "worker", .accepted⟩ := by decide +kernel
  have new : (run marketStep (created "author")
      (bidInFlight ++ [.advance 2 []])).row =
        some ⟨"author", some "agent", .accepted⟩ := by decide +kernel
  rw [run_append] at new
  have kept := last.worker _ old _ new (Option.some_ne_none _)
  exact absurd kept (by decide)

end Market

end AcpTask.Marketplace
