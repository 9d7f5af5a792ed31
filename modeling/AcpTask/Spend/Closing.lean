import AcpTask.Spend.Accounting

namespace AcpTask.Spend

open Library

/-! What `settle` and `release` write, statement by statement. -/

@[ext] structure SpendRows where
  budgets : String × String × String → Option Budget
  reservations : String × String → Option Reservation

def SpendStore.spendRows (store : SpendStore) : SpendRows where
  budgets := store.budgets.find?
  reservations := store.reservations.find?

/-- A call on a reservation that it read as reserved: it settles the actual
cost when it has one and releases otherwise. -/
structure Closing where
  row : Reservation
  actualMicros : Option Int

namespace Closing

def credit (backend : Backend) (closing : Closing) (budget : Budget) : Budget :=
  let freed := budget.addReserved backend (-closing.row.reservedMicros)
  match closing.actualMicros with
  | some actual => freed.addSettled backend actual
  | none => freed

/-- The sums that are written to the closing's budgets are of 64 bits. -/
def Fits (backend : Backend) (closing : Closing)
    (budgets : String × String × String → Option Budget) : Prop :=
  ∀ key ∈ closing.row.budgets, ∀ budget ∈ budgets key,
    budget.Takes backend (-closing.row.reservedMicros)
      (closing.actualMicros.getD 0)

def close (closing : Closing) (now : Int) (row : Reservation) : Reservation :=
  match closing.actualMicros with
  | some actual => { row with
      status := .settled, settledMicros := some actual, updatedAt := now }
  | none => { row with status := .released, updatedAt := now }

@[simp] theorem close_key (closing : Closing) (now : Int)
    (row : Reservation) : (closing.close now row).key = row.key := by
  unfold close
  split <;> rfl

theorem close_status (closing : Closing) (now : Int) (row : Reservation) :
    (closing.close now row).status ≠ .reserved := by
  unfold close
  split <;> exact fun same => by cases same

end Closing

namespace SpendRows

variable (backend : Backend)

def credit (closing : Closing) (rows : SpendRows)
    (key : String × String × String) : SpendRows :=
  { rows with
    budgets := Function.update rows.budgets key
      ((rows.budgets key).map (closing.credit backend)) }

def credited (rows : SpendRows) (closing : Closing) : SpendRows :=
  closing.row.budgets.foldl (credit backend closing) rows

def close (rows : SpendRows) (closing : Closing) (now : Int) : SpendRows :=
  { rows with
    reservations := Function.update rows.reservations closing.row.key
      ((rows.reservations closing.row.key).map (closing.close now)) }

end SpendRows

theorem Reservation.budgets_nodup (row : Reservation) :
    row.budgets.Nodup :=
  boundBudgets_nodup row.tenantId row.campaignId

variable {backend : Backend}

theorem SpendRows.foldl_credit (closing : Closing)
    {keys : List (String × String × String)} (distinct : keys.Nodup)
    (rows : SpendRows) :
    keys.foldl (credit backend closing) rows = { rows with
      budgets := fun key => if key ∈ keys then
        (rows.budgets key).map (closing.credit backend)
      else rows.budgets key } := by
  induction keys generalizing rows with
  | nil => simp
  | cons head _ induction =>
      obtain ⟨fresh, distinct⟩ := List.nodup_cons.mp distinct
      rw [List.foldl_cons, induction distinct]
      ext1
      · funext key
        by_cases same : key = head
        · subst same
          simp [credit, fresh]
        · simp [credit, same]
      · rfl

theorem SpendRows.credited_budgets (rows : SpendRows) (closing : Closing)
    (key : String × String × String) :
    (rows.credited backend closing).budgets key =
      if key ∈ closing.row.budgets then
        (rows.budgets key).map (closing.credit backend)
      else rows.budgets key := by
  rw [credited, foldl_credit closing closing.row.budgets_nodup]

theorem SpendRows.credited_reservations (rows : SpendRows)
    (closing : Closing) :
    (rows.credited backend closing).reservations = rows.reservations := by
  rw [credited, foldl_credit closing closing.row.budgets_nodup]

def unreserved (closings : List Closing) (key : String × String × String) :
    Int :=
  (closings.map fun closing =>
    if key ∈ closing.row.budgets then closing.row.reservedMicros else 0).sum

def spent (closings : List Closing) (key : String × String × String) : Int :=
  (closings.map fun closing =>
    if key ∈ closing.row.budgets then closing.actualMicros.getD 0 else 0).sum

def Budget.amounts (budget : Budget) : Int × Int × Int :=
  (budget.ceilingMicros, budget.reservedMicros, budget.settledMicros)

def Balanced (initial rows : SpendRows) (closings : List Closing) : Prop :=
  ∀ key, (rows.budgets key).map Budget.amounts =
    (initial.budgets key).map fun budget =>
      (budget.ceilingMicros, budget.reservedMicros - unreserved closings key,
        budget.settledMicros + spent closings key)

def closingsOf (key : String × String) (closings : List Closing) :
    List Closing :=
  closings.filter fun closing => decide (closing.row.key = key)

/-- Each reservation was closed at most once, and is as it was or as that one
closing left it. -/
def ClosedOnce (initial rows : SpendRows) (closings : List Closing) : Prop :=
  ∀ key row, initial.reservations key = some row →
    (closingsOf key closings = [] ∧ rows.reservations key = some row) ∨
    ∃ closing now, closingsOf key closings = [closing] ∧ closing.row = row ∧
      row.status = .reserved ∧
      rows.reservations key = some (closing.close now row)

theorem balanced_refl (initial : SpendRows) : Balanced initial initial [] := by
  intro key
  simp only [unreserved, spent, List.map_nil, List.sum_nil, sub_zero, add_zero]
  rfl

theorem closedOnce_refl (initial : SpendRows) :
    ClosedOnce initial initial [] :=
  fun _ _ found => .inl ⟨rfl, found⟩

theorem Closing.credit_amounts {closing : Closing} {budget : Budget}
    (takes : budget.Takes backend (-closing.row.reservedMicros)
      (closing.actualMicros.getD 0)) :
    (closing.credit backend budget).amounts = (budget.ceilingMicros,
      budget.reservedMicros - closing.row.reservedMicros,
      budget.settledMicros + closing.actualMicros.getD 0) := by
  have freed := takes.addReserved
  have spent := takes.addSettled (-closing.row.reservedMicros)
  rw [← Int.sub_eq_add_neg] at freed
  unfold credit
  cases actual : closing.actualMicros with
  | some amount =>
      rw [actual] at spent
      simp only [Option.getD_some] at spent ⊢
      rw [← spent, ← freed]
      rfl
  | none =>
      simp only [Option.getD_none, add_zero]
      rw [← freed]
      rfl

theorem Balanced.close {initial rows : SpendRows} {closings : List Closing}
    (balanced : Balanced initial rows closings) {closing : Closing}
    (fits : closing.Fits backend rows.budgets) (now : Int) :
    Balanced initial ((rows.credited backend closing).close closing now)
      (closings ++ [closing]) := by
  intro key
  change ((rows.credited backend closing).budgets key).map _ = _
  have before := balanced key
  rw [SpendRows.credited_budgets]
  simp only [unreserved, spent, List.map_append, List.sum_append,
    List.map_singleton, List.sum_singleton] at before ⊢
  by_cases bound : key ∈ closing.row.budgets
  · simp only [if_pos bound]
    cases found : rows.budgets key with
    | none =>
        rw [found] at before
        cases first : initial.budgets key with
        | none => rfl
        | some => simp [first] at before
    | some budget =>
        have takes := fits key bound budget found
        cases first : initial.budgets key with
        | none => simp [first, found] at before
        | some original =>
            simp only [found, first, Option.map_some, Option.some.injEq,
              Budget.amounts, Prod.mk.injEq] at before
            simp only [Option.map_some, Option.some.injEq,
              Closing.credit_amounts takes, before, Prod.mk.injEq, true_and]
            exact ⟨by omega, by omega⟩
  · simp only [if_neg bound, add_zero]
    exact before

theorem closingsOf_append (key : String × String) (closings : List Closing)
    (closing : Closing) :
    closingsOf key (closings ++ [closing]) = closingsOf key closings ++
      if closing.row.key = key then [closing] else [] := by
  simp only [closingsOf, List.filter_append]
  split
  · rename_i same
    simp [same]
  · rename_i other
    simp [other]

theorem SpendRows.close_reservations (rows : SpendRows) (closing : Closing)
    (now : Int) (key : String × String) :
    ((rows.credited backend closing).close closing now).reservations key =
      if key = closing.row.key then
        (rows.reservations key).map (closing.close now)
      else rows.reservations key := by
  simp only [close, credited_reservations, Function.update_apply]
  split
  · rename_i same
    rw [same]
  · rfl

/-- Rows are under their own keys, and one that is still reserved is as it was
at first. -/
def Pristine (initial rows : SpendRows) : Prop :=
  ∀ key row, rows.reservations key = some row → row.key = key ∧
    (row.status = .reserved → initial.reservations key = some row)

theorem pristine_refl (store : SpendStore) :
    Pristine store.spendRows store.spendRows :=
  fun _ _ found => ⟨(Table.find?_eq_some_iff.mp found).2, fun _ => found⟩

theorem Pristine.close {initial rows : SpendRows}
    (pristine : Pristine initial rows) (closing : Closing) (now : Int) :
    Pristine initial ((rows.credited backend closing).close closing now) := by
  intro key row found
  rw [SpendRows.close_reservations] at found
  split at found
  · obtain ⟨before, stored, rfl⟩ := Option.map_eq_some_iff.mp found
    exact ⟨(closing.close_key now before).trans (pristine key before stored).1,
      fun reserved => absurd reserved (closing.close_status now before)⟩
  · exact pristine key row found

theorem ClosedOnce.close_iff {initial rows : SpendRows}
    {closings : List Closing} (once : ClosedOnce initial rows closings)
    {closing : Closing} (reserved : closing.row.status = .reserved)
    (first : initial.reservations closing.row.key = some closing.row)
    (now : Int) :
    ClosedOnce initial ((rows.credited backend closing).close closing now)
        (closings ++ [closing]) ↔
      rows.reservations closing.row.key = some closing.row := by
  constructor
  · intro later
    rcases later _ _ first with ⟨none, _⟩ | ⟨_, _, one, _⟩
    · rw [closingsOf_append, if_pos rfl] at none
      simp at none
    · rw [closingsOf_append, if_pos rfl] at one
      rcases once _ _ first with ⟨_, still⟩ | ⟨other, _, before, _⟩
      · exact still
      · rw [before] at one
        cases one
  · intro still key row found
    rw [closingsOf_append, SpendRows.close_reservations]
    by_cases same : key = closing.row.key
    · subst same
      obtain rfl : row = closing.row := by
        rw [first] at found
        exact (Option.some.inj found).symm
      rw [if_pos rfl, if_pos rfl, still]
      rcases once _ _ first with ⟨none, _⟩ | ⟨other, time, _, _, _, closed⟩
      · rw [none]
        exact .inr ⟨closing, now, rfl, rfl, reserved, rfl⟩
      · rw [still] at closed
        exact absurd ((congrArg Reservation.status
          (Option.some.inj closed)).symm.trans reserved)
          (other.close_status time closing.row)
    · rw [if_neg (Ne.symm same), if_neg same, List.append_nil]
      exact once key row found

end AcpTask.Spend
