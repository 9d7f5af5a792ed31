import AcpTask.Spend.Ledger

namespace AcpTask.Spend

open Library

/-- The amount in micros, where a statement takes it. -/
def storable? (amount : Amount) : Option Int :=
  (micros amount).toOption.filter fits64

theorem storable?_eq_some_iff {amount : Amount} {value : Int} :
    storable? amount = some value ↔
      micros amount = .ok value ∧ bound value = .ok () := by
  unfold storable? bound
  rw [Option.filter_eq_some_iff]
  refine and_congr ?_ (by simp)
  cases micros amount <;> simp [Except.toOption]

/-- What a call adds to the sums of the budgets that it writes. -/
structure Additions where
  keys : List (String × String × String)
  reserved : Int
  settled : Int := 0

def additions (backend : Backend) (store : SpendStore) :
    SpendAction → Option Additions
  | .setCeiling .. => none
  | .reserve _ tenantId reservationId _ estimate campaignId =>
      let keys := boundBudgets tenantId campaignId
      match storable? estimate,
          store.reservations.find? (tenantId, reservationId) with
      | some amount, none =>
          match checkBudgets backend store amount keys with
          | .ok () => some { keys, reserved := amount }
          | .error _ => none
      | _, _ => none
  | .settle _ tenantId reservationId actual =>
      match storable? actual, openRow store tenantId reservationId with
      | some actualMicros, some row => some {
          keys := row.budgets, reserved := -row.reservedMicros
          settled := actualMicros }
      | _, _ => none
  | .release _ tenantId reservationId =>
      (openRow store tenantId reservationId).map fun row =>
        { keys := row.budgets, reserved := -row.reservedMicros }
where
  openRow (store : SpendStore) (tenantId reservationId : String) :
      Option Reservation :=
    (store.reservations.find? (tenantId, reservationId)).filter fun row =>
      row.status = .reserved

/-- Every sum that the call stores is one of 64 bits. -/
def Fitting (backend : Backend) (store : SpendStore) (action : SpendAction) :
    Prop :=
  ∀ added ∈ additions backend store action, ∀ key ∈ added.keys,
    ∀ budget ∈ store.budgets.find? key,
      budget.Takes backend added.reserved added.settled

instance (backend : Backend) (store : SpendStore) (action : SpendAction) :
    Decidable (Fitting backend store action) := by
  unfold Fitting Budget.Takes
  infer_instance

/-! What one call can do to the store.  Every invariant below is read off this
relation and never off the bodies of the calls. -/

inductive SpendChange (backend : Backend) (store : SpendStore) :
    Option Additions → SpendStore → Prop
  | unchanged (added : Option Additions) :
      SpendChange backend store added store
  | ceiling (row : Budget) (budgets : Table Budget Budget.key)
      (empty : row.reservedMicros = 0 ∧ row.settledMicros = 0)
      (inserted : store.budgets.insert? row = some budgets) :
      SpendChange backend store none { store with budgets }
  | raised (key : String × String × String) (ceiling : Int) :
      SpendChange backend store none { store with
        budgets := store.budgets.updateWhere
          (fun budget => decide (budget.key = key))
          (fun budget => { budget with ceilingMicros := ceiling })
          (fun _ => rfl) }
  | reserved (row : Reservation)
      (reservations : Table Reservation Reservation.key)
      (isOpen : row.status = .reserved)
      (backed : ∀ key ∈ row.budgets, (store.budgets.find? key).isSome)
      (inserted : store.reservations.insert? row = some reservations) :
      SpendChange backend store
        (some { keys := row.budgets, reserved := row.reservedMicros }) {
        budgets := store.budgets.updateKeys row.budgets
          (fun budget => budget.addReserved backend row.reservedMicros)
          (fun budget => budget.addReserved_key backend _)
        reservations }
  | settled (row : Reservation) (actualMicros now : Int)
      (found : store.reservations.find? row.key = some row)
      (isOpen : row.status = .reserved) :
      SpendChange backend store
        (some { keys := row.budgets, reserved := -row.reservedMicros
                settled := actualMicros })
        (closeReservation store row
          { row with status := .settled
                     settledMicros := some actualMicros
                     updatedAt := now }
          (fun budget =>
            (budget.addReserved backend (-row.reservedMicros)).addSettled backend
              actualMicros)
          (fun budget => budget.addSettled_key backend ..))
  | released (row : Reservation) (now : Int)
      (found : store.reservations.find? row.key = some row)
      (isOpen : row.status = .reserved) :
      SpendChange backend store
        (some { keys := row.budgets, reserved := -row.reservedMicros })
        (store.released backend row now)

variable {backend : Backend} {store result : SpendStore}
  {added : Option Additions}

def Accepted (backend : Backend) (store : SpendStore) : Prop :=
  (store.budgets.rows.all (budgetCheck backend) &&
    store.reservations.rows.all (reservationCheck backend)) = true

instance : Decidable (Accepted backend store) :=
  inferInstanceAs (Decidable (_ = true))

theorem constrained_ok_iff :
    constrained backend store = .ok result ↔
      Accepted backend store ∧ result = store := by
  unfold constrained Accepted
  split
  · rename_i accepted
    rw [accepted]
    simp [eq_comm]
  · rename_i refused
    exact iff_of_false (fun same => by cases same) fun both => refused both.1

theorem budgetRow_eq_ok {key : String × String × String} {budget : Budget}
    (read : budgetRow store key = .ok budget) :
    store.budgets.find? key = some budget := by
  unfold budgetRow at read
  cases found : store.budgets.find? key with
  | none => simp [found] at read
  | some =>
      simp only [found] at read
      exact congrArg some (Except.ok.inj read)

variable {keys : List (String × String × String)}

theorem checkBudgets_passed {amount : Int}
    (passed : checkBudgets backend store amount keys = .ok ()) :
    ∀ key ∈ keys, ∃ budget, store.budgets.find? key = some budget ∧
      checkCeiling backend amount budget = .ok () := by
  induction keys with
  | nil => exact fun key member => absurd member List.not_mem_nil
  | cons _ tail induction =>
      cases backend with
      | sqlite =>
          simp only [checkBudgets, List.forM_eq_forM, List.forM_cons] at passed
          obtain ⟨_, headPassed, tailPassed⟩ := bind_eq_ok.mp passed
          obtain ⟨budget, read, room⟩ := bind_eq_ok.mp headPassed
          intro key member
          rcases List.mem_cons.mp member with rfl | later
          · exact ⟨budget, budgetRow_eq_ok read, room⟩
          · exact induction tailPassed key later
      | postgres =>
          simp only [checkBudgets, List.mapM_cons] at passed
          obtain ⟨_, lockedOk, checks⟩ := bind_eq_ok.mp passed
          obtain ⟨budget, read, rest⟩ := bind_eq_ok.mp lockedOk
          obtain ⟨others, othersOk, equal⟩ := bind_eq_ok.mp rest
          cases equal
          rw [List.forM_eq_forM, List.forM_cons] at checks
          obtain ⟨_, room, tailChecks⟩ := bind_eq_ok.mp checks
          have tailPassed :
              checkBudgets .postgres store amount tail = .ok () := by
            simp only [checkBudgets]
            exact bind_eq_ok.mpr ⟨others, othersOk, tailChecks⟩
          intro key member
          rcases List.mem_cons.mp member with rfl | later
          · exact ⟨budget, budgetRow_eq_ok read, room⟩
          · exact induction tailPassed key later

theorem checkBudgets_backed {amount : Int}
    (passed : checkBudgets backend store amount keys = .ok ()) :
    ∀ key ∈ keys, (store.budgets.find? key).isSome := by
  intro key member
  obtain ⟨_, found, _⟩ := checkBudgets_passed passed key member
  rw [found, Option.isSome_some]

/-! What the calls write, where they write at all. -/

variable {now : Int} {tenantId reservationId channel : String}

theorem setCeiling_cases {kind budgetId : String} {amount : Amount}
    (later : SpendStore)
    (called : (setCeiling backend store tenantId kind budgetId amount).2 =
      later) :
    later = store ∨ Accepted backend later ∧
      SpendChange backend store none later := by
  unfold setCeiling at called
  cases parsed : micros amount with
  | error =>
      rw [parsed] at called
      exact .inl called.symm
  | ok ceiling =>
      rw [parsed] at called
      rcases transaction_cases rfl with same | ⟨_, body⟩
      · exact .inl (called.symm.trans same)
      rw [called] at body
      refine .inr ?_
      obtain ⟨_, _, bounded⟩ := bind_eq_ok.mp body
      obtain ⟨_, passed, equal⟩ := bind_eq_ok.mp bounded
      cases equal
      obtain ⟨accepted, rfl⟩ := constrained_ok_iff.mp passed
      refine ⟨accepted, ?_⟩
      cases inserted : store.budgets.insert?
          { tenantId, budgetKind := kind, budgetId,
            ceilingMicros := ceiling } with
      | some budgets => exact .ceiling _ budgets ⟨rfl, rfl⟩ inserted
      | none => exact .raised _ ceiling

theorem reserve_cases {estimate : Amount} {campaignId : Option String}
    (later : SpendStore)
    (called : (reserve backend store now tenantId reservationId channel estimate
      campaignId).2 = later) :
    later = store ∨ Accepted backend later ∧ ∃ row : Reservation,
      row.budgets = boundBudgets tenantId campaignId ∧
      row.status = .reserved ∧
      storable? estimate = some row.reservedMicros ∧
      store.reservations.find? (tenantId, reservationId) = none ∧
      checkBudgets backend store row.reservedMicros row.budgets = .ok () ∧
      store.reservations.insert? row = some later.reservations ∧
      later.budgets = store.budgets.updateKeys row.budgets
        (fun budget => budget.addReserved backend row.reservedMicros)
        (fun budget => budget.addReserved_key backend _) := by
  unfold reserve at called
  cases parsed : micros estimate with
  | error =>
      rw [parsed] at called
      exact .inl called.symm
  | ok amount =>
      rw [parsed] at called
      rcases transaction_cases rfl with same | ⟨_, body⟩
      · exact .inl (called.symm.trans same)
      rw [called] at body
      cases found : store.reservations.find? (tenantId, reservationId) with
      | some =>
          simp only [found] at body
          split at body
          · cases body
          · cases body
            exact .inl rfl
      | none =>
          simp only [found] at body
          obtain ⟨_, passed, afterCheck⟩ := bind_eq_ok.mp body
          obtain ⟨_, bounded, afterBound⟩ := bind_eq_ok.mp afterCheck
          obtain ⟨inserted, insertedOk, afterInsert⟩ := bind_eq_ok.mp afterBound
          obtain ⟨_, checked, equal⟩ := bind_eq_ok.mp afterInsert
          cases equal
          obtain ⟨accepted, rfl⟩ := constrained_ok_iff.mp checked
          unfold insertReservation at insertedOk
          split at insertedOk
          · rename_i reservations insertedRow
            cases insertedOk
            exact .inr ⟨accepted, _, rfl, rfl,
              storable?_eq_some_iff.mpr ⟨parsed, bounded⟩, rfl, passed,
              insertedRow, rfl⟩
          · cases insertedOk

theorem settle_cases {actual : Amount} (later : SpendStore)
    (called : (settle backend store now tenantId reservationId actual).2 =
      later) :
    later = store ∨ Accepted backend later ∧ ∃ row actualMicros,
      storable? actual = some actualMicros ∧
      store.reservations.find? (tenantId, reservationId) = some row ∧
      row.status = .reserved ∧
      later = closeReservation store row
        { row with status := .settled
                   settledMicros := some actualMicros
                   updatedAt := now }
        (fun budget =>
          (budget.addReserved backend (-row.reservedMicros)).addSettled backend
            actualMicros)
        (fun budget => budget.addSettled_key backend ..) := by
  unfold settle at called
  cases parsed : micros actual with
  | error =>
      rw [parsed] at called
      exact .inl called.symm
  | ok actualMicros =>
      rw [parsed] at called
      rcases transaction_cases rfl with same | ⟨_, body⟩
      · exact .inl (called.symm.trans same)
      rw [called] at body
      cases found : store.reservations.find? (tenantId, reservationId) with
      | none => simp only [found, reduceCtorEq] at body
      | some row =>
          simp only [found] at body
          cases status : row.status with
          | settled =>
              simp only [status] at body
              cases body
              exact .inl rfl
          | released => simp only [status, reduceCtorEq] at body
          | reserved =>
              simp only [status] at body
              obtain ⟨_, bounded, afterBound⟩ := bind_eq_ok.mp body
              obtain ⟨_, checked, equal⟩ := bind_eq_ok.mp afterBound
              cases equal
              obtain ⟨accepted, rfl⟩ := constrained_ok_iff.mp checked
              exact .inr ⟨accepted, row, actualMicros,
                storable?_eq_some_iff.mpr ⟨parsed, bounded⟩, rfl, status, rfl⟩

theorem release_cases (later : SpendStore)
    (called : (release backend store now tenantId reservationId).2 = later) :
    later = store ∨ Accepted backend later ∧ ∃ row,
      store.reservations.find? (tenantId, reservationId) = some row ∧
      row.status = .reserved ∧
      later = store.released backend row now := by
  unfold release at called
  rcases transaction_cases rfl with same | ⟨_, body⟩
  · exact .inl (called.symm.trans same)
  rw [called] at body
  cases found : store.reservations.find? (tenantId, reservationId) with
  | none =>
      simp only [found] at body
      cases body
      exact .inl rfl
  | some row =>
      simp only [found] at body
      cases status : row.status with
      | reserved =>
          simp only [status] at body
          obtain ⟨_, checked, equal⟩ := bind_eq_ok.mp body
          cases equal
          obtain ⟨accepted, rfl⟩ := constrained_ok_iff.mp checked
          exact .inr ⟨accepted, row, rfl, status, rfl⟩
      | _ =>
          simp only [status] at body
          cases body
          exact .inl rfl

theorem openRow_eq {row : Reservation}
    (found : store.reservations.find? (tenantId, reservationId) = some row)
    (isOpen : row.status = .reserved) :
    additions.openRow store tenantId reservationId = some row := by
  simp [additions.openRow, found, isOpen]

theorem outcome_store {Value : Type}
    (result : Except SpendError Value × SpendStore) :
    (perform.outcome result).2 = result.2 := by
  unfold perform.outcome
  split <;> rfl

theorem spendStep_change (backend : Backend) (store : SpendStore)
    (action : SpendAction) :
    SpendChange backend store (additions backend store action)
        (spendStep backend store action) ∧
      (Accepted backend store →
        Accepted backend (spendStep backend store action)) := by
  cases action with
  | setCeiling =>
      simp only [spendStep, perform, outcome_store]
      rcases setCeiling_cases _ rfl with same | ⟨accepted, change⟩
      · rw [same]
        exact ⟨.unchanged _, id⟩
      · exact ⟨change, fun _ => accepted⟩
  | reserve =>
      simp only [spendStep, perform, outcome_store]
      rcases reserve_cases _ rfl with same | ⟨accepted, row, keys, isOpen,
        stored, absent, passed, inserted, debited⟩
      · rw [same]
        exact ⟨.unchanged _, id⟩
      · refine ⟨?_, fun _ => accepted⟩
        have change := @SpendChange.reserved backend store row _ isOpen
          (checkBudgets_backed passed) inserted
        rw [← debited] at change
        simp only [additions, stored, absent, ← keys, passed]
        exact change
  | settle =>
      simp only [spendStep, perform, outcome_store]
      rcases settle_cases _ rfl with same | ⟨accepted, row, actualMicros,
        stored, found, isOpen, closes⟩
      · rw [same]
        exact ⟨.unchanged _, id⟩
      · refine ⟨?_, fun _ => accepted⟩
        rw [closes, additions, stored, openRow_eq found isOpen]
        refine .settled row actualMicros _ ?_ isOpen
        rw [(Table.find?_eq_some_iff.mp found).2, found]
  | release =>
      simp only [spendStep, perform, outcome_store]
      rcases release_cases _ rfl with same | ⟨accepted, row, found, isOpen,
        closes⟩
      · rw [same]
        exact ⟨.unchanged _, id⟩
      · refine ⟨?_, fun _ => accepted⟩
        rw [closes, additions, openRow_eq found isOpen]
        refine .released row _ ?_ isOpen
        rw [(Table.find?_eq_some_iff.mp found).2, found]

theorem boundBudgets_nodup (tenantId : String) (campaignId : Option String) :
    (boundBudgets tenantId campaignId).Nodup := by
  unfold boundBudgets
  split
  · split
    · exact List.nodup_singleton _
    · simp
  · exact List.nodup_singleton _

def openShare (key : String × String × String) (row : Reservation) : Int :=
  if decide (key ∈ row.budgets) && decide (row.status = .reserved) then
    row.reservedMicros
  else 0

def settledShare (key : String × String × String) (row : Reservation) : Int :=
  if decide (key ∈ row.budgets) && decide (row.status = .settled) then
    row.settledMicros.getD 0
  else 0

structure Accounted (store : SpendStore) : Prop where
  backed : ∀ row ∈ store.reservations, ∀ key ∈ row.budgets,
    (store.budgets.find? key).isSome
  reserved : ∀ key budget, store.budgets.find? key = some budget →
    budget.reservedMicros = (store.reservations.rows.map (openShare key)).sum
  settled : ∀ key budget, store.budgets.find? key = some budget →
    budget.settledMicros = (store.reservations.rows.map (settledShare key)).sum

theorem Accounted.empty : Accounted SpendStore.empty where
  backed := fun row member => absurd member (Table.not_mem_empty row)
  reserved := fun _ _ found => nomatch found
  settled := fun _ _ found => nomatch found

variable {row : Reservation}

theorem Accounted.unbound (accounted : Accounted store)
    {key : String × String × String} (absent : store.budgets.find? key = none)
    (member : row ∈ store.reservations) :
    key ∉ row.budgets := by
  intro bound
  have found := accounted.backed row member key bound
  rw [absent] at found
  cases found

theorem Accounted.ceiling (accounted : Accounted store) {row : Budget}
    {budgets : Table Budget Budget.key}
    (empty : row.reservedMicros = 0 ∧ row.settledMicros = 0)
    (inserted : store.budgets.insert? row = some budgets) :
    Accounted { store with budgets } := by
  have absent := (Table.insert?_eq_some_iff.mp inserted).1
  have noShare : ∀ share : String × String × String → Reservation → Int,
      (∀ key other, key ∉ other.budgets → share key other = 0) →
      (store.reservations.rows.map (share row.key)).sum = 0 := by
    intro share unboundShare
    apply List.sum_eq_zero
    intro amount member
    obtain ⟨other, otherMember, rfl⟩ := List.mem_map.mp member
    exact unboundShare row.key other (accounted.unbound absent otherMember)
  refine ⟨?_, ?_, ?_⟩
  · intro other member key bound
    rw [Table.find?_of_insert? inserted]
    split
    · rfl
    · exact accounted.backed other member key bound
  · intro key budget found
    rw [Table.find?_of_insert? inserted] at found
    split at found
    · rename_i same
      cases found
      subst same
      rw [empty.1, noShare openShare fun key other unbound => by
        simp [openShare, unbound]]
    · exact accounted.reserved key budget found
  · intro key budget found
    rw [Table.find?_of_insert? inserted] at found
    split at found
    · rename_i same
      cases found
      subst same
      rw [empty.2, noShare settledShare fun key other unbound => by
        simp [settledShare, unbound]]
    · exact accounted.settled key budget found

theorem Accounted.raised (accounted : Accounted store)
    (key : String × String × String) (ceiling : Int) :
    Accounted { store with
      budgets := store.budgets.updateWhere
        (fun budget => decide (budget.key = key))
        (fun budget => { budget with ceilingMicros := ceiling })
        (fun _ => rfl) } := by
  refine ⟨?_, ?_, ?_⟩
  · intro row member bound boundMember
    dsimp only
    rw [Table.find?_updateWhere, Option.isSome_map]
    exact accounted.backed row member bound boundMember
  · intro bound budget found
    dsimp only at found
    rw [Table.find?_updateWhere, Option.map_eq_some_iff] at found
    obtain ⟨old, oldFound, rfl⟩ := found
    rw [← accounted.reserved bound old oldFound]
    split <;> rfl
  · intro bound budget found
    dsimp only at found
    rw [Table.find?_updateWhere, Option.map_eq_some_iff] at found
    obtain ⟨old, oldFound, rfl⟩ := found
    rw [← accounted.settled bound old oldFound]
    split <;> rfl

theorem Accounted.reserve (accounted : Accounted store)
    {reservations : Table Reservation Reservation.key}
    (isOpen : row.status = .reserved)
    (backed : ∀ key ∈ row.budgets, (store.budgets.find? key).isSome)
    (inserted : store.reservations.insert? row = some reservations)
    (takes : ∀ key ∈ row.budgets, ∀ budget ∈ store.budgets.find? key,
      budget.Takes backend row.reservedMicros 0) :
    Accounted {
      budgets := store.budgets.updateKeys row.budgets
        (fun budget => budget.addReserved backend row.reservedMicros)
        (fun budget => budget.addReserved_key backend _)
      reservations } := by
  have distinct : row.budgets.Nodup := boundBudgets_nodup ..
  have rows := (Table.insert?_eq_some_iff.mp inserted).2
  refine ⟨?_, ?_, ?_⟩
  · intro other member key bound
    have found : (store.budgets.find? key).isSome := by
      rcases (Table.mem_of_insert? inserted).mp member with old | rfl
      · exact accounted.backed other old key bound
      · exact backed key bound
    rw [Table.find?_updateKeys _ _ distinct]
    split
    · rw [Option.isSome_map]
      exact found
    · exact found
  · intro key budget found
    rw [Table.find?_updateKeys _ _ distinct] at found
    rw [rows, List.map_append, List.sum_append, List.map_singleton,
      List.sum_singleton]
    split at found
    · rename_i bound
      obtain ⟨old, oldFound, rfl⟩ := Option.map_eq_some_iff.mp found
      rw [(takes key bound old oldFound).addReserved]
      simp [openShare, bound, isOpen, accounted.reserved key old oldFound]
    · rename_i unbound
      simp [openShare, unbound, accounted.reserved key budget found]
  · intro key budget found
    have sameSum : (reservations.rows.map (settledShare key)).sum =
        (store.reservations.rows.map (settledShare key)).sum := by
      rw [rows, List.map_append, List.sum_append, List.map_singleton,
        List.sum_singleton]
      simp [settledShare, isOpen]
    rw [Table.find?_updateKeys _ _ distinct] at found
    rw [sameSum]
    split at found
    · obtain ⟨old, oldFound, rfl⟩ := Option.map_eq_some_iff.mp found
      exact accounted.settled key old oldFound
    · exact accounted.settled key budget found

/-- Closing an open reservation keeps the sums when every bound budget gives
the reserved amount back and takes over what the closed row has settled. -/
theorem Accounted.close (accounted : Accounted store) {closed : Reservation}
    {credit : Budget → Budget}
    {keepsBudget : ∀ budget, (credit budget).key = budget.key}
    (found : store.reservations.find? row.key = some row)
    (isOpen : row.status = .reserved) (isClosed : closed.status ≠ .reserved)
    (givesBack : ∀ key ∈ row.budgets, ∀ budget ∈ store.budgets.find? key,
      (credit budget).reservedMicros =
        budget.reservedMicros + -row.reservedMicros)
    (takesOver : ∀ key ∈ row.budgets, ∀ budget ∈ store.budgets.find? key,
      (credit budget).settledMicros = budget.settledMicros +
        if closed.status = .settled then closed.settledMicros.getD 0 else 0) :
    Accounted (closeReservation store row closed credit keepsBudget) := by
  have distinct : row.budgets.Nodup := boundBudgets_nodup ..
  have closedBudgets : ({ row with
      status := closed.status
      settledMicros := closed.settledMicros
      updatedAt := closed.updatedAt } : Reservation).budgets = row.budgets := rfl
  refine ⟨?_, ?_, ?_⟩
  · intro other member key bound
    simp only [closeReservation, Table.mem_updateWhere] at member
    obtain ⟨old, oldMember, rfl⟩ := member
    have oldBound : key ∈ old.budgets := by
      split at bound <;> exact bound
    have found := accounted.backed old oldMember key oldBound
    simp only [closeReservation]
    rw [Table.find?_updateKeys _ _ distinct]
    split
    · rw [Option.isSome_map]
      exact found
    · exact found
  · intro key budget budgetFound
    simp only [closeReservation] at budgetFound ⊢
    rw [Table.find?_updateKeys _ _ distinct] at budgetFound
    rw [Table.sum_updateWhere_key found]
    split at budgetFound
    · rename_i bound
      obtain ⟨old, oldFound, rfl⟩ := Option.map_eq_some_iff.mp budgetFound
      rw [givesBack key bound old oldFound,
        accounted.reserved key old oldFound]
      simp [openShare, bound, isOpen, isClosed]
    · rename_i unbound
      simp [openShare, unbound, closedBudgets,
        accounted.reserved key budget budgetFound]
  · intro key budget budgetFound
    simp only [closeReservation] at budgetFound ⊢
    rw [Table.find?_updateKeys _ _ distinct] at budgetFound
    rw [Table.sum_updateWhere_key found]
    split at budgetFound
    · rename_i bound
      obtain ⟨old, oldFound, rfl⟩ := Option.map_eq_some_iff.mp budgetFound
      rw [takesOver key bound old oldFound,
        accounted.settled key old oldFound]
      simp [settledShare, bound, closedBudgets, isOpen]
    · rename_i unbound
      simp [settledShare, unbound, closedBudgets,
        accounted.settled key budget budgetFound]

theorem Accounted.change (accounted : Accounted store)
    (change : SpendChange backend store added result)
    (fits : ∀ addition ∈ added, ∀ key ∈ addition.keys,
      ∀ budget ∈ store.budgets.find? key,
        budget.Takes backend addition.reserved addition.settled) :
    Accounted result := by
  cases change with
  | unchanged => exact accounted
  | ceiling _ _ empty inserted => exact accounted.ceiling empty inserted
  | raised key ceiling => exact accounted.raised key ceiling
  | reserved _ _ isOpen backed inserted =>
      exact accounted.reserve isOpen backed inserted (fits _ rfl)
  | settled _ _ _ found isOpen =>
      refine accounted.close found isOpen (by simp) ?_ ?_
      · exact fun key bound budget here =>
          (fits _ rfl key bound budget here).addReserved
      · exact fun key bound budget here =>
          (fits _ rfl key bound budget here).addSettled _
  | released _ _ found isOpen =>
      refine accounted.close found isOpen (by simp) ?_ ?_
      · exact fun key bound budget here =>
          (fits _ rfl key bound budget here).addReserved
      · exact fun _ _ budget _ => (add_zero budget.settledMicros).symm

theorem spendRun_accounted (backend : Backend) (actions : List SpendAction)
    (fits : Along (spendStep backend) (Fitting backend) SpendStore.empty
      actions) : Accounted (spendRun backend actions) :=
  Along.invariant Accounted (fun store action accounted fits =>
    accounted.change (spendStep_change backend store action).1 fits)
    Accounted.empty fits

theorem fitting_postgres (actions : List SpendAction) :
    Along (spendStep .postgres) (Fitting .postgres) SpendStore.empty actions :=
  (Along.iff_forall ..).mpr fun _ _ _ _ _ _ _ _ _ _ => .inl rfl

def StatusMoves (before after : ReservationStatus) : Prop :=
  after = before ∨ before = .reserved ∧ (after = .settled ∨ after = .released)

theorem SpendChange.statusMoves (change : SpendChange backend store added result)
    (member : row ∈ store.reservations) :
    ∃ later ∈ result.reservations,
      later.key = row.key ∧ StatusMoves row.status later.status := by
  have closes : ∀ (target closed : Reservation) (credit : Budget → Budget)
      (keepsBudget : ∀ budget, (credit budget).key = budget.key),
      store.reservations.find? target.key = some target →
      target.status = .reserved →
      closed.status = .settled ∨ closed.status = .released →
      ∃ later ∈ (closeReservation store target closed credit
          keepsBudget).reservations,
        later.key = row.key ∧ StatusMoves row.status later.status := by
    intro target closed credit keepsBudget found isOpen isClosed
    simp only [closeReservation, Table.mem_updateWhere]
    refine ⟨_, ⟨row, member, rfl⟩, ?_⟩
    by_cases same : row.key = target.key
    · have sameRow : row = target := Table.eq_of_key member
        (Table.find?_eq_some_iff.mp found).1 same
      subst sameRow
      refine ⟨by simp [Reservation.key], .inr ⟨isOpen, ?_⟩⟩
      simpa using isClosed
    · simp only [same, decide_false, Bool.false_eq_true, if_false]
      exact ⟨trivial, .inl rfl⟩
  cases change with
  | unchanged | ceiling | raised => exact ⟨row, member, rfl, .inl rfl⟩
  | reserved _ _ _ _ inserted =>
      exact ⟨row, (Table.mem_of_insert? inserted).mpr (.inl member), rfl,
        .inl rfl⟩
  | settled target _ _ found isOpen =>
      exact closes target _ _ _ found isOpen (.inl rfl)
  | released target _ found isOpen =>
      exact closes target _ _ _ found isOpen (.inr rfl)

theorem outcome_atomic {Value : Type}
    {result : Except SpendError Value × SpendStore}
    (atomic : Atomic store result) {error : SpendError}
    (raised : (perform.outcome result).1 = some error) :
    (perform.outcome result).2 = store := by
  rw [outcome_store]
  cases outcome : result.1 with
  | ok => simp [perform.outcome, outcome] at raised
  | error found => exact atomic found outcome

theorem perform_atomic {action : SpendAction} {error : SpendError}
    (raised : (perform backend store action).1 = some error) :
    (perform backend store action).2 = store := by
  cases action with
  | setCeiling _ _ _ amount =>
      refine outcome_atomic ?_ raised
      unfold setCeiling
      cases micros amount with
      | error found => exact atomic_error store found
      | ok => exact transaction_atomic store _
  | reserve _ _ _ _ estimate =>
      refine outcome_atomic ?_ raised
      unfold reserve
      cases micros estimate with
      | error found => exact atomic_error store found
      | ok => exact transaction_atomic store _
  | settle _ _ _ actual =>
      refine outcome_atomic ?_ raised
      unfold settle
      cases micros actual with
      | error found => exact atomic_error store found
      | ok => exact transaction_atomic store _
  | release => exact outcome_atomic (transaction_atomic store _) raised

def boundReservations (store : SpendStore) (budget : Budget)
    (status : ReservationStatus) : List Reservation :=
  store.reservations.rows.filter fun row =>
    decide (budget.key ∈ row.budgets) && decide (row.status = status)

theorem sum_filter {Row : Type} (rows : List Row) (condition : Row → Bool)
    (amount : Row → Int) :
    ((rows.filter condition).map amount).sum =
      (rows.map fun row => if condition row then amount row else 0).sum := by
  induction rows with
  | nil => rfl
  | cons row _ induction =>
      by_cases selected : condition row <;> simp [selected, induction]

/-- In every state that the ledger reaches, a budget's reserved and settled
amounts are the sums over its open and its settled reservations, in SQLite as
long as the sums stay within 64 bits; any further call moves a reservation's
status only from reserved to settled or released, and a call that raises leaves
the store as it was. -/
theorem spend_ledger_accounts (backend : Backend) (actions : List SpendAction) :
    (backend = .postgres ∨ Along (spendStep backend) (Fitting backend)
        SpendStore.empty actions →
      ∀ budget ∈ (spendRun backend actions).budgets,
        budget.reservedMicros =
          ((boundReservations (spendRun backend actions) budget .reserved).map
            fun row => row.reservedMicros).sum ∧
        budget.settledMicros =
          ((boundReservations (spendRun backend actions) budget .settled).map
            fun row => row.settledMicros.getD 0).sum) ∧
    (∀ (action : SpendAction), ∀ row ∈ (spendRun backend actions).reservations,
      ∃ later ∈ (spendStep backend (spendRun backend actions)
          action).reservations,
        later.key = row.key ∧ StatusMoves row.status later.status) ∧
    (∀ (action : SpendAction) (error : SpendError),
      (perform backend (spendRun backend actions) action).1 = some error →
      (perform backend (spendRun backend actions) action).2 =
        spendRun backend actions) := by
  refine ⟨?_, ?_, ?_⟩
  · intro fits budget member
    have accounted : Accounted (spendRun backend actions) := by
      rcases fits with rfl | fits
      · exact spendRun_accounted .postgres actions (fitting_postgres actions)
      · exact spendRun_accounted backend actions fits
    have found := Table.find?_eq_some_iff.mpr ⟨member, rfl⟩
    constructor
    · rw [boundReservations, sum_filter]
      exact accounted.reserved budget.key budget found
    · rw [boundReservations, sum_filter]
      exact accounted.settled budget.key budget found
  · intro action row member
    exact (spendStep_change backend _ action).1.statusMoves member
  · intro action error raised
    exact perform_atomic raised

/-- Each settlement fits 64 bits, and what both come to does not. -/
def twoSettlements : List SpendAction :=
  [.setCeiling "a" "account" "a" (.finite 10 0),
    .reserve 1 "a" "first" "sms" (.finite 1 0) none,
    .reserve 2 "a" "second" "sms" (.finite 1 0) none,
    .settle 3 "a" "first" (.finite 9000000000000000001 (-6)),
    .settle 4 "a" "second" (.finite 9000000000000000001 (-6))]

theorem settlements_rounded :
    ¬ ∀ (backend : Backend) (actions : List SpendAction),
      ∀ budget ∈ (spendRun backend actions).budgets, budget.settledMicros =
        ((boundReservations (spendRun backend actions) budget .settled).map
          fun row => row.settledMicros.getD 0).sum := by
  intro accounts
  have budgets : (spendRun .sqlite twoSettlements).budgets.rows = [{
      tenantId := "a", budgetKind := "account", budgetId := "a"
      ceilingMicros := 10000000, settledMicros := 18000000000000000000
      settledReal := true }] := by
    decide +kernel
  have stored := accounts .sqlite twoSettlements _ (by
    rw [Table.mem_def, budgets]
    exact List.mem_singleton_self _)
  revert stored
  decide +kernel

end AcpTask.Spend
