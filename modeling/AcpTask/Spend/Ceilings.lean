import AcpTask.Spend.Accounting

namespace AcpTask.Spend

open Library

def Budget.Within (budget : Budget) : Prop :=
  budget.reservedMicros + budget.settledMicros ≤ budget.ceilingMicros

def SpendStore.Within (store : SpendStore) : Prop :=
  ∀ key budget, store.budgets.find? key = some budget → budget.Within

def fairCall (store : SpendStore) : SpendAction → Bool
  | .setCeiling tenantId kind budgetId amount =>
      match storable? amount,
          store.budgets.find? (tenantId, kind, budgetId) with
      | some ceiling, some budget => decide (budget.ceilingMicros ≤ ceiling)
      | _, _ => true
  | .settle _ tenantId reservationId actual =>
      match storable? actual,
          store.reservations.find? (tenantId, reservationId) with
      | some actualMicros, some row =>
          row.status != .reserved || decide (actualMicros ≤ row.reservedMicros)
      | _, _ => true
  | .reserve .. | .release .. => true

def takesBack (store : SpendStore) (amount : Int)
    (key : String × String × String) : Bool :=
  (store.budgets.find? key).all fun budget => decide
    (budget.reservedMicros - amount + budget.settledMicros ≤
      budget.ceilingMicros)

/-- A new ceiling is not negative; and where a reservation of a negative amount
is released, its budgets have room for what comes back. -/
def roomyCall (store : SpendStore) : SpendAction → Bool
  | .setCeiling tenantId kind budgetId amount =>
      match storable? amount,
          store.budgets.find? (tenantId, kind, budgetId) with
      | some ceiling, none => decide (0 ≤ ceiling)
      | _, _ => true
  | .release _ tenantId reservationId =>
      (store.reservations.find? (tenantId, reservationId)).all fun row =>
        row.status != .reserved || decide (0 ≤ row.reservedMicros) ||
          row.budgets.all (takesBack store row.reservedMicros)
  | .reserve .. | .settle .. => true

def Fair (store : SpendStore) (action : SpendAction) : Prop :=
  fairCall store action = true

def Roomy (store : SpendStore) (action : SpendAction) : Prop :=
  roomyCall store action = true

instance (store : SpendStore) (action : SpendAction) :
    Decidable (Fair store action) :=
  inferInstanceAs (Decidable (_ = true))

instance (store : SpendStore) (action : SpendAction) :
    Decidable (Roomy store action) :=
  inferInstanceAs (Decidable (_ = true))

namespace SpendStore

variable {store : SpendStore} {backend : Backend}

theorem Within.empty : Within SpendStore.empty := fun _ _ found => nomatch found

variable {keys : List (String × String × String)}

theorem within_updateKeys_iff (within : store.Within) (distinct : keys.Nodup)
    {assign : Budget → Budget}
    {keepsKey : ∀ budget, (assign budget).key = budget.key}
    {reservations : Table Reservation Reservation.key} :
    Within ⟨store.budgets.updateKeys keys assign keepsKey, reservations⟩ ↔
      ∀ key ∈ keys, ∀ budget, store.budgets.find? key = some budget →
        (assign budget).Within := by
  constructor
  · intro after key member budget found
    refine after key (assign budget) ?_
    rw [Table.find?_updateKeys _ _ distinct, if_pos member, found]
    rfl
  · intro assigned key budget found
    rw [Table.find?_updateKeys _ _ distinct] at found
    split at found
    · rename_i member
      obtain ⟨before, there, rfl⟩ := Option.map_eq_some_iff.mp found
      exact assigned key member before there
    · exact within key budget found

theorem accepted_sqlite (store : SpendStore) : Accepted .sqlite store := by
  simp [Accepted, budgetCheck, reservationCheck]

theorem transaction_constrained {Result : Type} {value : Result}
    {next : SpendStore}
    {body : SpendStore → Except SpendError (Result × SpendStore)}
    (ends : body store = do
      let updated ← constrained backend next
      pure (value, updated)) :
    (transaction store body).2 =
      if Accepted backend next then next else store := by
  unfold transaction
  rw [ends]
  by_cases accepted : Accepted backend next
  · rw [if_pos accepted, constrained_ok_iff.mpr ⟨accepted, rfl⟩]
    rfl
  · rw [if_neg accepted]
    cases refused : constrained backend next with
    | ok => exact absurd (constrained_ok_iff.mp refused).1 accepted
    | error => rfl

/-! `set_ceiling`. -/

def withCeiling (store : SpendStore) (key : String × String × String)
    (ceiling : Int) : SpendStore :=
  { store with
    budgets := store.budgets.upsert
      { tenantId := key.1, budgetKind := key.2.1, budgetId := key.2.2
        ceilingMicros := ceiling }
      (fun budget => { budget with ceilingMicros := ceiling })
      (fun budget => Eq.refl budget.key) }

variable {tenantId : String}

theorem setCeiling_refused {kind budgetId : String} {amount : Amount}
    (refused : storable? amount = none) :
    (setCeiling backend store tenantId kind budgetId amount).2 = store := by
  unfold setCeiling
  cases parsed : micros amount with
  | error => rfl
  | ok ceiling =>
      refine transaction_preserves (motive := fun later => later = store) rfl
        fun value later body => ?_
      obtain ⟨_, bounded, _⟩ := bind_eq_ok.mp body
      rw [storable?_eq_some_iff.mpr ⟨parsed, bounded⟩] at refused
      cases refused

theorem setCeiling_store {kind budgetId : String} {amount : Amount}
    {ceiling : Int} (parsed : storable? amount = some ceiling) :
    (setCeiling backend store tenantId kind budgetId amount).2 =
      if Accepted backend (store.withCeiling (tenantId, kind, budgetId)
        ceiling) then store.withCeiling (tenantId, kind, budgetId) ceiling
      else store := by
  obtain ⟨parsed, bounded⟩ := storable?_eq_some_iff.mp parsed
  unfold setCeiling
  rw [parsed]
  dsimp only
  rw [bounded]
  refine @transaction_constrained _ _ _ ()
    (store.withCeiling (tenantId, kind, budgetId) ceiling) _ ?_
  unfold withCeiling Table.upsert
  dsimp only
  cases store.budgets.insert? _ <;> rfl

theorem within_withCeiling_iff (within : store.Within) {kind budgetId : String}
    {amount : Amount} {ceiling : Int} (parsed : storable? amount = some ceiling)
    (fair : Fair store (.setCeiling tenantId kind budgetId amount)) :
    (store.withCeiling (tenantId, kind, budgetId) ceiling).Within ↔
      Roomy store (.setCeiling tenantId kind budgetId amount) := by
  have found : ∀ key, (store.withCeiling (tenantId, kind, budgetId)
      ceiling).budgets.find? key =
        if (tenantId, kind, budgetId) = key then
          some ((store.budgets.find? key).elim
            { tenantId, budgetKind := kind, budgetId, ceilingMicros := ceiling }
            (fun budget => { budget with ceilingMicros := ceiling }))
        else store.budgets.find? key := fun key => Table.find?_upsert ..
  simp only [Fair, fairCall, parsed] at fair
  simp only [Roomy, roomyCall, parsed]
  cases present : store.budgets.find? (tenantId, kind, budgetId) with
  | none =>
      simp only [decide_eq_true_eq]
      constructor
      · intro after
        have row := after (tenantId, kind, budgetId) _
          ((found _).trans (if_pos rfl))
        rw [present] at row
        exact row
      · intro atLeast key budget there
        rw [found] at there
        split at there
        · rename_i same
          subst same
          rw [present] at there
          cases there
          exact atLeast
        · exact within key budget there
  | some before =>
      rw [present] at fair
      refine iff_of_true ?_ rfl
      intro key budget there
      rw [found] at there
      split at there
      · rename_i same
        subst same
        rw [present] at there
        cases there
        have below := within _ before present
        have raised := of_decide_eq_true fair
        unfold Budget.Within at below ⊢
        exact Int.le_trans below raised
      · exact within key budget there

theorem roomy_of_accepted {kind budgetId : String} {amount : Amount}
    {ceiling : Int} (parsed : storable? amount = some ceiling)
    (accepted : Accepted .postgres
      (store.withCeiling (tenantId, kind, budgetId) ceiling)) :
    Roomy store (.setCeiling tenantId kind budgetId amount) := by
  simp only [Roomy, roomyCall, parsed]
  cases present : store.budgets.find? (tenantId, kind, budgetId) with
  | some => rfl
  | none =>
      have row : (store.withCeiling (tenantId, kind, budgetId)
          ceiling).budgets.find? (tenantId, kind, budgetId) =
            some { tenantId, budgetKind := kind, budgetId
                   ceilingMicros := ceiling } := by
        refine (Table.find?_upsert ..).trans ((if_pos rfl).trans ?_)
        rw [present]
        rfl
      obtain ⟨member, _⟩ := Table.find?_eq_some_iff.mp row
      have checks := (Bool.and_eq_true_iff.mp accepted).1
      have check := List.all_eq_true.mp checks _ member
      simp only [budgetCheck, Bool.and_eq_true, decide_eq_true_eq] at check
      exact decide_eq_true check.1.1.1.1.2

/-! `reserve` and `settle`. -/

theorem checkCeiling_ok {amount : Int} {budget : Budget}
    (passed : checkCeiling backend amount budget = .ok ()) :
    amount ≤ budget.available backend := by
  unfold checkCeiling at passed
  split at passed
  · cases passed
  · rename_i room
    exact Int.not_lt.mp room

theorem checkBudgets_room {amount : Int}
    (passed : checkBudgets backend store amount keys = .ok ()) :
    ∀ key ∈ keys, ∀ budget, store.budgets.find? key = some budget →
      amount ≤ budget.available backend := by
  intro key member budget found
  obtain ⟨_, read, room⟩ := checkBudgets_passed passed key member
  cases read.symm.trans found
  exact checkCeiling_ok room

theorem within_reserve (within : store.Within) {now : Int}
    {tenantId reservationId channel : String} {estimate : Amount}
    {campaignId : Option String} (fits : Fitting backend store
      (.reserve now tenantId reservationId channel estimate campaignId)) :
    (reserve backend store now tenantId reservationId channel estimate
      campaignId).2.Within := by
  rcases reserve_cases _ rfl with same | ⟨_, row, keys, _, stored, absent,
    passed, _, debited⟩
  · rw [same]
    exact within
  · unfold Within
    rw [debited]
    change Within ⟨_, store.reservations⟩
    refine (within_updateKeys_iff within (boundBudgets_nodup ..)).mpr ?_
    intro key member budget there
    have takes : budget.Takes backend row.reservedMicros 0 :=
      fits { keys := row.budgets, reserved := row.reservedMicros }
        (by simp only [additions, stored, absent, ← keys, passed,
          Option.mem_def]) key member budget there
    have room := checkBudgets_room passed key member budget there
    rw [takes.available] at room
    change (budget.addReserved backend row.reservedMicros).reservedMicros +
      budget.settledMicros ≤ budget.ceilingMicros
    rw [takes.addReserved]
    omega

theorem within_settle (within : store.Within) {now : Int}
    {reservationId : String} {actual : Amount}
    (fair : Fair store (.settle now tenantId reservationId actual))
    (fits : Fitting backend store (.settle now tenantId reservationId actual)) :
    (settle backend store now tenantId reservationId actual).2.Within := by
  rcases settle_cases _ rfl with same | ⟨_, row, actualMicros, stored, found,
    isOpen, closes⟩
  · rw [same]
    exact within
  · rw [closes]
    have less : actualMicros ≤ row.reservedMicros := by
      simpa [Fair, fairCall, stored, found, isOpen] using fair
    refine (within_updateKeys_iff within (boundBudgets_nodup ..)).mpr ?_
    intro key member budget there
    have takes : budget.Takes backend (-row.reservedMicros) actualMicros :=
      fits { keys := row.budgets, reserved := -row.reservedMicros
             settled := actualMicros }
        (by rw [Option.mem_def, additions, stored, openRow_eq found isOpen])
        key member budget there
    have below := within key budget there
    unfold Budget.Within at below
    change (budget.addReserved backend _).reservedMicros +
      ((budget.addReserved backend _).addSettled backend _).settledMicros ≤
        budget.ceilingMicros
    rw [takes.addReserved, takes.addSettled]
    omega

/-! `release`. -/

theorem within_released_iff (within : store.Within) {row : Reservation}
    (takes : ∀ key ∈ row.budgets, ∀ budget ∈ store.budgets.find? key,
      budget.Takes backend (-row.reservedMicros) 0) (now : Int) :
    (store.released backend row now).Within ↔
      (decide (0 ≤ row.reservedMicros) ||
        row.budgets.all (takesBack store row.reservedMicros)) = true := by
  have distinct := boundBudgets_nodup row.tenantId row.campaignId
  refine (within_updateKeys_iff within distinct).trans ?_
  rw [Bool.or_eq_true, decide_eq_true_eq, List.all_eq_true]
  constructor
  · intro after
    refine .inr fun key member => ?_
    unfold takesBack
    cases found : store.budgets.find? key with
    | none => rfl
    | some budget =>
        have below := after key member budget found
        unfold Budget.Within at below
        rw [(takes key member budget found).addReserved] at below
        exact decide_eq_true below
  · intro room key member budget found
    change (budget.addReserved backend _).reservedMicros +
      budget.settledMicros ≤ budget.ceilingMicros
    rw [(takes key member budget found).addReserved]
    rcases room with positive | takes
    · have below := within key budget found
      unfold Budget.Within at below
      omega
    · have fits := takes key member
      unfold takesBack at fits
      rw [found] at fits
      exact of_decide_eq_true fits

theorem release_store {row : Reservation} {now : Int} {reservationId : String}
    (found : store.reservations.find? (tenantId, reservationId) = some row)
    (isOpen : row.status = .reserved) :
    (release backend store now tenantId reservationId).2 =
      if Accepted backend (store.released backend row now) then
        store.released backend row now
      else store := by
  unfold release
  refine @transaction_constrained _ _ _ true (store.released backend row now) _
    ?_
  simp only [found, isOpen]

theorem release_closed {now : Int} {tenantId reservationId : String}
    (closed : ∀ row,
      store.reservations.find? (tenantId, reservationId) = some row →
        row.status ≠ .reserved) :
    (release backend store now tenantId reservationId).2 = store ∧
      Roomy store (.release now tenantId reservationId) := by
  unfold release transaction
  simp only [Roomy, roomyCall]
  cases found : store.reservations.find? (tenantId, reservationId) with
  | none => exact ⟨rfl, rfl⟩
  | some row =>
      have done := closed row found
      cases status : row.status with
      | reserved => exact absurd status done
      | settled | released => simp [status]

theorem spendStep_setCeiling (tenantId kind budgetId : String)
    (amount : Amount) :
    spendStep backend store (.setCeiling tenantId kind budgetId amount) =
      (setCeiling backend store tenantId kind budgetId amount).2 :=
  outcome_store _

theorem spendStep_release (now : Int) (tenantId reservationId : String) :
    spendStep backend store (.release now tenantId reservationId) =
      (release backend store now tenantId reservationId).2 :=
  outcome_store _

theorem takes_release {row : Reservation} {now : Int} {reservationId : String}
    (fits : Fitting backend store (.release now tenantId reservationId))
    (found : store.reservations.find? (tenantId, reservationId) = some row)
    (isOpen : row.status = .reserved) :
    ∀ key ∈ row.budgets, ∀ budget ∈ store.budgets.find? key,
      budget.Takes backend (-row.reservedMicros) 0 :=
  fits { keys := row.budgets, reserved := -row.reservedMicros }
    (by rw [Option.mem_def, additions, openRow_eq found isOpen]; rfl)

theorem within_step_iff (within : store.Within) {action : SpendAction}
    (fair : Fair store action) (fits : Fitting .sqlite store action) :
    (spendStep .sqlite store action).Within ↔ Roomy store action := by
  cases action with
  | setCeiling _ _ _ amount =>
      rw [spendStep_setCeiling]
      cases parsed : storable? amount with
      | none =>
          rw [setCeiling_refused parsed]
          exact iff_of_true within (by simp [Roomy, roomyCall, parsed])
      | some =>
          rw [setCeiling_store parsed, if_pos (accepted_sqlite _)]
          exact within_withCeiling_iff within parsed fair
  | reserve now tenantId reservationId channel estimate campaignId =>
      refine iff_of_true ?_ rfl
      simp only [spendStep, perform, outcome_store]
      exact within_reserve within fits
  | settle =>
      refine iff_of_true ?_ rfl
      simp only [spendStep, perform, outcome_store]
      exact within_settle within fair fits
  | release now tenantId reservationId =>
      rw [spendStep_release]
      by_cases pending : ∃ row, store.reservations.find?
          (tenantId, reservationId) = some row ∧ row.status = .reserved
      · obtain ⟨_, found, isOpen⟩ := pending
        rw [release_store found isOpen, if_pos (accepted_sqlite _),
          within_released_iff within (takes_release fits found isOpen)]
        simp [Roomy, roomyCall, found, isOpen]
      · push Not at pending
        obtain ⟨same, roomy⟩ := @release_closed store .sqlite now _ _ pending
        rw [same]
        exact iff_of_true within roomy

theorem nonneg_of_accepted (accepted : Accepted .postgres store)
    {row : Reservation} (member : row ∈ store.reservations) :
    0 ≤ row.reservedMicros := by
  have checks := (Bool.and_eq_true_iff.mp accepted).2
  exact of_decide_eq_true (List.all_eq_true.mp checks row member)

theorem within_step_postgres (within : store.Within)
    (accepted : Accepted .postgres store) {action : SpendAction}
    (fair : Fair store action) :
    (spendStep .postgres store action).Within := by
  have fits : Fitting .postgres store action := fun _ _ _ _ _ _ => .inl rfl
  cases action with
  | setCeiling tenantId kind budgetId amount =>
      rw [spendStep_setCeiling]
      cases parsed : storable? amount with
      | none =>
          rw [setCeiling_refused parsed]
          exact within
      | some ceiling =>
          rw [setCeiling_store parsed]
          split
          · rename_i holds
            exact (within_withCeiling_iff within parsed fair).mpr
              (roomy_of_accepted parsed holds)
          · exact within
  | reserve now tenantId reservationId channel estimate campaignId =>
      simp only [spendStep, perform, outcome_store]
      exact within_reserve within fits
  | settle =>
      simp only [spendStep, perform, outcome_store]
      exact within_settle within fair fits
  | release now tenantId reservationId =>
      rw [spendStep_release]
      by_cases pending : ∃ row, store.reservations.find?
          (tenantId, reservationId) = some row ∧ row.status = .reserved
      · obtain ⟨row, found, isOpen⟩ := pending
        have member := (Table.find?_eq_some_iff.mp found).1
        rw [release_store found isOpen]
        split
        · refine (within_released_iff within
            (takes_release fits found isOpen) now).mpr ?_
          simp [nonneg_of_accepted accepted member]
        · exact within
      · push Not at pending
        rw [(@release_closed store .postgres now _ _ pending).1]
        exact within

end SpendStore

/-- Where no call lowers a ceiling or settles more than was reserved, what is
reserved and settled stays below the ceilings: in PostgreSQL always, and in
SQLite, as long as the sums stay within 64 bits, throughout a run exactly when
no ceiling starts out negative and every reservation of a negative amount is
released into budgets with room for it. -/
theorem ceilings_kept_iff (backend : Backend) (actions : List SpendAction)
    (fair : Along (spendStep backend) Fair SpendStore.empty actions)
    (fits : backend = .postgres ∨ Along (spendStep backend) (Fitting backend)
      SpendStore.empty actions) :
    (∀ earlier later, actions = earlier ++ later →
      (spendRun backend earlier).Within) ↔
        backend = .postgres ∨
          Along (spendStep backend) Roomy SpendStore.empty actions := by
  cases backend with
  | sqlite =>
      have fits := fits.resolve_left (fun other => by cases other)
      have exactly := Along.forall_prefix_iff_of_along (fun _ => True)
        SpendStore.Within (fun _ _ _ => trivial)
        (fun store action _ holds within =>
          SpendStore.within_step_iff within holds.1 holds.2) trivial
        SpendStore.Within.empty ((Along.and_iff ..).mpr ⟨fair, fits⟩)
      refine exactly.trans ⟨.inr, ?_⟩
      rintro (other | along)
      · cases other
      · exact along
  | postgres =>
      refine iff_of_true ?_ (.inl rfl)
      intro earlier later split
      rw [split, Along.append_iff] at fair
      refine (Along.invariant (fun store => store.Within ∧
        Accepted .postgres store) ?_ ?_ fair.1).1
      · rintro store action ⟨within, accepted⟩ here
        exact ⟨SpendStore.within_step_postgres within accepted here,
          (spendStep_change .postgres store action).2 accepted⟩
      · exact ⟨SpendStore.Within.empty, by decide⟩

def belowZero : List SpendAction :=
  [.setCeiling "tenant" "account" "tenant" (.finite 10 0),
    .reserve 1 "tenant" "credit" "sms" (.finite (-5) 0) none,
    .reserve 2 "tenant" "effect" "sms" (.finite 15 0) none,
    .release 3 "tenant" "credit"]

theorem ceilings_kept_iff_belowZero :
    (∀ earlier later, belowZero = earlier ++ later →
      (spendRun .sqlite earlier).Within) ↔
        Backend.sqlite = .postgres ∨
          Along (spendStep .sqlite) Roomy SpendStore.empty belowZero :=
  ceilings_kept_iff .sqlite belowZero (by decide +kernel)
    (.inr (by decide +kernel))

/-- What was reserved for minus five is released, and fifteen stay reserved. -/
theorem ceiling_exceeded :
    ¬ ∀ (backend : Backend) (actions : List SpendAction),
      Along (spendStep backend) Fair SpendStore.empty actions →
        (spendRun backend actions).Within := by
  intro kept
  have within := kept .sqlite belowZero (by decide +kernel)
  have row : (spendRun .sqlite belowZero).budgets.find?
      ("tenant", "account", "tenant") = some {
        tenantId := "tenant", budgetKind := "account", budgetId := "tenant"
        ceilingMicros := 10000000, reservedMicros := 15000000 } := by
    decide +kernel
  have below : (15000000 + 0 : Int) ≤ 10000000 := within _ _ row
  exact absurd below (by decide)

end AcpTask.Spend
