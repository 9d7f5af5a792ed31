import AcpTask.Library.Run
import AcpTask.Library.Table
import AcpTask.Library.Transaction

namespace AcpTask.Spend

open Library

/-! Amounts.  A caller's amount goes through `Decimal(str(amount))`, is scaled
to micros under the default context of 28 significant digits and is quantized
to an integer; ties go to the even neighbour. -/

inductive Amount where
  | finite (coefficient exponent : Int)
  | infinite
  | nan
  | unparsable

/-- `outOfRange` is of a number that no 64 bits hold. -/
inductive SpendError where
  | invalidOperation
  | valueError (message : String)
  | lookupError (message : String)
  | spendCeilingExceeded (reason : String)
  | checkViolation
  | outOfRange

/-- The multiple of the unit that is nearest, in units; ties go to the even. -/
def roundHalfEven (coefficient : Int) (unit : Nat) : Int :=
  let quotient := coefficient.natAbs / unit
  let remainder := coefficient.natAbs % unit
  let rounded :=
    if 2 * remainder < unit then quotient
    else if unit < 2 * remainder then quotient + 1
    else if quotient % 2 = 0 then quotient else quotient + 1
  if coefficient < 0 then -(rounded : Int) else rounded

def digitCount (coefficient : Int) : Nat :=
  (Nat.toDigits 10 coefficient.natAbs).length

def contextPrecision : Nat := 28

/-- The result of an operation rounded to the context's precision, as a
coefficient and an exponent. -/
def roundToContext (coefficient exponent : Int) : Int × Int :=
  let excess := digitCount coefficient - contextPrecision
  (roundHalfEven coefficient (10 ^ excess), exponent + excess)

def micros : Amount → Except SpendError Int
  | .unparsable => .error .invalidOperation
  | .infinite => .error .invalidOperation
  | .nan => .error (.valueError "cannot convert NaN to integer")
  | .finite coefficient exponent =>
      let scaled := roundToContext (coefficient * 1000000) exponent
      let quantized :=
        if 0 ≤ scaled.2 then scaled.1 * 10 ^ scaled.2.toNat
        else roundHalfEven scaled.1 (10 ^ (-scaled.2).toNat)
      if contextPrecision < digitCount quantized then .error .invalidOperation
      else .ok quantized

inductive Backend where
  | sqlite
  | postgres
  deriving DecidableEq

def fits64 (value : Int) : Bool := decide (-2 ^ 63 ≤ value ∧ value < 2 ^ 63)

/-- `float(value)`. -/
def double (value : Int) : Int :=
  let unit := 2 ^ (value.natAbs.log2 - 52)
  roundHalfEven value unit * unit

/-- `column + ?`, and whether the sum is stored as a REAL.  A sum of integers
that leaves 64 bits becomes one in SQLite, and stays one until it fits again; in
PostgreSQL it is refused with its row. -/
def plus (backend : Backend) (real : Bool) (column amount : Int) : Int × Bool :=
  match backend with
  | .postgres => (column + amount, false)
  | .sqlite =>
      if !real && fits64 (column + amount) then (column + amount, false)
      else
        let sum := double (double column + double amount)
        (sum, !decide (-2 ^ 63 < sum ∧ sum < 2 ^ 63 - 1))

/-- A row of `spend_budgets`, and which of its sums SQLite holds as a REAL. -/
structure Budget where
  tenantId : String
  budgetKind : String
  budgetId : String
  ceilingMicros : Int
  reservedMicros : Int := 0
  settledMicros : Int := 0
  reservedReal : Bool := false
  settledReal : Bool := false
  deriving DecidableEq

namespace Budget

variable (backend : Backend) (budget : Budget)

def addReserved (amount : Int) : Budget :=
  let sum := plus backend budget.reservedReal budget.reservedMicros amount
  { budget with reservedMicros := sum.1, reservedReal := sum.2 }

def addSettled (amount : Int) : Budget :=
  let sum := plus backend budget.settledReal budget.settledMicros amount
  { budget with settledMicros := sum.1, settledReal := sum.2 }

/-- What Python makes of the columns, a REAL being a float there. -/
def available : Int :=
  if backend = .sqlite ∧ budget.reservedReal then
    double (double (double budget.ceilingMicros -
      double budget.reservedMicros) - double budget.settledMicros)
  else if backend = .sqlite ∧ budget.settledReal then
    double (double (budget.ceilingMicros - budget.reservedMicros) -
      double budget.settledMicros)
  else budget.ceilingMicros - budget.reservedMicros - budget.settledMicros

/-- The columns hold integers, and the sums with the amounts fit them. -/
def takes (reserved settled : Int) : Bool :=
  !budget.reservedReal && fits64 (budget.reservedMicros + reserved) &&
    !budget.settledReal && fits64 (budget.settledMicros + settled)

def Takes (reserved settled : Int) : Prop :=
  backend = .postgres ∨ budget.takes reserved settled = true

end Budget

theorem plus_fst {backend : Backend} {real : Bool} {column amount : Int}
    (fits : backend = .postgres ∨
      real = false ∧ fits64 (column + amount) = true) :
    (plus backend real column amount).1 = column + amount := by
  cases backend with
  | postgres => rfl
  | sqlite =>
      obtain other | ⟨integer, fits⟩ := fits
      · cases other
      · simp [plus, integer, fits]

namespace Budget

variable {backend : Backend} {budget : Budget} {reserved settled : Int}

theorem takes_iff : budget.takes reserved settled = true ↔
    (budget.reservedReal = false ∧
      fits64 (budget.reservedMicros + reserved) = true) ∧
    budget.settledReal = false ∧
      fits64 (budget.settledMicros + settled) = true := by
  simp [takes, and_assoc]

theorem Takes.addReserved (takes : budget.Takes backend reserved settled) :
    (budget.addReserved backend reserved).reservedMicros =
      budget.reservedMicros + reserved :=
  plus_fst (takes.imp_right fun takes => (takes_iff.mp takes).1)

theorem Takes.addSettled (takes : budget.Takes backend reserved settled)
    (amount : Int) :
    ((budget.addReserved backend amount).addSettled
      backend settled).settledMicros = budget.settledMicros + settled :=
  @plus_fst backend budget.settledReal budget.settledMicros _
    (takes.imp_right fun takes => (takes_iff.mp takes).2)

theorem Takes.available (takes : budget.Takes backend reserved settled) :
    budget.available backend =
      budget.ceilingMicros - budget.reservedMicros - budget.settledMicros := by
  unfold Budget.available
  rcases takes with rfl | takes
  · simp
  · obtain ⟨⟨reserved, _⟩, settled, _⟩ := takes_iff.mp takes
    simp [reserved, settled]

end Budget

abbrev Budget.key (budget : Budget) : String × String × String :=
  (budget.tenantId, budget.budgetKind, budget.budgetId)

theorem Budget.addReserved_key (backend : Backend) (budget : Budget)
    (amount : Int) : (budget.addReserved backend amount).key = budget.key := rfl

theorem Budget.addSettled_key (backend : Backend) (budget : Budget)
    (reserved settled : Int) :
    ((budget.addReserved backend reserved).addSettled backend settled).key =
      budget.key := rfl

instance Budget.lawfulKey : LawfulBEq (String × String × String) := inferInstance

inductive ReservationStatus where
  | reserved
  | settled
  | released
  deriving DecidableEq

structure Reservation where
  tenantId : String
  reservationId : String
  campaignId : Option String
  channel : String
  reservedMicros : Int
  settledMicros : Option Int := none
  status : ReservationStatus
  createdAt : Int
  updatedAt : Int

abbrev Reservation.key (reservation : Reservation) : String × String :=
  (reservation.tenantId, reservation.reservationId)

@[ext] structure SpendStore where
  budgets : Table Budget Budget.key
  reservations : Table Reservation Reservation.key

def SpendStore.empty : SpendStore := ⟨Table.empty, Table.empty⟩

/-- The `check` clauses of the PostgreSQL tables, with the range of their sums;
SQLite declares none on these columns. -/
def budgetCheck : Backend → Budget → Bool
  | .sqlite, _ => true
  | .postgres, budget =>
      (budget.budgetKind = "account" || budget.budgetKind = "campaign") &&
      decide (0 ≤ budget.ceilingMicros) && decide (0 ≤ budget.reservedMicros) &&
      decide (0 ≤ budget.settledMicros) && fits64 budget.reservedMicros &&
      fits64 budget.settledMicros

def reservationCheck : Backend → Reservation → Bool
  | .sqlite, _ => true
  | .postgres, reservation => decide (0 ≤ reservation.reservedMicros)

/-- A statement takes only what fits its column. -/
def bound (amount : Int) : Except SpendError Unit :=
  if fits64 amount then .ok () else .error .outOfRange

def constrained (backend : Backend) (store : SpendStore) :
    Except SpendError SpendStore :=
  if store.budgets.rows.all (budgetCheck backend) &&
      store.reservations.rows.all (reservationCheck backend) then .ok store
  else .error .checkViolation

/-- The budgets one reservation draws on: the account, and its campaign when it
names one. -/
def boundBudgets (tenantId : String) (campaignId : Option String) :
    List (String × String × String) :=
  match campaignId with
  | some campaign =>
      if campaign = "" then [(tenantId, "account", tenantId)]
      else [(tenantId, "account", tenantId), (tenantId, "campaign", campaign)]
  | none => [(tenantId, "account", tenantId)]

def Reservation.budgets (reservation : Reservation) :
    List (String × String × String) :=
  boundBudgets reservation.tenantId reservation.campaignId

def setCeiling (backend : Backend) (store : SpendStore)
    (tenantId kind budgetId : String) (amount : Amount) :
    Except SpendError Unit × SpendStore :=
  match micros amount with
  | .error error => (.error error, store)
  | .ok ceiling => transaction store fun store => do
      bound ceiling
      let row : Budget :=
        { tenantId, budgetKind := kind, budgetId, ceilingMicros := ceiling }
      let budgets :=
        match store.budgets.insert? row with
        | some inserted => inserted
        | none =>
            store.budgets.updateWhere
              (fun budget => decide (budget.key = row.key))
              (fun budget => { budget with ceilingMicros := ceiling })
              (fun _ => rfl)
      let updated ← constrained backend { store with budgets }
      pure ((), updated)

def budgetRow (store : SpendStore) (key : String × String × String) :
    Except SpendError Budget :=
  match store.budgets.find? key with
  | some budget => .ok budget
  | none => .error (.spendCeilingExceeded (key.2.1 ++ "_budget_unavailable"))

def checkCeiling (backend : Backend) (amount : Int) (budget : Budget) :
    Except SpendError Unit :=
  if amount > budget.available backend then
    .error (.spendCeilingExceeded (budget.budgetKind ++ "_ceiling_exhausted"))
  else .ok ()

/-- Every bound budget exists and has room.  SQLite tests each budget's row and
room in turn; PostgreSQL first locks all rows and then tests the room. -/
def checkBudgets (backend : Backend) (store : SpendStore) (amount : Int)
    (keys : List (String × String × String)) : Except SpendError Unit :=
  match backend with
  | .sqlite => keys.forM fun key => do
      let budget ← budgetRow store key
      checkCeiling backend amount budget
  | .postgres => do
      let locked ← keys.mapM (budgetRow store)
      locked.forM (checkCeiling backend amount)

def insertReservation (store : SpendStore) (row : Reservation) :
    Except SpendError SpendStore :=
  match store.reservations.insert? row with
  | some reservations => .ok { store with reservations }
  | none => .error .checkViolation

def reserve (backend : Backend) (store : SpendStore) (now : Int)
    (tenantId reservationId channel : String) (estimate : Amount)
    (campaignId : Option String) :
    Except SpendError Reservation × SpendStore :=
  match micros estimate with
  | .error error => (.error error, store)
  | .ok amount => transaction store fun store =>
      match store.reservations.find? (tenantId, reservationId) with
      | some prior =>
          if prior.reservedMicros ≠ amount then
            .error (.valueError "reservation id is bound to another estimate")
          else .ok (prior, store)
      | none => do
          let keys := boundBudgets tenantId campaignId
          checkBudgets backend store amount keys
          bound amount
          let debited := store.budgets.updateKeys keys
            (fun budget => budget.addReserved backend amount)
            (fun budget => budget.addReserved_key backend amount)
          let row : Reservation :=
            { tenantId, reservationId, campaignId, channel,
              reservedMicros := amount, status := .reserved,
              createdAt := now, updatedAt := now }
          let inserted ← insertReservation { store with budgets := debited } row
          let committed ← constrained backend inserted
          pure (row, committed)

def closeReservation (store : SpendStore) (row closed : Reservation)
    (credit : Budget → Budget)
    (keepsBudget : ∀ budget, (credit budget).key = budget.key) : SpendStore where
  budgets := store.budgets.updateKeys row.budgets credit keepsBudget
  reservations := store.reservations.updateWhere
    (fun other => decide (other.key = row.key))
    (fun other => { other with
      status := closed.status
      settledMicros := closed.settledMicros
      updatedAt := closed.updatedAt })
    (fun _ => rfl)

def settle (backend : Backend) (store : SpendStore) (now : Int)
    (tenantId reservationId : String) (actual : Amount) :
    Except SpendError Reservation × SpendStore :=
  match micros actual with
  | .error error => (.error error, store)
  | .ok actualMicros => transaction store fun store =>
      match store.reservations.find? (tenantId, reservationId) with
      | none => .error (.lookupError "reservation not found")
      | some row =>
          match row.status with
          | .settled => .ok (row, store)
          | .released =>
              .error (.valueError "released reservation cannot settle")
          | .reserved => do
              bound actualMicros
              let closed : Reservation :=
                { row with status := .settled
                           settledMicros := some actualMicros
                           updatedAt := now }
              let committed ← constrained backend
                (closeReservation store row closed
                  (fun budget =>
                    (budget.addReserved backend (-row.reservedMicros)).addSettled
                      backend actualMicros)
                  (fun budget => budget.addSettled_key backend ..))
              pure (closed, committed)

def SpendStore.released (backend : Backend) (store : SpendStore)
    (row : Reservation) (now : Int) : SpendStore :=
  closeReservation store row { row with status := .released, updatedAt := now }
    (fun budget => budget.addReserved backend (-row.reservedMicros))
    (fun budget => budget.addReserved_key backend _)

def release (backend : Backend) (store : SpendStore) (now : Int)
    (tenantId reservationId : String) :
    Except SpendError Bool × SpendStore :=
  transaction store fun store =>
    match store.reservations.find? (tenantId, reservationId) with
    | none => .ok (false, store)
    | some row =>
        match row.status with
        | .settled => .ok (false, store)
        | .released => .ok (false, store)
        | .reserved => do
            let committed ← constrained backend (store.released backend row now)
            pure (true, committed)

inductive SpendAction where
  | setCeiling (tenantId kind budgetId : String) (amount : Amount)
  | reserve (now : Int) (tenantId reservationId channel : String)
      (estimate : Amount) (campaignId : Option String)
  | settle (now : Int) (tenantId reservationId : String) (actual : Amount)
  | release (now : Int) (tenantId reservationId : String)

def perform (backend : Backend) (store : SpendStore) :
    SpendAction → Option SpendError × SpendStore
  | .setCeiling tenantId kind budgetId amount =>
      outcome (setCeiling backend store tenantId kind budgetId amount)
  | .reserve now tenantId reservationId channel estimate campaignId =>
      outcome (reserve backend store now tenantId reservationId channel
        estimate campaignId)
  | .settle now tenantId reservationId actual =>
      outcome (settle backend store now tenantId reservationId actual)
  | .release now tenantId reservationId =>
      outcome (release backend store now tenantId reservationId)
where
  outcome {Value : Type} (result : Except SpendError Value × SpendStore) :
      Option SpendError × SpendStore :=
    match result.1 with
    | .ok _ => (none, result.2)
    | .error error => (some error, result.2)

def spendStep (backend : Backend) (store : SpendStore) (action : SpendAction) :
    SpendStore :=
  (perform backend store action).2

def spendRun (backend : Backend) (actions : List SpendAction) : SpendStore :=
  run (spendStep backend) SpendStore.empty actions

end AcpTask.Spend
