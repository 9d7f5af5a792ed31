import AcpTask.Spend.Closing

namespace AcpTask.Spend

/-! Several ledgers on one database.  Each of them runs one call at a time,
under its own lock or on its own connection; their statements interleave. -/

inductive LedgerCall where
  | settle (tenantId reservationId : String) (actual : Amount)
  | release (tenantId reservationId : String)

inductive LedgerAction where
  | call (process : Nat) (call : LedgerCall)
  | advance (process : Nat) (now : Int)
  | crash (process : Nat)

inductive FilePhase where
  | idle
  | readRelease (key : String × String)
  | beginRelease (row : Reservation)
  | beginSettle (key : String × String) (actualMicros : Int)
  | readSettle (key : String × String) (actualMicros : Int)
  | update (closing : Closing) (budgets : List (String × String × String))
  | commit (closing : Closing)
  | finish

/-- A file with the rows that are committed, and the connection that holds its
write lock with the rows as its transaction sees them. -/
structure FileLedger where
  rows : SpendRows
  writer : Option (Nat × SpendRows)
  closings : List Closing
  phases : Nat → FilePhase

namespace FileLedger

def start (store : SpendStore) : FileLedger where
  rows := store.spendRows
  writer := none
  closings := []
  phases := fun _ => .idle

def move (ledger : FileLedger) (process : Nat) (phase : FilePhase) :
    FileLedger :=
  { ledger with phases := Function.update ledger.phases process phase }

/-- `BEGIN IMMEDIATE` waits for the write lock. -/
def begin (ledger : FileLedger) (process : Nat) (phase : FilePhase) :
    FileLedger :=
  if ledger.writer.isNone then
    { ledger.move process phase with
      writer := some (process, ledger.rows) }
  else ledger

def copy? (ledger : FileLedger) (process : Nat) : Option SpendRows :=
  (ledger.writer.filter fun writer => decide (writer.1 = process)).map Prod.snd

def execute (ledger : FileLedger) (process : Nat)
    (statement : SpendRows → FileLedger) : FileLedger :=
  match ledger.copy? process with
  | some copy => statement copy
  | none => ledger

/-- The transaction of a process goes on, its rows now `copy`. -/
def proceed (ledger : FileLedger) (process : Nat) (copy : SpendRows)
    (phase : FilePhase) : FileLedger :=
  { ledger.move process phase with writer := some (process, copy) }

end FileLedger

def closing? (row : Option Reservation) (actualMicros : Option Int) :
    Option Closing :=
  (row.filter fun row => decide (row.status = .reserved)).map fun row =>
    { row, actualMicros }

def fileAdvance (ledger : FileLedger) (process : Nat) (now : Int) :
    FileLedger :=
  match ledger.phases process with
  | .idle => ledger
  | .readRelease key =>
      match closing? (ledger.rows.reservations key) none with
      | some closing => ledger.move process (.beginRelease closing.row)
      | none => ledger.move process .idle
  | .beginRelease row =>
      ledger.begin process (.update { row, actualMicros := none } row.budgets)
  | .beginSettle key actualMicros =>
      ledger.begin process (.readSettle key actualMicros)
  | .readSettle key actualMicros => ledger.execute process fun copy =>
      match closing? (copy.reservations key) (some actualMicros) with
      | some closing => ledger.proceed process copy
          -- the first update does not take an amount of more than 64 bits
          (if fits64 actualMicros then .update closing closing.row.budgets
            else .finish)
      | none => ledger.proceed process copy .finish
  | .update closing (budget :: rest) => ledger.execute process fun copy =>
      ledger.proceed process (copy.credit .sqlite closing budget)
        (.update closing rest)
  | .update closing [] => ledger.execute process fun copy =>
      ledger.proceed process (copy.close closing now) (.commit closing)
  | .commit closing => ledger.execute process fun copy =>
      { ledger.move process .idle with
        rows := copy
        writer := none
        closings := ledger.closings ++ [closing] }
  | .finish => ledger.execute process fun _ =>
      { ledger.move process .idle with writer := none }

def fileStep (ledger : FileLedger) : LedgerAction → FileLedger
  | .call process call =>
      match ledger.phases process, call with
      | .idle, .release tenantId reservationId =>
          ledger.move process (.readRelease (tenantId, reservationId))
      | .idle, .settle tenantId reservationId actual =>
          match micros actual with
          | .ok actualMicros => ledger.move process
              (.beginSettle (tenantId, reservationId) actualMicros)
          | .error _ => ledger
      | _, _ => ledger
  | .advance process now => fileAdvance ledger process now
  | .crash process =>
      { ledger.move process .idle with
        writer := ledger.writer.filter fun writer =>
          decide (writer.1 ≠ process) }

/-- A settlement was read under the write lock, so that it is still what is
committed. -/
def Current (rows : SpendRows) (closing : Closing) : Prop :=
  closing.actualMicros ≠ none →
    rows.reservations closing.row.key = some closing.row

def Written (rows copy : SpendRows) : FilePhase → Prop
  | .readSettle _ _ => copy = rows
  | .finish => copy = rows
  | .update closing keys => keys.foldl (SpendRows.credit .sqlite closing) copy =
      rows.credited .sqlite closing ∧ Current rows closing
  | .commit closing => Current rows closing ∧
      ∃ now, copy = (rows.credited .sqlite closing).close closing now
  | .idle => False
  | .readRelease _ => False
  | .beginRelease _ => False
  | .beginSettle _ _ => False

def FilePhase.closing? : FilePhase → Option Closing
  | .beginRelease row => some { row, actualMicros := none }
  | .update closing _ => some closing
  | .commit closing => some closing
  | .idle => none
  | .readRelease _ => none
  | .beginSettle _ _ => none
  | .readSettle _ _ => none
  | .finish => none

def FilePhase.writes : FilePhase → Bool
  | .readSettle _ _ => true
  | .update _ _ => true
  | .commit _ => true
  | .finish => true
  | .idle => false
  | .readRelease _ => false
  | .beginRelease _ => false
  | .beginSettle _ _ => false

def Closing.Read (initial : SpendRows) (closing : Closing) : Prop :=
  closing.row.status = .reserved ∧
    initial.reservations closing.row.key = some closing.row

structure FileLedger.Safe (initial : SpendRows) (ledger : FileLedger) :
    Prop where
  pristine : Pristine initial ledger.rows
  read : ∀ process closing, (ledger.phases process).closing? = some closing →
    closing.Read initial
  written : ∀ process copy, ledger.writer = some (process, copy) →
    Written ledger.rows copy (ledger.phases process)
  holds : ∀ process, (ledger.phases process).writes = true →
    ∃ copy, ledger.writer = some (process, copy)

theorem closing?_eq_some_iff {row : Option Reservation}
    {actualMicros : Option Int} {closing : Closing} :
    closing? row actualMicros = some closing ↔
      row = some closing.row ∧ closing.row.status = .reserved ∧
        closing.actualMicros = actualMicros := by
  simp only [closing?, Option.map_eq_some_iff, Option.filter_eq_some_iff,
    decide_eq_true_iff]
  constructor
  · rintro ⟨_, ⟨found, reserved⟩, rfl⟩
    exact ⟨found, reserved, rfl⟩
  · rintro ⟨found, reserved, rfl⟩
    exact ⟨_, ⟨found, reserved⟩, rfl⟩

theorem Pristine.read {initial rows : SpendRows}
    (pristine : Pristine initial rows) {key : String × String}
    {actualMicros : Option Int} {closing : Closing}
    (read : closing? (rows.reservations key) actualMicros = some closing) :
    closing.row.key = key ∧ closing.Read initial := by
  obtain ⟨found, reserved, -⟩ := closing?_eq_some_iff.mp read
  obtain ⟨sameKey, first⟩ := pristine key closing.row found
  exact ⟨sameKey, reserved, by rw [sameKey]; exact first reserved⟩

namespace FileLedger

theorem copy?_eq_some_iff {ledger : FileLedger} {process : Nat}
    {copy : SpendRows} :
    ledger.copy? process = some copy ↔
      ledger.writer = some (process, copy) := by
  simp only [copy?, Option.map_eq_some_iff, Option.filter_eq_some_iff,
    decide_eq_true_iff]
  constructor
  · rintro ⟨⟨_, _⟩, ⟨found, rfl⟩, rfl⟩
    exact found
  · intro found
    exact ⟨(process, copy), ⟨found, rfl⟩, rfl⟩

theorem execute_induction {motive : FileLedger → Prop} {ledger : FileLedger}
    {process : Nat} {statement : SpendRows → FileLedger}
    (before : motive ledger)
    (executed : ∀ copy, ledger.writer = some (process, copy) →
      motive (statement copy)) :
    motive (ledger.execute process statement) := by
  unfold execute
  split
  · rename_i copy found
    exact executed copy (copy?_eq_some_iff.mp found)
  · exact before

namespace Safe

variable {initial : SpendRows} {ledger : FileLedger}

variable {process : Nat} {phase : FilePhase}

section Safe

variable (safe : Safe initial ledger)

include safe

theorem read_update
    (read : ∀ closing, phase.closing? = some closing → closing.Read initial) :
    ∀ other closing,
      (Function.update ledger.phases process phase other).closing? =
        some closing → closing.Read initial :=
  (Function.forall_update_iff _ fun _ (phase : FilePhase) => ∀ closing,
    phase.closing? = some closing → closing.Read initial).mpr
      ⟨read, fun other _ => safe.read other⟩

theorem alone {other : Nat}
    (free : ∀ copy, ledger.writer = some (other, copy) → other = process)
    (writes : (ledger.phases other).writes = true) : other = process := by
  obtain ⟨copy, held⟩ := safe.holds other writes
  exact free copy held

theorem move (outside : (ledger.phases process).writes = false)
    (stays : phase.writes = false)
    (read : ∀ closing, phase.closing? = some closing → closing.Read initial) :
    Safe initial (ledger.move process phase) where
  pristine := safe.pristine
  read := safe.read_update read
  written other copy found := by
    have written := safe.written other copy found
    have apart : other ≠ process := by
      rintro rfl
      cases phases : ledger.phases other <;>
        simp [phases, FilePhase.writes, Written] at outside written
    change Written ledger.rows copy
      (Function.update ledger.phases process phase other)
    rw [Function.update_of_ne apart]
    exact written
  holds other writes := by
    change (Function.update ledger.phases process phase other).writes = true
      at writes
    by_cases same : other = process
    · subst same
      rw [Function.update_self, stays] at writes
      cases writes
    · rw [Function.update_of_ne same] at writes
      exact safe.holds other writes

theorem proceed {copy : SpendRows}
    (free : ∀ other copy, ledger.writer = some (other, copy) → other = process)
    (read : ∀ closing, phase.closing? = some closing → closing.Read initial)
    (written : Written ledger.rows copy phase) :
    Safe initial (ledger.proceed process copy phase) where
  pristine := safe.pristine
  read := safe.read_update read
  written other found same := by
    obtain ⟨rfl, rfl⟩ := Prod.mk.inj (Option.some.inj same)
    change Written ledger.rows copy
      (Function.update ledger.phases process phase process)
    rw [Function.update_self]
    exact written
  holds other writes := by
    change (Function.update ledger.phases process phase other).writes = true
      at writes
    by_cases same : other = process
    · subst same
      exact ⟨copy, rfl⟩
    · rw [Function.update_of_ne same] at writes
      exact absurd (safe.alone (free other) writes) same

theorem begin
    (read : ∀ closing, phase.closing? = some closing → closing.Read initial)
    (written : Written ledger.rows ledger.rows phase) :
    Safe initial (ledger.begin process phase) := by
  unfold FileLedger.begin
  split
  · rename_i free
    refine safe.proceed (fun other copy held => ?_) read written
    rw [held] at free
    cases free
  · exact safe

theorem finish {rows : SpendRows} {closings : List Closing} {copy : SpendRows}
    (held : ledger.writer = some (process, copy))
    (pristine : Pristine initial rows) :
    Safe initial { ledger.move process .idle with
      rows, writer := none, closings } where
  pristine := pristine
  read := safe.read_update fun _ found => by cases found
  written _ _ found := by cases found
  holds other writes := by
    change (Function.update ledger.phases process .idle other).writes = true
      at writes
    by_cases same : other = process
    · subst same
      rw [Function.update_self] at writes
      cases writes
    · rw [Function.update_of_ne same] at writes
      obtain ⟨_, found⟩ := safe.holds other writes
      rw [held] at found
      exact absurd (Prod.mk.inj (Option.some.inj found)).1.symm same

theorem crash (process : Nat) :
    Safe initial (fileStep ledger (.crash process)) where
  pristine := safe.pristine
  read := safe.read_update fun _ found => by cases found
  written other copy found := by
    obtain ⟨held, apart⟩ := Option.filter_eq_some_iff.mp found
    have apart : other ≠ process := of_decide_eq_true apart
    change Written ledger.rows copy
      (Function.update ledger.phases process .idle other)
    rw [Function.update_of_ne apart]
    exact safe.written other copy held
  holds other writes := by
    change (Function.update ledger.phases process .idle other).writes = true
      at writes
    by_cases same : other = process
    · subst same
      rw [Function.update_self] at writes
      cases writes
    · rw [Function.update_of_ne same] at writes
      obtain ⟨copy, held⟩ := safe.holds other writes
      exact ⟨copy, Option.filter_eq_some_iff.mpr ⟨held, decide_eq_true same⟩⟩

theorem advance (process : Nat) (now : Int) :
    Safe initial (fileAdvance ledger process now) := by
  have free {copy : SpendRows}
      (held : ledger.writer = some (process, copy)) (other : Nat)
      (found : SpendRows) (same : ledger.writer = some (other, found)) :
      other = process := by
    rw [held] at same
    exact (Prod.mk.inj (Option.some.inj same)).1.symm
  cases phase : ledger.phases process with
  | idle =>
      simp only [fileAdvance, phase]
      exact safe
  | readRelease key =>
      simp only [fileAdvance, phase]
      split
      · rename_i closing read
        refine safe.move (by rw [phase]; rfl) rfl ?_
        rintro _ ⟨⟩
        exact (safe.pristine.read read).2
      · exact safe.move (by rw [phase]; rfl) rfl fun _ found => by cases found
  | beginRelease =>
      simp only [fileAdvance, phase]
      have read := safe.read process _ (by rw [phase]; rfl)
      refine safe.begin ?_ ⟨rfl, fun settles => absurd rfl settles⟩
      rintro _ ⟨⟩
      exact read
  | beginSettle =>
      simp only [fileAdvance, phase]
      exact safe.begin (fun _ found => by cases found) rfl
  | readSettle key actualMicros =>
      simp only [fileAdvance, phase]
      refine execute_induction safe fun copy held => ?_
      have same := safe.written process copy held
      rw [phase] at same
      split
      · rename_i closing read
        rw [show copy = ledger.rows from same] at read ⊢
        split
        · refine safe.proceed (free held) ?_ ⟨rfl, fun _ => ?_⟩
          · rintro _ ⟨⟩
            exact (safe.pristine.read read).2
          · rw [(safe.pristine.read read).1]
            exact (closing?_eq_some_iff.mp read).1
        · exact safe.proceed (free held) (fun _ found => by cases found) rfl
      · exact safe.proceed (free held) (fun _ found => by cases found) same
  | update closing keys =>
      have read := safe.read process closing (by rw [phase]; rfl)
      cases keys with
      | nil =>
          simp only [fileAdvance, phase]
          refine execute_induction safe fun copy held => ?_
          have written := safe.written process copy held
          rw [phase] at written
          refine safe.proceed (free held) ?_ ⟨written.2, now, ?_⟩
          · rintro _ ⟨⟩
            exact read
          · rw [show copy = _ from written.1]
      | cons =>
          simp only [fileAdvance, phase]
          refine execute_induction safe fun copy held => ?_
          have written := safe.written process copy held
          rw [phase] at written
          refine safe.proceed (free held) ?_ written
          rintro _ ⟨⟩
          exact read
  | commit closing =>
      simp only [fileAdvance, phase]
      refine execute_induction safe fun copy held => ?_
      have written := safe.written process copy held
      rw [phase] at written
      obtain ⟨-, time, rfl⟩ := written
      exact safe.finish held (safe.pristine.close closing time)
  | finish =>
      simp only [fileAdvance, phase]
      exact execute_induction safe fun copy held =>
        safe.finish held safe.pristine

theorem step (action : LedgerAction) :
    Safe initial (fileStep ledger action) := by
  cases action with
  | call process call =>
      cases phase : ledger.phases process with
      | idle =>
          cases call with
          | release =>
              simp only [fileStep, phase]
              exact safe.move (by rw [phase]; rfl) rfl
                fun _ found => by cases found
          | settle =>
              simp only [fileStep, phase]
              split
              · exact safe.move (by rw [phase]; rfl) rfl
                  fun _ found => by cases found
              · exact safe
      | readRelease _ | beginRelease _ | beginSettle _ _ | readSettle _ _
      | update _ _ | commit _ | finish =>
          simp only [fileStep, phase]
          exact safe
  | advance process now => exact safe.advance process now
  | crash process => exact safe.crash process

end Safe

theorem start (store : SpendStore) :
    Safe store.spendRows (FileLedger.start store) where
  pristine := pristine_refl store
  read _ _ found := by cases found
  written _ _ found := by cases found
  holds _ writes := by cases writes

end Safe

/-- A commit writes no sum of more than 64 bits. -/
def Fits (ledger : FileLedger) (action : LedgerAction) : Prop :=
  ∀ process now closing, action = .advance process now →
    ledger.phases process = .commit closing →
    closing.Fits .sqlite ledger.rows.budgets

def Unclosed (ledger : FileLedger) (action : LedgerAction) : Prop :=
  ∀ process now row, action = .advance process now →
    ledger.phases process = .commit { row, actualMicros := none } →
    ledger.rows.reservations row.key = some row

section Effect

variable {ledger : FileLedger}

def Keeps (ledger later : FileLedger) : Prop :=
  later.rows = ledger.rows ∧ later.closings = ledger.closings

theorem keeps_begin (process : Nat) (phase : FilePhase) :
    Keeps ledger (ledger.begin process phase) := by
  unfold begin
  split <;> exact ⟨rfl, rfl⟩

theorem keeps_execute {process : Nat} {statement : SpendRows → FileLedger}
    (kept : ∀ copy, Keeps ledger (statement copy)) :
    Keeps ledger (ledger.execute process statement) :=
  execute_induction (motive := Keeps ledger) ⟨rfl, rfl⟩ fun copy _ => kept copy

theorem keeps_step (action : LedgerAction)
    (other : ∀ process now closing, action = .advance process now →
      ledger.phases process ≠ .commit closing) :
    Keeps ledger (fileStep ledger action) := by
  cases action with
  | call =>
      simp only [fileStep]
      split
      · exact ⟨rfl, rfl⟩
      · split <;> exact ⟨rfl, rfl⟩
      · exact ⟨rfl, rfl⟩
  | crash => exact ⟨rfl, rfl⟩
  | advance process now =>
      simp only [fileStep, fileAdvance]
      split
      · exact ⟨rfl, rfl⟩
      · split <;> exact ⟨rfl, rfl⟩
      · exact keeps_begin process _
      · exact keeps_begin process _
      · refine keeps_execute fun copy => ?_
        split <;> exact ⟨rfl, rfl⟩
      · exact keeps_execute fun _ => ⟨rfl, rfl⟩
      · exact keeps_execute fun _ => ⟨rfl, rfl⟩
      · rename_i closing phase
        exact absurd phase (other process now closing rfl)
      · exact keeps_execute fun _ => ⟨rfl, rfl⟩

theorem commit_eq {initial : SpendRows} (safe : Safe initial ledger)
    {process : Nat} {closing : Closing}
    (phase : ledger.phases process = .commit closing) (now : Int) :
    ∃ time, fileStep ledger (.advance process now) =
      { ledger.move process .idle with
        rows := (ledger.rows.credited .sqlite closing).close closing time
        writer := none
        closings := ledger.closings ++ [closing] } := by
  obtain ⟨copy, held⟩ := safe.holds process (by rw [phase]; rfl)
  have written := safe.written process copy held
  rw [phase] at written
  obtain ⟨-, time, rfl⟩ := written
  refine ⟨time, ?_⟩
  simp only [fileStep, fileAdvance, phase, execute, copy?_eq_some_iff.mpr held]

theorem balanced_step {initial : SpendRows} (safe : Safe initial ledger)
    (balanced : Balanced initial ledger.rows ledger.closings)
    {action : LedgerAction} (fits : ledger.Fits action) :
    Balanced initial (fileStep ledger action).rows
      (fileStep ledger action).closings := by
  by_cases commits : ∃ process now closing, action = .advance process now ∧
      ledger.phases process = .commit closing
  · obtain ⟨process, now, closing, rfl, phase⟩ := commits
    obtain ⟨time, committed⟩ := commit_eq safe phase now
    rw [committed]
    exact balanced.close (fits process now closing rfl phase) time
  · obtain ⟨rows, closings⟩ := keeps_step action
      fun process now closing same phase =>
        commits ⟨process, now, closing, same, phase⟩
    rw [rows, closings]
    exact balanced

theorem closedOnce_step_iff {initial : SpendRows}
    (safe : Safe initial ledger)
    (once : ClosedOnce initial ledger.rows ledger.closings)
    (action : LedgerAction) :
    ClosedOnce initial (fileStep ledger action).rows
        (fileStep ledger action).closings ↔ ledger.Unclosed action := by
  by_cases commits : ∃ process now closing, action = .advance process now ∧
      ledger.phases process = .commit closing
  · obtain ⟨process, now, closing, rfl, phase⟩ := commits
    obtain ⟨copy, held⟩ := safe.holds process (by rw [phase]; rfl)
    have written := safe.written process copy held
    have read := safe.read process closing (by rw [phase]; rfl)
    rw [phase] at written
    obtain ⟨time, committed⟩ := commit_eq safe phase now
    rw [committed]
    refine (once.close_iff read.1 read.2 time).trans ?_
    constructor
    · rintro still _ _ row ⟨⟩ same
      rw [phase] at same
      cases same
      exact still
    · intro unclosed
      cases kind : closing.actualMicros with
      | some actual =>
          exact written.1 (by rw [kind]; exact Option.some_ne_none actual)
      | none =>
          exact unclosed process now closing.row rfl (by rw [phase, ← kind])
  · have other : ∀ process now closing, action = .advance process now →
        ledger.phases process ≠ .commit closing :=
      fun process now closing same phase =>
        commits ⟨process, now, closing, same, phase⟩
    obtain ⟨rows, closings⟩ := keeps_step action other
    rw [rows, closings]
    refine iff_of_true once ?_
    intro process now row same phase
    exact absurd phase (other process now _ same)

end Effect

end FileLedger

end AcpTask.Spend
