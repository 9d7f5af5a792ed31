import AcpTask.Library.RowLocks
import AcpTask.Spend.Instances

namespace AcpTask.Spend

open Library

/-! The same calls on PostgreSQL: each is one transaction that selects its rows
for update.  `sorted` leaves the account before the campaign. -/

inductive LockedPhase where
  | idle
  | read (key : String × String) (actualMicros : Option Int)
  | lock (closing : Closing) (budgets : List (String × String × String))
  | update (closing : Closing) (budgets : List (String × String × String))
  | commit (closing : Closing)
  | finish

structure LockedLedger where
  budgets : RowLocks (String × String × String) Budget Nat
  reservations : RowLocks (String × String) Reservation Nat
  closings : List Closing
  phases : Nat → LockedPhase

namespace LockedLedger

def start (store : SpendStore) : LockedLedger where
  budgets := .ofCommitted store.budgets.find?
  reservations := .ofCommitted store.reservations.find?
  closings := []
  phases := fun _ => .idle

def rows (ledger : LockedLedger) : SpendRows where
  budgets := ledger.budgets.committed
  reservations := ledger.reservations.committed

def move (ledger : LockedLedger) (process : Nat) (phase : LockedPhase) :
    LockedLedger :=
  { ledger with phases := Function.update ledger.phases process phase }

def onBudgets (ledger : LockedLedger) (process : Nat) (phase : LockedPhase)
    (result : Option (RowLocks (String × String × String) Budget Nat)) :
    LockedLedger :=
  match result with
  | some budgets => { ledger.move process phase with budgets }
  | none => ledger

def onReservations (ledger : LockedLedger) (process : Nat)
    (phase : RowLocks (String × String) Reservation Nat → LockedPhase)
    (result : Option (RowLocks (String × String) Reservation Nat)) :
    LockedLedger :=
  match result with
  | some reservations =>
      { ledger.move process (phase reservations) with reservations }
  | none => ledger

def rollback (ledger : LockedLedger) (process : Nat) : LockedLedger :=
  { ledger.move process .idle with
    budgets := ledger.budgets.release process
    reservations := ledger.reservations.release process }

/-- A budget breaks a `check` of its table. -/
def broken (ledger : LockedLedger) (process : Nat)
    (key : String × String × String) (closing : Closing) : Bool :=
  (ledger.budgets.visible process key).any fun budget =>
    !budgetCheck .postgres (closing.credit .postgres budget)

end LockedLedger

def lockedAdvance (ledger : LockedLedger) (process : Nat) (now : Int) :
    LockedLedger :=
  match ledger.phases process with
  | .idle => ledger
  | .read key actualMicros => ledger.onReservations process
      (fun reservations =>
        match closing? (reservations.visible process key) actualMicros with
        | some closing => .lock closing closing.row.budgets
        | none => .finish)
      (ledger.reservations.lock? process key)
  | .lock closing (key :: rest) => ledger.onBudgets process
      (.lock closing rest) (ledger.budgets.lock? process key)
  | .lock closing [] =>
      ledger.move process (.update closing closing.row.budgets)
  | .update closing (key :: rest) =>
      if ledger.broken process key closing then ledger.rollback process
      else ledger.onBudgets process (.update closing rest)
        (ledger.budgets.update? process key (closing.credit .postgres))
  | .update closing [] =>
      if fits64 (closing.actualMicros.getD 0) then
        ledger.onReservations process (fun _ => .commit closing)
          (ledger.reservations.update? process closing.row.key
            (closing.close now))
      else ledger.rollback process
  | .commit closing =>
      { ledger.move process .idle with
        budgets := ledger.budgets.commit process
        reservations := ledger.reservations.commit process
        closings := ledger.closings ++ [closing] }
  | .finish => ledger.rollback process

def lockedStep (ledger : LockedLedger) : LedgerAction → LockedLedger
  | .call process call =>
      match ledger.phases process, call with
      | .idle, .release tenantId reservationId =>
          ledger.move process (.read (tenantId, reservationId) none)
      | .idle, .settle tenantId reservationId actual =>
          match micros actual with
          | .ok actualMicros => ledger.move process
              (.read (tenantId, reservationId) (some actualMicros))
          | .error _ => ledger
      | _, _ => ledger
  | .advance process now => lockedAdvance ledger process now
  | .crash process => ledger.rollback process

def Fixed (ledger : LockedLedger) (process : Nat) (closing : Closing) :
    Prop :=
  closing.row.status = .reserved ∧
    ledger.reservations.holder closing.row.key = some process ∧
    ledger.reservations.committed closing.row.key = some closing.row

def credits (closing : Closing) (keys : List (String × String × String))
    (key : String × String × String) : Option (Budget → Budget) :=
  if key ∈ keys then some (closing.credit .postgres) else none

def closes (closing : Closing) (now : Int) (key : String × String) :
    Option (Reservation → Reservation) :=
  if key = closing.row.key then some (closing.close now) else none

theorem credits_append (closing : Closing)
    (keys : List (String × String × String))
    (key : String × String × String) :
    credits closing (keys ++ [key]) =
      Function.update (credits closing keys) key
        (some (closing.credit .postgres)) := by
  funext other
  by_cases same : other = key
  · subst same
    simp [credits]
  · simp [credits, same]

def OwesNothing {Key Row : Type} (rows : RowLocks Key Row Nat)
    (process : Nat) : Prop :=
  rows.Owes process fun _ => none

def Holds (ledger : LockedLedger) (process : Nat) : LockedPhase → Prop
  | .lock closing _ => OwesNothing ledger.budgets process ∧
      OwesNothing ledger.reservations process ∧ Fixed ledger process closing
  | .update closing rest => ∃ done, done ++ rest = closing.row.budgets ∧
      ledger.budgets.Owes process (credits closing done) ∧
      OwesNothing ledger.reservations process ∧ Fixed ledger process closing
  | .commit closing =>
      ledger.budgets.Owes process (credits closing closing.row.budgets) ∧
      (∃ now, ledger.reservations.Owes process (closes closing now)) ∧
      Fixed ledger process closing
  | .idle => OwesNothing ledger.budgets process ∧
      OwesNothing ledger.reservations process
  | .read _ _ => OwesNothing ledger.budgets process ∧
      OwesNothing ledger.reservations process
  | .finish => OwesNothing ledger.budgets process ∧
      OwesNothing ledger.reservations process

namespace LockedLedger

structure Safe (initial : SpendRows) (ledger : LockedLedger) : Prop where
  pristine : Pristine initial ledger.rows
  balanced : Balanced initial ledger.rows ledger.closings
  once : ClosedOnce initial ledger.rows ledger.closings
  budgets : ledger.budgets.Clean
  reservations : ledger.reservations.Clean
  holds : ∀ process, Holds ledger process (ledger.phases process)

theorem holds_frame {ledger later : LockedLedger} {process other : Nat}
    (apart : other ≠ process)
    (budgets : RowLocks.Steady ledger.budgets later.budgets process)
    (reservations : RowLocks.Steady ledger.reservations later.reservations
      process) {phase : LockedPhase} (holds : Holds ledger other phase) :
    Holds later other phase := by
  have fixed {closing : Closing} (fixed : Fixed ledger other closing) :
      Fixed later other closing := by
    exact ⟨fixed.1, (reservations.holder other apart _).mpr fixed.2.1,
      (reservations.committed other apart _ fixed.2.1).trans fixed.2.2⟩
  cases phase with
  | idle | read _ _ | finish =>
      exact ⟨budgets.owes other apart holds.1,
        reservations.owes other apart holds.2⟩
  | lock =>
      exact ⟨budgets.owes other apart holds.1,
        reservations.owes other apart holds.2.1, fixed holds.2.2⟩
  | update =>
      obtain ⟨done, split, owes, nothing, still⟩ := holds
      exact ⟨done, split, budgets.owes other apart owes,
        reservations.owes other apart nothing, fixed still⟩
  | commit =>
      obtain ⟨owes, ⟨now, closes⟩, still⟩ := holds
      exact ⟨budgets.owes other apart owes,
        ⟨now, reservations.owes other apart closes⟩, fixed still⟩

namespace Safe

variable {initial : SpendRows} {ledger : LockedLedger}

variable {process : Nat} {phase : LockedPhase}

section Safe

variable (safe : Safe initial ledger)

include safe

theorem holds_update {later : LockedLedger}
    (phases : later.phases = Function.update ledger.phases process phase)
    (budgets : RowLocks.Steady ledger.budgets later.budgets process)
    (reservations : RowLocks.Steady ledger.reservations later.reservations
      process) (mine : Holds later process phase) :
    ∀ other, Holds later other (later.phases other) := by
  rw [phases]
  exact (Function.forall_update_iff _ (Holds later)).mpr ⟨mine, fun other same =>
    holds_frame same budgets reservations (safe.holds other)⟩

theorem move (mine : Holds ledger process phase) :
    Safe initial (ledger.move process phase) where
  pristine := safe.pristine
  balanced := safe.balanced
  once := safe.once
  budgets := safe.budgets
  reservations := safe.reservations
  holds := safe.holds_update rfl (RowLocks.Steady.refl _ process)
    (RowLocks.Steady.refl _ process) (by cases phase <;> exact mine)

theorem onBudgets
    {result : Option (RowLocks (String × String × String) Budget Nat)}
    (stored : ∀ budgets, result = some budgets →
      budgets.committed = ledger.budgets.committed ∧ budgets.Clean ∧
        RowLocks.Steady ledger.budgets budgets process)
    (mine : ∀ budgets, result = some budgets →
      Holds { ledger with budgets } process phase) :
    Safe initial (ledger.onBudgets process phase result) := by
  unfold LockedLedger.onBudgets
  split
  · rename_i budgets
    obtain ⟨same, clean, frame⟩ := stored budgets rfl
    have rows : LockedLedger.rows { ledger.move process phase with budgets } =
        ledger.rows := by
      rw [LockedLedger.rows, same]
      rfl
    refine ⟨?_, ?_, ?_, clean, safe.reservations, safe.holds_update rfl frame
      (RowLocks.Steady.refl _ process) ?_⟩
    · rw [rows]; exact safe.pristine
    · rw [rows]; exact safe.balanced
    · rw [rows]; exact safe.once
    · have here := mine budgets rfl
      cases phase <;> exact here
  · exact safe

theorem onReservations
    {phase : RowLocks (String × String) Reservation Nat → LockedPhase}
    {result : Option (RowLocks (String × String) Reservation Nat)}
    (stored : ∀ reservations, result = some reservations →
      reservations.committed = ledger.reservations.committed ∧
        reservations.Clean ∧
          RowLocks.Steady ledger.reservations reservations process)
    (mine : ∀ reservations, result = some reservations →
      Holds { ledger with reservations } process (phase reservations)) :
    Safe initial (ledger.onReservations process phase result) := by
  unfold LockedLedger.onReservations
  split
  · rename_i reservations
    obtain ⟨same, clean, frame⟩ := stored reservations rfl
    have rows : LockedLedger.rows
        { ledger.move process (phase reservations) with reservations } =
        ledger.rows := by
      rw [LockedLedger.rows, same]
      rfl
    refine ⟨?_, ?_, ?_, safe.budgets, clean, safe.holds_update rfl
      (RowLocks.Steady.refl _ process) frame ?_⟩
    · rw [rows]; exact safe.pristine
    · rw [rows]; exact safe.balanced
    · rw [rows]; exact safe.once
    · have here := mine reservations rfl
      cases next : phase reservations <;> rw [next] at here <;> exact here
  · exact safe

theorem rollback (process : Nat) :
    Safe initial (ledger.rollback process) where
  pristine := safe.pristine
  balanced := safe.balanced
  once := safe.once
  budgets := safe.budgets.release process
  reservations := safe.reservations.release process
  holds := safe.holds_update rfl ((RowLocks.Frame.release _ process).steady rfl)
    ((RowLocks.Frame.release _ process).steady rfl)
    ⟨RowLocks.Owes.release _ process, RowLocks.Owes.release _ process⟩

theorem commit {closing : Closing}
    (phase : ledger.phases process = .commit closing) :
    Safe initial { ledger.move process .idle with
      budgets := ledger.budgets.commit process
      reservations := ledger.reservations.commit process
      closings := ledger.closings ++ [closing] } := by
  have holds := safe.holds process
  rw [phase] at holds
  obtain ⟨credited, ⟨now, closed⟩, reserved, -, still⟩ := holds
  have rows : LockedLedger.rows { ledger.move process .idle with
      budgets := ledger.budgets.commit process
      reservations := ledger.reservations.commit process
      closings := ledger.closings ++ [closing] } =
      (ledger.rows.credited .postgres closing).close closing now := by
    ext1
    · funext key
      refine (credited.committed_commit key).trans ?_
      change _ = (ledger.rows.credited .postgres closing).budgets key
      rw [SpendRows.credited_budgets, credits]
      split <;> rfl
    · funext key
      refine (closed.committed_commit key).trans ?_
      rw [SpendRows.close_reservations, closes]
      split <;> rfl
  have first := (safe.pristine _ _ still).2 reserved
  refine ⟨?_, ?_, ?_, safe.budgets.release process,
    safe.reservations.release process, safe.holds_update rfl
      credited.steady closed.steady
      ⟨RowLocks.Owes.commit _ process, RowLocks.Owes.commit _ process⟩⟩
  · rw [rows]; exact safe.pristine.close closing now
  · rw [rows]
    exact safe.balanced.close (fun _ _ _ _ => .inl rfl) now
  · rw [rows]; exact (safe.once.close_iff reserved first now).mpr still

theorem advance (process : Nat) (now : Int) :
    Safe initial (lockedAdvance ledger process now) := by
  have holds := safe.holds process
  cases phase : ledger.phases process with
  | idle =>
      simp only [lockedAdvance, phase]
      exact safe
  | read key actualMicros =>
      rw [phase] at holds
      simp only [lockedAdvance, phase]
      refine safe.onReservations (fun reservations locked =>
        ⟨RowLocks.committed_lock? locked, safe.reservations.lock? locked,
          RowLocks.Steady.lock? locked⟩) fun reservations locked => ?_
      have owes : OwesNothing reservations process :=
        holds.2.lock? safe.reservations rfl locked
      cases read : closing? (reservations.visible process key) actualMicros with
      | none => exact ⟨holds.1, owes⟩
      | some closing =>
          obtain ⟨found, reserved, -⟩ := closing?_eq_some_iff.mp read
          have held := RowLocks.holder_lock? locked found
          rw [owes.visible rfl] at found
          have sameKey : closing.row.key = key := by
            rw [RowLocks.committed_lock? locked] at found
            exact (safe.pristine key closing.row found).1
          refine ⟨holds.1, owes, reserved, ?_, ?_⟩ <;> rw [sameKey]
          · exact held
          · exact found
  | lock closing keys =>
      rw [phase] at holds
      cases keys with
      | nil =>
          simp only [lockedAdvance, phase]
          refine safe.move ⟨[], rfl, ?_, holds.2⟩
          have nothing : credits closing [] = fun _ => none := by
            funext key
            exact if_neg List.not_mem_nil
          rw [nothing]
          exact holds.1
      | cons =>
          simp only [lockedAdvance, phase]
          refine safe.onBudgets (fun budgets locked =>
            ⟨RowLocks.committed_lock? locked, safe.budgets.lock? locked,
              RowLocks.Steady.lock? locked⟩) fun budgets locked => ?_
          exact ⟨holds.1.lock? safe.budgets rfl locked, holds.2⟩
  | update closing keys =>
      rw [phase] at holds
      obtain ⟨done, split, owes, nothing, fixed⟩ := holds
      cases keys with
      | nil =>
          simp only [lockedAdvance, phase]
          split
          case isFalse =>
              exact safe.rollback process
          refine safe.onReservations (fun reservations written =>
            ⟨RowLocks.committed_update? written,
              safe.reservations.update? written,
              RowLocks.Steady.update? written⟩) fun reservations written => ?_
          rw [List.append_nil] at split
          have owed := nothing.update? rfl written
          obtain ⟨reserved, held, still⟩ := fixed
          refine ⟨split ▸ owes, ⟨now, ?_⟩, reserved, ?_, ?_⟩
          · have same : closes closing now = Function.update (fun _ => none)
                closing.row.key (some (closing.close now)) := by
              funext key
              rw [Function.update_apply]
              rfl
            rw [same]
            exact owed
          · exact RowLocks.holder_update? held written
          · change reservations.committed _ = _
            rw [RowLocks.committed_update? written]
            exact still
      | cons key =>
          simp only [lockedAdvance, phase]
          split
          · exact safe.rollback process
          · have distinct := closing.row.budgets_nodup
            rw [← split, List.nodup_append] at distinct
            have fresh : key ∉ done := fun before =>
              distinct.2.2 key before key List.mem_cons_self rfl
            refine safe.onBudgets (fun budgets written =>
              ⟨RowLocks.committed_update? written,
                safe.budgets.update? written,
                RowLocks.Steady.update? written⟩) fun budgets written => ?_
            refine ⟨done ++ [key], by rw [List.append_assoc]; exact split, ?_,
              nothing, fixed⟩
            rw [credits_append]
            exact owes.update? (if_neg fresh) written
  | commit =>
      simp only [lockedAdvance, phase]
      exact safe.commit phase
  | finish =>
      simp only [lockedAdvance, phase]
      exact safe.rollback process

theorem step (action : LedgerAction) :
    Safe initial (lockedStep ledger action) := by
  cases action with
  | call process call =>
      have holds := safe.holds process
      cases phase : ledger.phases process with
      | idle =>
          rw [phase] at holds
          cases call with
          | release =>
              simp only [lockedStep, phase]
              exact safe.move holds
          | settle =>
              simp only [lockedStep, phase]
              split
              · exact safe.move holds
              · exact safe
      | read _ _ | lock _ _ | update _ _ | commit _ | finish =>
          simp only [lockedStep, phase]
          exact safe
  | advance process now => exact safe.advance process now
  | crash process => exact safe.rollback process

end Safe

theorem start (store : SpendStore) :
    Safe store.spendRows (LockedLedger.start store) where
  pristine := pristine_refl store
  balanced := balanced_refl store.spendRows
  once := closedOnce_refl store.spendRows
  budgets := RowLocks.clean_ofCommitted _
  reservations := RowLocks.clean_ofCommitted _
  holds process := ⟨RowLocks.owes_ofCommitted _ process,
    RowLocks.owes_ofCommitted _ process⟩

end Safe

end LockedLedger

end AcpTask.Spend

namespace AcpTask.Spend

open Library

def fileRun (store : SpendStore) (actions : List LedgerAction) : FileLedger :=
  run fileStep (FileLedger.start store) actions

def lockedRun (store : SpendStore) (actions : List LedgerAction) :
    LockedLedger :=
  run lockedStep (LockedLedger.start store) actions

theorem safe_lockedRun (store : SpendStore) (actions : List LedgerAction) :
    (lockedRun store actions).Safe store.spendRows :=
  run_invariant lockedStep (LockedLedger.Safe store.spendRows)
    (fun _ action safe => safe.step action) (LockedLedger.Safe.start store)
    actions

/-- On both stores the budgets are what the committed calls make of them, on
SQLite as long as the sums stay within 64 bits.  On PostgreSQL a reservation is
closed once whatever the interleaving; on SQLite it is, throughout a run,
exactly when no release commits after its reservation was closed by another
call. -/
theorem closed_once_iff (store : SpendStore) (actions : List LedgerAction) :
    (Balanced store.spendRows (lockedRun store actions).rows
        (lockedRun store actions).closings ∧
      ClosedOnce store.spendRows (lockedRun store actions).rows
        (lockedRun store actions).closings) ∧
    (Along fileStep FileLedger.Fits (FileLedger.start store) actions →
      Balanced store.spendRows (fileRun store actions).rows
        (fileRun store actions).closings) ∧
    ((∀ earlier later, actions = earlier ++ later →
        ClosedOnce store.spendRows (fileRun store earlier).rows
          (fileRun store earlier).closings) ↔
      Along fileStep FileLedger.Unclosed (FileLedger.start store) actions) := by
  have locked := safe_lockedRun store actions
  refine ⟨⟨locked.balanced, locked.once⟩, fun fits => ?_, ?_⟩
  · refine (Along.invariant (fun ledger => ledger.Safe store.spendRows ∧
      Balanced store.spendRows ledger.rows ledger.closings) ?_
      ⟨FileLedger.Safe.start store, balanced_refl store.spendRows⟩ fits).2
    rintro ledger action ⟨safe, balanced⟩ fits
    exact ⟨safe.step action, FileLedger.balanced_step safe balanced fits⟩
  exact Along.forall_prefix_iff (FileLedger.Safe store.spendRows)
    (fun ledger => ClosedOnce store.spendRows ledger.rows ledger.closings)
    (fun _ action safe => safe.step action)
    (fun _ action safe once => FileLedger.closedOnce_step_iff safe once action)
    (FileLedger.Safe.start store) (closedOnce_refl store.spendRows) actions

def reservedStore : SpendStore :=
  spendRun .sqlite [.setCeiling "tenant" "account" "tenant" (.finite 10 0),
    .reserve 1 "tenant" "effect" "sms" (.finite 4 0) none]

def advances (process count : Nat) : List LedgerAction :=
  List.replicate count (.advance process 2)

def lateRelease (first : LedgerCall) (statements : Nat) : List LedgerAction :=
  [.call 0 (.release "tenant" "effect"), .call 1 first] ++ advances 0 1 ++
    advances 1 statements ++ advances 0 4

def accountTotals (rows : SpendRows) : Option (Int × Int) :=
  (rows.budgets ("tenant", "account", "tenant")).map fun budget =>
    (budget.reservedMicros, budget.settledMicros)

def effectStatus (rows : SpendRows) :
    Option (Int × ReservationStatus × Option Int) :=
  (rows.reservations ("tenant", "effect")).map fun row =>
    (row.reservedMicros, row.status, row.settledMicros)

theorem released_twice :
    (accountTotals reservedStore.spendRows = some (4000000, 0) ∧
      effectStatus reservedStore.spendRows = some (4000000, .reserved, none)) ∧
    accountTotals (fileRun reservedStore
      (lateRelease (.release "tenant" "effect") 5)).rows = some (-4000000, 0) ∧
    accountTotals (fileRun reservedStore
      (lateRelease (.settle "tenant" "effect" (.finite 3 0)) 5)).rows =
        some (-4000000, 3000000) ∧
    effectStatus (fileRun reservedStore
      (lateRelease (.settle "tenant" "effect" (.finite 3 0)) 5)).rows =
        some (4000000, .released, some 3000000) := by
  decide +kernel

end AcpTask.Spend
