import AcpTask.Spend.Volume

namespace AcpTask.Spend

open Library

namespace FileVolumes

def Reads (rows : String × String × String → Option VolumeRow) :
    FileVolumePhase → Prop
  | .read _ => True
  | .upsert call row => meterBrandVolume .sqlite (rows call.key) call = .ok row
  | .commit call row => meterBrandVolume .sqlite (rows call.key) call = .ok row
  | .finish => True

structure Safe (volumes : FileVolumes) : Prop where
  metered : Metered volumes.rows volumes.granted
  reads : ∀ process phase, volumes.writer = some (process, phase) →
    Reads volumes.rows phase

theorem Safe.start : Safe start := ⟨metered_none, fun _ _ held => by cases held⟩

theorem Safe.execute {volumes : FileVolumes} (safe : Safe volumes)
    {process : Nat} {phase : FileVolumePhase}
    (held : volumes.writer = some (process, phase)) :
    Safe (volumes.execute process phase) := by
  have reads := safe.reads process phase held
  cases phase with
  | read call =>
      simp only [FileVolumes.execute]
      split
      · rename_i row grants
        refine ⟨safe.metered, ?_⟩
        rintro _ _ ⟨⟩
        exact grants
      · refine ⟨safe.metered, ?_⟩
        rintro _ _ ⟨⟩
        trivial
  | upsert =>
      refine ⟨safe.metered, ?_⟩
      rintro _ _ ⟨⟩
      exact reads
  | commit => exact ⟨safe.metered.grant reads, fun _ _ held => by cases held⟩
  | finish => exact ⟨safe.metered, fun _ _ held => by cases held⟩

theorem Safe.step {volumes : FileVolumes} (safe : Safe volumes)
    (action : VolumeAction) : Safe (volumes.step action) := by
  cases action with
  | call =>
      simp only [FileVolumes.step]
      split
      · exact ⟨safe.metered, safe.reads⟩
      · exact safe
  | advance process =>
      simp only [FileVolumes.step]
      split
      · rename_i holder phase held
        split
        · rename_i same
          subst same
          exact safe.execute held
        · exact safe
      · refine ⟨safe.metered, ?_⟩
        rintro _ _ ⟨⟩
        trivial
      · exact safe
  | crash =>
      refine ⟨safe.metered, fun other phase held => ?_⟩
      exact safe.reads other phase (Option.filter_eq_some_iff.mp held).1

end FileVolumes

namespace LockedVolumes

/-- What a call holds.  One that read a row has it locked since; one that read
none has nothing locked before it writes. -/
def Holds (rows : RowLocks (String × String × String) VolumeRow Nat)
    (process : Nat) : LockedVolumePhase → Prop
  | .idle => ∀ key, rows.holder key ≠ some process
  | .read _ => ∀ key, rows.holder key ≠ some process
  | .upsert call read row =>
      meterBrandVolume .postgres read call = .ok row ∧
      (∀ key, rows.holder key = some process → key = call.key) ∧
      ∀ old, read = some old → rows.holder call.key = some process ∧
        rows.committed call.key = some old
  | .commit call read row =>
      meterBrandVolume .postgres read call = .ok row ∧
      (∀ key, rows.holder key = some process → key = call.key) ∧
      (rows.holder call.key = some process ∧ rows.draft call.key = some row) ∧
      ∀ old, read = some old → rows.committed call.key = some old
  | .finish => True

structure Safe (volumes : LockedVolumes) : Prop where
  clean : volumes.rows.Clean
  holds : ∀ process, Holds volumes.rows process (volumes.phases process)

/-- A call commits over a row that it has not read, and that had a volume or a
lower ceiling. -/
def Overwrites (volumes : LockedVolumes) (action : VolumeAction) : Prop :=
  ∃ process call row old, action = .advance process ∧
    volumes.phases process = .commit call none row ∧
    volumes.rows.committed call.key = some old ∧
    ¬ (old.volume = 0 ∧ call.ceiling ≤ old.ceiling)

variable {rows : RowLocks (String × String × String) VolumeRow Nat}

theorem holds_frame {later : RowLocks (String × String × String) VolumeRow Nat}
    {process other : Nat} (apart : other ≠ process)
    (frame : RowLocks.Frame rows later process) {phase : LockedVolumePhase}
    (holds : Holds rows other phase) : Holds later other phase := by
  have holder := frame.holder other apart
  cases phase with
  | idle | read _ =>
      intro key
      rw [ne_eq, holder]
      exact holds key
  | upsert =>
      obtain ⟨grants, only, same⟩ := holds
      refine ⟨grants, fun key held => only key ((holder key).mp held), ?_⟩
      intro old found
      obtain ⟨held, stored⟩ := same old found
      exact ⟨(holder _).mpr held,
        (frame.committed other apart _ held).trans stored⟩
  | commit =>
      obtain ⟨grants, only, ⟨held, draft⟩, same⟩ := holds
      refine ⟨grants, fun key held => only key ((holder key).mp held),
        ⟨(holder _).mpr held, (frame.draft other apart _ held).trans draft⟩, ?_⟩
      intro old found
      exact (frame.committed other apart _ held).trans (same old found)
  | finish => trivial

variable {volumes : LockedVolumes}

theorem Safe.move (safe : Safe volumes) {process : Nat}
    {phase : LockedVolumePhase} {granted : List VolumeCall} (clean : rows.Clean)
    (frame : RowLocks.Frame volumes.rows rows process)
    (mine : Holds rows process phase) :
    Safe { volumes.move process phase with rows, granted } where
  clean := clean
  holds := (Function.forall_update_iff _ (Holds rows)).mpr
    ⟨mine, fun other same => holds_frame same frame (safe.holds other)⟩

theorem Safe.step (safe : Safe volumes) (action : VolumeAction) :
    Safe (volumes.step action) := by
  cases action with
  | call process call =>
      simp only [LockedVolumes.step]
      split
      · rename_i phase
        have mine := safe.holds process
        rw [phase] at mine
        exact safe.move safe.clean (RowLocks.Frame.refl _ process) mine
      · exact safe
  | crash process =>
      exact safe.move (safe.clean.release process)
        (RowLocks.Frame.release _ process) (RowLocks.holder_release_self volumes.rows process)
  | advance process =>
      have mine := safe.holds process
      cases phase : volumes.phases process with
      | idle =>
          simp only [LockedVolumes.step, advance, phase]
          exact safe
      | read call =>
          rw [phase] at mine
          simp only [LockedVolumes.step, advance, phase]
          split
          · rename_i rows locked
            refine safe.move (safe.clean.lock? locked)
              (RowLocks.Frame.lock? locked) ?_
            unfold afterRead
            split
            · rename_i row grants
              refine ⟨grants, fun key held => ?_, fun old found =>
                ⟨RowLocks.holder_lock? locked found, ?_⟩⟩
              · rcases RowLocks.lock?_eq_some locked with
                  ⟨-, rfl⟩ | ⟨-, rfl⟩
                · exact absurd held (mine key)
                · by_contra other
                  rw [RowLocks.holder_hold_of_ne other] at held
                  exact mine key held
              · have owes := (RowLocks.owes_of_unheld mine).lock? safe.clean
                  rfl locked
                rw [owes.visible rfl] at found
                exact found
            · trivial
          · exact safe
      | upsert call read row =>
          rw [phase] at mine
          obtain ⟨grants, only, same⟩ := mine
          simp only [LockedVolumes.step, advance, phase]
          split
          · rename_i rows written
            refine safe.move (safe.clean.put? written)
              (RowLocks.Frame.put? written) ?_
            obtain ⟨available, rfl⟩ := RowLocks.put?_eq_some written
            refine ⟨grants, fun key held => ?_,
              ⟨RowLocks.holder_hold_self _ _ _, Function.update_self ..⟩,
              fun old found => (same old found).2⟩
            by_contra other
            refine other (only key ?_)
            exact (RowLocks.holder_hold_of_ne other).symm.trans held
          · exact safe
      | commit =>
          simp only [LockedVolumes.step, advance, phase]
          exact safe.move (safe.clean.release process)
            (RowLocks.Frame.commit _ process) (RowLocks.holder_release_self volumes.rows process)
      | finish =>
          simp only [LockedVolumes.step, advance, phase]
          exact safe.move (safe.clean.release process)
            (RowLocks.Frame.release _ process) (RowLocks.holder_release_self volumes.rows process)

theorem Safe.start : Safe start where
  clean := RowLocks.clean_ofCommitted _
  holds _ _ held := by cases held

theorem committed_commit (safe : Safe volumes) {process : Nat}
    {call : VolumeCall} {read : Option VolumeRow} {row : VolumeRow}
    (phase : volumes.phases process = .commit call read row) :
    (volumes.rows.commit process).committed =
      Function.update volumes.rows.committed call.key (some row) := by
  have mine := safe.holds process
  rw [phase] at mine
  obtain ⟨-, only, ⟨held, draft⟩, -⟩ := mine
  funext key
  change volumes.rows.visible process key = _
  unfold RowLocks.visible
  by_cases same : key = call.key
  · subst same
    rw [if_pos held, draft, Function.update_self]
    rfl
  · rw [if_neg fun held => same (only key held), Function.update_of_ne same]

theorem step_keeps (volumes : LockedVolumes) {action : VolumeAction}
    (other : ∀ process call read row, action = .advance process →
      volumes.phases process ≠ .commit call read row) :
    (volumes.step action).rows.committed = volumes.rows.committed ∧
      (volumes.step action).granted = volumes.granted := by
  cases action with
  | call =>
      simp only [LockedVolumes.step]
      split <;> exact ⟨rfl, rfl⟩
  | crash => exact ⟨rfl, rfl⟩
  | advance process =>
      cases phase : volumes.phases process with
      | idle => simp only [LockedVolumes.step, advance, phase, and_self]
      | read call =>
          simp only [LockedVolumes.step, advance, phase]
          split
          · rename_i rows locked
            exact ⟨RowLocks.committed_lock? locked, rfl⟩
          · exact ⟨rfl, rfl⟩
      | upsert call read row =>
          simp only [LockedVolumes.step, advance, phase]
          split
          · rename_i rows written
            obtain ⟨-, rfl⟩ := RowLocks.put?_eq_some written
            exact ⟨rfl, rfl⟩
          · exact ⟨rfl, rfl⟩
      | commit call read row =>
          exact absurd phase (other process call read row rfl)
      | finish =>
          simp only [LockedVolumes.step, advance, phase]
          exact ⟨rfl, rfl⟩

theorem metered_step_iff (safe : Safe volumes)
    (metered : Metered volumes.rows.committed volumes.granted)
    (action : VolumeAction) :
    Metered (volumes.step action).rows.committed
        (volumes.step action).granted ↔ ¬ volumes.Overwrites action := by
  by_cases commits : ∃ process call read row, action = .advance process ∧
      volumes.phases process = .commit call read row
  · obtain ⟨process, call, read, row, rfl, phase⟩ := commits
    have mine := safe.holds process
    rw [phase] at mine
    obtain ⟨grants, -, -, same⟩ := mine
    have stored : (volumes.step (.advance process)).rows.committed =
        Function.update volumes.rows.committed call.key (some row) := by
      rw [← committed_commit safe phase]
      simp only [LockedVolumes.step, advance, phase]
    have granted : (volumes.step (.advance process)).granted =
        volumes.granted ++ [call] := by
      simp only [LockedVolumes.step, advance, phase]
    have harmless (good : ∀ old, read = none →
        volumes.rows.committed call.key = some old →
        old.volume = 0 ∧ call.ceiling ≤ old.ceiling) :
        ¬ volumes.Overwrites (.advance process) := by
      rintro ⟨_, other, _, old, ⟨⟩, same, found, bad⟩
      rw [phase] at same
      cases same
      exact bad (good old rfl found)
    rw [stored, granted]
    cases read with
    | some old =>
        have found := same old rfl
        rw [← found] at grants
        exact iff_of_true (metered.grant grants)
          (harmless fun _ none => by cases none)
    | none =>
        cases found : volumes.rows.committed call.key with
        | none =>
            rw [← found] at grants
            refine iff_of_true (metered.grant grants) (harmless ?_)
            intro old _ other
            rw [found] at other
            cases other
        | some old =>
            rw [metered.overwrite_iff grants found]
            constructor
            · intro good
              refine harmless fun other _ same => ?_
              obtain rfl : old = other :=
                Option.some.inj (found.symm.trans same)
              exact good
            · intro kept
              by_contra bad
              exact kept ⟨process, call, row, old, rfl, phase, found, bad⟩
  · have other : ∀ process call read row, action = .advance process →
        volumes.phases process ≠ .commit call read row :=
      fun process call read row same phase =>
        commits ⟨process, call, read, row, same, phase⟩
    obtain ⟨rows, granted⟩ := volumes.step_keeps other
    rw [rows, granted]
    refine iff_of_true metered ?_
    rintro ⟨process, call, row, _, same, phase, -⟩
    exact other process call none row same phase

end LockedVolumes

def fileVolumes (actions : List VolumeAction) : FileVolumes :=
  run FileVolumes.step .start actions

def lockedVolumes (actions : List VolumeAction) : LockedVolumes :=
  run LockedVolumes.step .start actions

/-- However calls interleave, on SQLite the stored volumes are the granted
units, within every granted ceiling; on PostgreSQL they are, throughout a run,
exactly when no call overwrites a row that it has not read. -/
theorem volume_metered_iff (actions : List VolumeAction) :
    Metered (fileVolumes actions).rows (fileVolumes actions).granted ∧
    ((∀ earlier later, actions = earlier ++ later →
        Metered (lockedVolumes earlier).rows.committed
          (lockedVolumes earlier).granted) ↔
      Along LockedVolumes.step
        (fun volumes action => ¬ volumes.Overwrites action) .start
        actions) := by
  constructor
  · exact (run_invariant FileVolumes.step FileVolumes.Safe
      (fun _ action safe => safe.step action) FileVolumes.Safe.start
      actions).metered
  · exact Along.forall_prefix_iff LockedVolumes.Safe
      (fun volumes => Metered volumes.rows.committed volumes.granted)
      (fun _ action safe => safe.step action)
      (fun _ action safe metered =>
        LockedVolumes.metered_step_iff safe metered action)
      LockedVolumes.Safe.start metered_none actions

def firstOfDay (units : Int) : VolumeCall where
  tenantId := "tenant"
  brandId := "brand"
  day := "2026-01-01"
  ceiling := 10
  units := units

def overlapping : List VolumeAction :=
  [.call 0 (firstOfDay 7), .call 1 (firstOfDay 6), .advance 0, .advance 1,
    .advance 0, .advance 0, .advance 1, .advance 1]

theorem grant_overwritten :
    (lockedVolumes overlapping).granted = [firstOfDay 7, firstOfDay 6] ∧
      ((lockedVolumes overlapping).rows.committed (firstOfDay 7).key).map
        VolumeRow.volume = some 6 := by
  decide +kernel

end AcpTask.Spend
