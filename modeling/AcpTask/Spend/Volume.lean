import Mathlib.Algebra.Order.Group.Int
import AcpTask.Library.RowLocks
import AcpTask.Spend.Ledger

namespace AcpTask.Spend

open Library

structure VolumeRow where
  tenantId : String
  brandId : String
  day : String
  volume : Int
  ceiling : Int

structure VolumeCall where
  tenantId : String
  brandId : String
  day : String
  ceiling : Int
  units : Int := 1
  deriving DecidableEq

abbrev VolumeCall.key (call : VolumeCall) : String × String × String :=
  (call.tenantId, call.brandId, call.day)

/-- What the columns hold, and the `check` that PostgreSQL declares. -/
def volumeCheck : Backend → VolumeRow → Bool
  | .sqlite, row =>
      decide (-2 ^ 63 ≤ row.volume) && decide (row.volume < 2 ^ 63) &&
        decide (-2 ^ 63 ≤ row.ceiling) && decide (row.ceiling < 2 ^ 63)
  | .postgres, row =>
      decide (0 ≤ row.volume) && decide (0 ≤ row.ceiling) &&
        decide (row.volume ≤ row.ceiling) && decide (row.ceiling < 2 ^ 31)

/-- The row that `meter_brand_volume` stores, given the one that it read. -/
def meterBrandVolume (backend : Backend) (read : Option VolumeRow)
    (call : VolumeCall) : Except SpendError VolumeRow :=
  let current := (read.map VolumeRow.volume).getD 0
  let effective :=
    (read.map fun row => min call.ceiling row.ceiling).getD call.ceiling
  let row : VolumeRow :=
    { tenantId := call.tenantId, brandId := call.brandId, day := call.day
      volume := current + call.units, ceiling := effective }
  if current + call.units > effective then
    .error (.spendCeilingExceeded "brand_daily_volume_exhausted")
  else if volumeCheck backend row then .ok row
  else .error .checkViolation

inductive VolumeAction where
  | call (process : Nat) (call : VolumeCall)
  | advance (process : Nat)
  | crash (process : Nat)

inductive FileVolumePhase where
  | read (call : VolumeCall)
  | upsert (call : VolumeCall) (row : VolumeRow)
  | commit (call : VolumeCall) (row : VolumeRow)
  | finish

structure FileVolumes where
  rows : String × String × String → Option VolumeRow
  waiting : Nat → Option VolumeCall
  writer : Option (Nat × FileVolumePhase)
  granted : List VolumeCall

namespace FileVolumes

def start : FileVolumes where
  rows := fun _ => none
  waiting := fun _ => none
  writer := none
  granted := []

def execute (volumes : FileVolumes) (process : Nat) :
    FileVolumePhase → FileVolumes
  | .read call =>
      match meterBrandVolume .sqlite (volumes.rows call.key) call with
      | .ok row => { volumes with writer := some (process, .upsert call row) }
      | .error _ => { volumes with writer := some (process, .finish) }
  | .upsert call row =>
      { volumes with writer := some (process, .commit call row) }
  | .commit call row =>
      { volumes with
        rows := Function.update volumes.rows call.key (some row)
        writer := none
        granted := volumes.granted ++ [call] }
  | .finish => { volumes with writer := none }

def step (volumes : FileVolumes) : VolumeAction → FileVolumes
  | .call process call =>
      if volumes.waiting process = none ∧
          volumes.writer.map Prod.fst ≠ some process then
        { volumes with
          waiting := Function.update volumes.waiting process (some call) }
      else volumes
  | .advance process =>
      match volumes.writer, volumes.waiting process with
      | some (holder, phase), _ =>
          if holder = process then volumes.execute process phase else volumes
      | none, some call =>
          { volumes with
            waiting := Function.update volumes.waiting process none
            writer := some (process, .read call) }
      | none, none => volumes
  | .crash process =>
      { volumes with
        waiting := Function.update volumes.waiting process none
        writer := volumes.writer.filter fun writer =>
          decide (writer.1 ≠ process) }

end FileVolumes

inductive LockedVolumePhase where
  | idle
  | read (call : VolumeCall)
  | upsert (call : VolumeCall) (read : Option VolumeRow) (row : VolumeRow)
  | commit (call : VolumeCall) (read : Option VolumeRow) (row : VolumeRow)
  | finish

structure LockedVolumes where
  rows : RowLocks (String × String × String) VolumeRow Nat
  phases : Nat → LockedVolumePhase
  granted : List VolumeCall

namespace LockedVolumes

def start : LockedVolumes where
  rows := .ofCommitted fun _ => none
  phases := fun _ => .idle
  granted := []

def move (volumes : LockedVolumes) (process : Nat)
    (phase : LockedVolumePhase) : LockedVolumes :=
  { volumes with phases := Function.update volumes.phases process phase }

def afterRead (call : VolumeCall) (read : Option VolumeRow) :
    LockedVolumePhase :=
  match meterBrandVolume .postgres read call with
  | .ok row => .upsert call read row
  | .error _ => .finish

def advance (volumes : LockedVolumes) (process : Nat) : LockedVolumes :=
  match volumes.phases process with
  | .idle => volumes
  | .read call =>
      match volumes.rows.lock? process call.key with
      | some rows =>
          { volumes.move process
              (afterRead call (rows.visible process call.key)) with rows }
      | none => volumes
  | .upsert call read row =>
      match volumes.rows.put? process call.key row with
      | some rows => { volumes.move process (.commit call read row) with rows }
      | none => volumes
  | .commit call _ _ =>
      { volumes.move process .idle with
        rows := volumes.rows.commit process
        granted := volumes.granted ++ [call] }
  | .finish =>
      { volumes.move process .idle with rows := volumes.rows.release process }

def step (volumes : LockedVolumes) : VolumeAction → LockedVolumes
  | .call process call =>
      match volumes.phases process with
      | .idle => volumes.move process (.read call)
      | _ => volumes
  | .advance process => volumes.advance process
  | .crash process =>
      { volumes.move process .idle with rows := volumes.rows.release process }

end LockedVolumes

def grantedOn (key : String × String × String)
    (granted : List VolumeCall) : List VolumeCall :=
  granted.filter fun call => decide (call.key = key)

/-- The stored volume is the sum of the granted units, and is within the least
ceiling that a granted call asked for. -/
structure Metered (rows : String × String × String → Option VolumeRow)
    (granted : List VolumeCall) : Prop where
  volume : ∀ key, ((rows key).map VolumeRow.volume).getD 0 =
    ((grantedOn key granted).map VolumeCall.units).sum
  within : ∀ key row, rows key = some row → row.volume ≤ row.ceiling
  below : ∀ call ∈ granted, ∃ row, rows call.key = some row ∧
    row.ceiling ≤ call.ceiling
  attained : ∀ key row, rows key = some row → ∃ call ∈ granted,
    call.key = key ∧ call.ceiling = row.ceiling

theorem metered_none : Metered (fun _ => none) [] where
  volume _ := rfl
  within _ _ found := by cases found
  below _ member := by cases member
  attained _ _ found := by cases found

theorem grantedOn_append (key : String × String × String)
    (granted : List VolumeCall) (call : VolumeCall) :
    ((grantedOn key (granted ++ [call])).map VolumeCall.units).sum =
      ((grantedOn key granted).map VolumeCall.units).sum +
        if call.key = key then call.units else 0 := by
  rw [grantedOn, List.filter_append, List.map_append, List.sum_append]
  split
  · rename_i same
    simp [grantedOn, same]
  · rename_i other
    simp [grantedOn, other]

theorem meterBrandVolume_ok {backend : Backend} {read : Option VolumeRow}
    {call : VolumeCall} {row : VolumeRow}
    (metered : meterBrandVolume backend read call = .ok row) :
    row.volume = (read.map VolumeRow.volume).getD 0 + call.units ∧
      row.ceiling = (read.map fun row => min call.ceiling
        row.ceiling).getD call.ceiling ∧
      row.volume ≤ row.ceiling := by
  simp only [meterBrandVolume] at metered
  split at metered
  · cases metered
  · rename_i fits
    split at metered
    · cases metered
      exact ⟨rfl, rfl, Int.not_lt.mp fits⟩
    · cases metered

section Store

variable {rows : String × String × String → Option VolumeRow}
  {granted : List VolumeCall} {call : VolumeCall} {row : VolumeRow}

theorem Metered.update_iff (metered : Metered rows granted)
    (fits : row.volume ≤ row.ceiling) (lower : row.ceiling ≤ call.ceiling)
    (least : row.ceiling = call.ceiling ∨
      ∃ old, rows call.key = some old ∧ row.ceiling = old.ceiling) :
    Metered (Function.update rows call.key (some row)) (granted ++ [call]) ↔
      row.volume =
          ((rows call.key).map VolumeRow.volume).getD 0 + call.units ∧
        ∀ old, rows call.key = some old → row.ceiling ≤ old.ceiling := by
  constructor
  · intro later
    constructor
    · have total := later.volume call.key
      rw [grantedOn_append, if_pos rfl, ← metered.volume call.key,
        Function.update_self] at total
      exact total
    · intro old found
      obtain ⟨other, member, sameKey, ceiling⟩ :=
        metered.attained call.key old found
      obtain ⟨stored, same, below⟩ :=
        later.below other (List.mem_append_left [call] member)
      rw [sameKey, Function.update_self, Option.some.injEq] at same
      rw [← ceiling, same]
      exact below
  · rintro ⟨adds, keeps⟩
    refine ⟨fun key => ?_, fun key stored found => ?_, fun other member => ?_,
      fun key stored found => ?_⟩
    · rw [grantedOn_append]
      by_cases same : call.key = key
      · subst same
        rw [Function.update_self, if_pos rfl, ← metered.volume call.key]
        exact adds
      · rw [Function.update_of_ne (Ne.symm same), if_neg same, add_zero]
        exact metered.volume key
    · by_cases same : key = call.key
      · subst same
        rw [Function.update_self, Option.some.injEq] at found
        exact found ▸ fits
      · rw [Function.update_of_ne same] at found
        exact metered.within key stored found
    · by_cases same : other.key = call.key
      · refine ⟨row, by rw [same, Function.update_self], ?_⟩
        rcases List.mem_append.mp member with before | new
        · obtain ⟨old, found, below⟩ := metered.below other before
          exact (keeps old (same ▸ found)).trans below
        · rw [List.mem_singleton.mp new]
          exact lower
      · rcases List.mem_append.mp member with before | new
        · obtain ⟨old, found, below⟩ := metered.below other before
          exact ⟨old, by rw [Function.update_of_ne same]; exact found, below⟩
        · exact absurd (congrArg VolumeCall.key (List.mem_singleton.mp new))
            same
    · by_cases same : key = call.key
      · subst same
        rw [Function.update_self, Option.some.injEq] at found
        subst found
        rcases least with own | ⟨old, found, ceiling⟩
        · exact ⟨call, List.mem_append_right granted List.mem_cons_self, rfl,
            own.symm⟩
        · obtain ⟨other, member, sameKey, attained⟩ :=
            metered.attained call.key old found
          exact ⟨other, List.mem_append_left [call] member, sameKey,
            attained.trans ceiling.symm⟩
      · rw [Function.update_of_ne same] at found
        obtain ⟨other, member, found⟩ := metered.attained key stored found
        exact ⟨other, List.mem_append_left [call] member, found⟩

theorem Metered.grant (metered : Metered rows granted) {backend : Backend}
    (grants : meterBrandVolume backend (rows call.key) call = .ok row) :
    Metered (Function.update rows call.key (some row)) (granted ++ [call]) := by
  obtain ⟨volume, ceiling, fits⟩ := meterBrandVolume_ok grants
  cases found : rows call.key with
  | none =>
      rw [found, Option.map_none, Option.getD_none] at volume ceiling
      refine (metered.update_iff fits ceiling.le (.inl ceiling)).mpr ⟨?_, ?_⟩
      · rw [found]
        exact volume
      · intro old other
        rw [found] at other
        cases other
  | some old =>
      rw [found, Option.map_some, Option.getD_some] at volume ceiling
      have least : row.ceiling = call.ceiling ∨
          ∃ old, rows call.key = some old ∧ row.ceiling = old.ceiling := by
        rcases min_choice call.ceiling old.ceiling with own | theirs
        · exact .inl (ceiling.trans own)
        · exact .inr ⟨old, found, ceiling.trans theirs⟩
      refine (metered.update_iff fits (ceiling.le.trans (min_le_left ..))
        least).mpr ⟨?_, ?_⟩
      · rw [found]
        exact volume
      · intro other same
        obtain rfl : old = other := Option.some.inj (found.symm.trans same)
        exact ceiling.le.trans (min_le_right ..)

theorem Metered.overwrite_iff (metered : Metered rows granted)
    {backend : Backend} {old : VolumeRow}
    (grants : meterBrandVolume backend none call = .ok row)
    (stored : rows call.key = some old) :
    Metered (Function.update rows call.key (some row)) (granted ++ [call]) ↔
      old.volume = 0 ∧ call.ceiling ≤ old.ceiling := by
  obtain ⟨volume, ceiling, fits⟩ := meterBrandVolume_ok grants
  rw [Option.map_none, Option.getD_none] at volume ceiling
  rw [metered.update_iff fits ceiling.le (.inl ceiling), stored, volume,
    ceiling]
  simp only [Option.map_some, Option.getD_some, Option.some.injEq, forall_eq']
  exact and_congr_left fun _ => by omega

end Store

end AcpTask.Spend
