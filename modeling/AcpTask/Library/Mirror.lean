import AcpTask.Library.Table

namespace AcpTask.Library

universe u v w z

structure RowMap {Row : Type u} {Key : Type v} {Image : Type w}
    {ImageKey : Type z} (keyOf : Row → Key) (imageKeyOf : Image → ImageKey)
    where
  row : Row → Image
  key : Key → ImageKey
  keys_injective : Function.Injective key
  keyOf_row : ∀ old, imageKeyOf (row old) = key (keyOf old)

namespace Table

variable {Row : Type u} {Key : Type v} {Image : Type w} {ImageKey : Type z}
  {keyOf : Row → Key} {imageKeyOf : Image → ImageKey}

def image (table : Table Row keyOf) (reading : RowMap keyOf imageKeyOf) :
    Table Image imageKeyOf where
  rows := table.rows.map reading.row
  primaryKey := by
    have keys : (table.rows.map reading.row).map imageKeyOf =
        (table.rows.map keyOf).map reading.key := by
      rw [List.map_map, List.map_map]
      apply List.map_congr_left
      intro row _
      exact reading.keyOf_row row
    rw [keys]
    exact table.primaryKey.map reading.keys_injective

variable (reading : RowMap keyOf imageKeyOf)

section Updated

variable {table : Table Row keyOf} {condition : Row → Bool}
  {assign : Row → Row} {imageCondition : Image → Bool}
  {imageAssign : Image → Image}
  (keepsKey : ∀ row, keyOf (assign row) = keyOf row)
  (keepsImageKey : ∀ row, imageKeyOf (imageAssign row) = imageKeyOf row)

include keepsKey keepsImageKey

theorem updateWhere_image_iff :
    (table.image reading).updateWhere imageCondition imageAssign
        keepsImageKey =
      (table.updateWhere condition assign keepsKey).image reading ↔
    ∀ row ∈ table,
      (if imageCondition (reading.row row) then
          imageAssign (reading.row row) else reading.row row) =
        reading.row (if condition row then assign row else row) := by
  rw [Table.ext_iff]
  simp only [image, updateWhere, List.map_map]
  exact List.map_inj_left

theorem updateWhere_image
    (sameCondition : ∀ row, imageCondition (reading.row row) = condition row)
    (sameAssign : ∀ row, imageAssign (reading.row row) =
      reading.row (assign row)) :
    (table.image reading).updateWhere imageCondition imageAssign
        keepsImageKey =
      (table.updateWhere condition assign keepsKey).image reading := by
  rw [updateWhere_image_iff]
  intro row _
  rw [sameCondition, sameAssign]
  split <;> rfl

end Updated

theorem isSome_filter_eq_iff {value : Option Row} {read : Row → Image}
    {test : Image → Bool} {other : Row → Bool} :
    ((value.map read).filter test).isSome = (value.filter other).isSome ↔
      ∀ row, value = some row → test (read row) = other row := by
  cases value with
  | none => simp
  | some row =>
      rw [Option.map_some, Option.filter_some, Option.filter_some]
      cases imageHolds : test (read row) <;> cases holds : other row <;>
        simp [imageHolds, holds]

section Keyed

variable [DecidableEq Key] [DecidableEq ImageKey]

theorem find?_image (table : Table Row keyOf) (key : Key) :
    (table.image reading).find? (reading.key key) =
      (table.find? key).map reading.row := by
  cases found : table.find? key with
  | none =>
      rw [find?_eq_none_iff] at found
      rw [Option.map_none, find?_eq_none_iff]
      intro row member same
      obtain ⟨old, oldMember, rfl⟩ := List.mem_map.mp member
      rw [reading.keyOf_row] at same
      exact found old oldMember (reading.keys_injective same)
  | some row =>
      obtain ⟨member, rfl⟩ := find?_eq_some_iff.mp found
      rw [Option.map_some, find?_eq_some_iff]
      exact ⟨List.mem_map_of_mem member, reading.keyOf_row row⟩

theorem insert?_image (table : Table Row keyOf) (row : Row) :
    (table.image reading).insert? (reading.row row) =
      (table.insert? row).map fun result => result.image reading := by
  have lookup := find?_image reading table (keyOf row)
  rw [← reading.keyOf_row] at lookup
  cases inserted : table.insert? row with
  | none =>
      rw [Option.map_none, insert?_eq_none_iff, lookup]
      simpa using insert?_eq_none_iff.mp inserted
  | some =>
      obtain ⟨absent, rows⟩ := insert?_eq_some_iff.mp inserted
      rw [Option.map_some, insert?_eq_some_iff, lookup, absent]
      refine ⟨rfl, ?_⟩
      simp only [image, rows, List.map_append, List.map_singleton]

/-- `UPDATE … WHERE` on the one row of a key, under a guard, beside whether the
guard held. -/
def updateOne (table : Table Row keyOf) (key : Key) (guard : Row → Bool)
    (assign : Row → Row) (keepsKey : ∀ row, keyOf (assign row) = keyOf row) :
    Bool × Table Row keyOf :=
  (((table.find? key).filter guard).isSome,
    table.updateWhere (fun row => decide (keyOf row = key) && guard row)
      assign keepsKey)

variable {table : Table Row keyOf} {guard : Row → Bool} {assign : Row → Row}

theorem updateOne_congr {key : Key} {other : Row → Bool}
    (same : ∀ row, table.find? key = some row → guard row = other row)
    (keepsKey : ∀ row, keyOf (assign row) = keyOf row) :
    table.updateOne key guard assign keepsKey =
      table.updateOne key other assign keepsKey := by
  refine Prod.ext ?_ ?_
  · cases found : table.find? key with
    | none => simp [updateOne, found]
    | some row => simp [updateOne, found, Option.filter_some, same row found]
  · apply Table.ext
    apply List.map_congr_left
    intro row member
    by_cases hit : keyOf row = key
    · simp [same row (find?_eq_some_iff.mpr ⟨member, hit⟩)]
    · simp [hit]

theorem updateOne_of_refused {key : Key}
    (refused : ∀ row, table.find? key = some row → guard row = false)
    (keepsKey : ∀ row, keyOf (assign row) = keyOf row) :
    table.updateOne key guard assign keepsKey = (false, table) := by
  have never : table.updateOne key guard assign keepsKey =
      table.updateOne key (fun _ => false) assign keepsKey :=
    updateOne_congr refused keepsKey
  rw [never]
  simp [updateOne, updateWhere]

theorem updateOne_of_found {key : Key} {row : Row}
    (found : table.find? key = some row) (holds : guard row = true)
    {other : Row → Row} (same : assign row = other row)
    (keepsKey : ∀ row, keyOf (assign row) = keyOf row)
    (otherKeepsKey : ∀ row, keyOf (other row) = keyOf row) :
    table.updateOne key guard assign keepsKey =
      (true, table.updateWhere (fun row => decide (keyOf row = key)) other
        otherKeepsKey) := by
  obtain ⟨member, rfl⟩ := find?_eq_some_iff.mp found
  simp only [updateOne, found, Option.filter, holds, if_true,
    Option.isSome_some, Prod.mk.injEq, true_and]
  apply Table.ext
  apply List.map_congr_left
  intro current currentMember
  by_cases hit : keyOf current = keyOf row
  · obtain rfl := eq_of_key currentMember member hit
    simp [holds, same]
  · simp [hit]

/-- The same update of a table and of its image: it agrees when, on the row of
the key, the two guards do, and the two assignments where they hold. -/
theorem updateOne_image_iff {key : Key}
    (keepsKey : ∀ row, keyOf (assign row) = keyOf row)
    {imageGuard : Image → Bool} {imageAssign : Image → Image}
    (keepsImageKey : ∀ row, imageKeyOf (imageAssign row) = imageKeyOf row) :
    (((table.image reading).updateOne (reading.key key) imageGuard imageAssign
        keepsImageKey).1 = (table.updateOne key guard assign keepsKey).1 ∧
      ((table.image reading).updateOne (reading.key key) imageGuard imageAssign
        keepsImageKey).2 =
        (table.updateOne key guard assign keepsKey).2.image reading) ↔
    ∀ row, table.find? key = some row →
      imageGuard (reading.row row) = guard row ∧
      (guard row = true →
        imageAssign (reading.row row) = reading.row (assign row)) := by
  simp only [updateOne, find?_image, updateWhere_image_iff, reading.keyOf_row,
    reading.keys_injective.eq_iff]
  constructor
  · rintro ⟨sameFlag, sameRows⟩ row found
    have sameGuard := isSome_filter_eq_iff.mp sameFlag row found
    obtain ⟨member, rfl⟩ := find?_eq_some_iff.mp found
    refine ⟨sameGuard, fun holds => ?_⟩
    simpa [sameGuard, holds] using sameRows row member
  · intro same
    constructor
    · exact isSome_filter_eq_iff.mpr fun row found => (same row found).1
    · intro row member
      by_cases hit : keyOf row = key
      · obtain ⟨sameGuard, sameAssign⟩ :=
          same row (find?_eq_some_iff.mpr ⟨member, hit⟩)
        by_cases holds : guard row = true
        · simp [hit, sameGuard, holds, sameAssign holds]
        · simp [sameGuard, holds]
      · simp [hit]

end Keyed

end Table

end AcpTask.Library
