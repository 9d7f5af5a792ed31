import Mathlib.Data.List.Nodup
import Mathlib.Algebra.BigOperators.Group.List.Basic
import Mathlib.Tactic.Abel

namespace AcpTask.Library

universe u v

@[ext] structure Table (Row : Type u) {Key : Type v} (keyOf : Row → Key) where
  rows : List Row
  primaryKey : (rows.map keyOf).Nodup

namespace Table

variable {Row : Type u} {Key : Type v} {keyOf : Row → Key}

instance [DecidableEq Row] : DecidableEq (Table Row keyOf) :=
  fun left right => decidable_of_iff (left.rows = right.rows)
    ⟨fun equal => Table.ext equal, fun equal => congrArg rows equal⟩

instance : Membership Row (Table Row keyOf) := ⟨fun table row => row ∈ table.rows⟩

variable {table : Table Row keyOf}

theorem mem_def {row : Row} :
    row ∈ table ↔ row ∈ table.rows := Iff.rfl

def empty : Table Row keyOf := ⟨[], List.nodup_nil⟩

@[simp] theorem not_mem_empty (row : Row) :
    row ∉ (empty : Table Row keyOf) := List.not_mem_nil

theorem eq_of_key {left right : Row} (leftMember : left ∈ table)
    (rightMember : right ∈ table) (sameKey : keyOf left = keyOf right) :
    left = right :=
  List.inj_on_of_nodup_map table.primaryKey leftMember rightMember sameKey

section Update

/-- `UPDATE … SET assign WHERE condition`, for an assignment that leaves the
primary key alone. -/
def updateWhere (table : Table Row keyOf) (condition : Row → Bool)
    (assign : Row → Row) (keepsKey : ∀ row, keyOf (assign row) = keyOf row) :
    Table Row keyOf where
  rows := table.rows.map fun row => if condition row then assign row else row
  primaryKey := by
    have sameKeys : (table.rows.map fun row =>
        if condition row then assign row else row).map keyOf =
          table.rows.map keyOf := by
      rw [List.map_map]
      apply List.map_congr_left
      intro row _
      by_cases selected : condition row <;> simp [selected, keepsKey]
    rw [sameKeys]
    exact table.primaryKey

variable (table : Table Row keyOf) (condition : Row → Bool)
  (assign : Row → Row) (keepsKey : ∀ row, keyOf (assign row) = keyOf row)

theorem mem_updateWhere {row : Row} :
    row ∈ table.updateWhere condition assign keepsKey ↔
      ∃ old ∈ table, (if condition old then assign old else old) = row := by
  simp [mem_def, updateWhere]

theorem updateWhere_eq_self
    (same : ∀ row ∈ table, condition row = true → assign row = row) :
    table.updateWhere condition assign keepsKey = table := by
  refine Table.ext ((List.map_congr_left fun row member => ?_).trans
    (List.map_id table.rows))
  split
  next selected => exact same row member selected
  next => rfl

end Update

/-- `DELETE … WHERE condition`. -/
def deleteWhere (table : Table Row keyOf) (condition : Row → Bool) :
    Table Row keyOf where
  rows := table.rows.filter fun row => !condition row
  primaryKey := table.primaryKey.sublist (List.filter_sublist.map keyOf)

theorem mem_deleteWhere {condition : Row → Bool} {row : Row} :
    row ∈ table.deleteWhere condition ↔
      row ∈ table ∧ condition row = false := by
  simp [mem_def, deleteWhere]

theorem deleteWhere_updateWhere_eq_iff {condition : Row → Bool}
    {assign : Row → Row} (keepsKey : ∀ row, keyOf (assign row) = keyOf row)
    {drop : Row → Bool} (keepsDrop : ∀ row, drop (assign row) = drop row) :
    (table.updateWhere condition assign keepsKey).deleteWhere drop =
        table.deleteWhere drop ↔
      ∀ row ∈ table, drop row = false → condition row = true →
        assign row = row := by
  have updated : ∀ row, drop (if condition row then assign row else row) =
      drop row := by
    intro row
    split
    · exact keepsDrop row
    · rfl
  simp only [Table.ext_iff, deleteWhere, updateWhere, mem_def]
  generalize table.rows = rows
  induction rows with
  | nil => simp
  | cons row _ induction =>
      rw [List.map_cons, List.forall_mem_cons]
      refine Iff.trans ?_ (and_congr_right fun _ => induction)
      cases dropped : drop row with
      | true => simp [updated, dropped]
      | false =>
          rw [List.filter_cons_of_pos (by simp [updated, dropped]),
            List.filter_cons_of_pos (by simp [dropped]), List.cons.injEq]
          by_cases selected : condition row = true <;> simp [selected]

theorem any_rows_split (table : Table Row keyOf)
    (condition test : Row → Bool) :
    table.rows.any test =
      ((table.deleteWhere condition).rows.any test ||
        (table.deleteWhere fun row => !condition row).rows.any test) := by
  simp only [deleteWhere]
  generalize table.rows = rows
  induction rows with
  | nil => rfl
  | cons row _ induction =>
      cases selected : condition row <;>
        simp [selected, induction, Bool.or_assoc, Bool.or_left_comm]

section Keyed

variable [DecidableEq Key]

def find? (table : Table Row keyOf) (key : Key) : Option Row :=
  table.rows.find? fun row => decide (keyOf row = key)

variable {table : Table Row keyOf} {row : Row}

theorem find?_eq_some_iff {key : Key} :
    table.find? key = some row ↔ row ∈ table ∧ keyOf row = key := by
  constructor
  · intro found
    exact ⟨List.mem_of_find?_eq_some found, by
      simpa using List.find?_some found⟩
  · rintro ⟨member, rfl⟩
    cases found : table.find? (keyOf row) with
    | none =>
        have absent := List.find?_eq_none.mp found row member
        simp at absent
    | some other =>
        have otherKey : keyOf other = keyOf row := by
          simpa using List.find?_some found
        exact congrArg some
          (eq_of_key (List.mem_of_find?_eq_some found) member otherKey)

theorem find?_eq_none_iff {key : Key} :
    table.find? key = none ↔ ∀ row ∈ table, keyOf row ≠ key := by
  simp [find?, mem_def]

@[simp] theorem find?_updateWhere (table : Table Row keyOf)
    (condition : Row → Bool) (assign : Row → Row)
    (keepsKey : ∀ row, keyOf (assign row) = keyOf row) (key : Key) :
    (table.updateWhere condition assign keepsKey).find? key =
      (table.find? key).map fun row =>
        if condition row then assign row else row := by
  cases found : table.find? key with
  | none =>
      rw [Option.map_none, find?_eq_none_iff]
      intro row member
      obtain ⟨old, oldMember, rfl⟩ := (mem_updateWhere ..).mp member
      have absent := find?_eq_none_iff.mp found old oldMember
      by_cases selected : condition old <;> simpa [selected, keepsKey]
  | some old =>
      obtain ⟨oldMember, rfl⟩ := find?_eq_some_iff.mp found
      rw [Option.map_some, find?_eq_some_iff]
      refine ⟨(mem_updateWhere ..).mpr ⟨old, oldMember, rfl⟩, ?_⟩
      by_cases selected : condition old <;> simp [selected, keepsKey]

theorem find?_updateWhere_key (table : Table Row keyOf) (key : Key)
    (assign : Row → Row) (keepsKey : ∀ row, keyOf (assign row) = keyOf row)
    (other : Key) :
    (table.updateWhere (fun row => decide (keyOf row = key)) assign
        keepsKey).find? other =
      if other = key then (table.find? other).map assign
      else table.find? other := by
  rw [find?_updateWhere]
  cases found : table.find? other with
  | none => simp
  | some =>
      obtain ⟨_, rfl⟩ := find?_eq_some_iff.mp found
      simp only [Option.map_some, decide_eq_true_eq]
      split <;> rfl

/-- `INSERT`, refused when the primary key is taken. -/
def insert? (table : Table Row keyOf) (row : Row) : Option (Table Row keyOf) :=
  if fresh : keyOf row ∈ table.rows.map keyOf then none
  else some {
    rows := table.rows ++ [row]
    primaryKey := by
      rw [List.map_append, List.map_singleton]
      exact List.Nodup.append table.primaryKey (List.nodup_singleton _)
        (by simpa using fresh) }

variable {result : Table Row keyOf}

theorem insert?_eq_some_iff :
    table.insert? row = some result ↔
      table.find? (keyOf row) = none ∧ result.rows = table.rows ++ [row] := by
  have absentIff : keyOf row ∉ table.rows.map keyOf ↔
      table.find? (keyOf row) = none := by
    rw [find?_eq_none_iff]
    simp [mem_def]
  by_cases taken : keyOf row ∈ table.rows.map keyOf
  · simp [insert?, taken, ← absentIff]
  · rw [insert?, dif_neg taken, Option.some.injEq]
    refine ⟨fun equal => ⟨absentIff.mp taken, by rw [← equal]⟩, ?_⟩
    rintro ⟨_, rows⟩
    exact Table.ext rows.symm

theorem insert?_eq_none_iff :
    table.insert? row = none ↔ table.find? (keyOf row) ≠ none := by
  rw [ne_eq, find?_eq_none_iff]
  simp [insert?, mem_def]

theorem mem_of_insert? (inserted : table.insert? row = some result)
    {other : Row} :
    other ∈ result ↔ other ∈ table ∨ other = row := by
  rw [mem_def, (insert?_eq_some_iff.mp inserted).2, List.mem_append,
    List.mem_singleton, mem_def]

theorem insert?_keeps (inserted : table.insert? row = some result) {key : Key}
    {old : Row} (found : table.find? key = some old) :
    result.find? key = some old := by
  obtain ⟨member, rfl⟩ := find?_eq_some_iff.mp found
  exact find?_eq_some_iff.mpr
    ⟨(mem_of_insert? inserted).mpr (.inl member), rfl⟩

theorem find?_of_insert? (inserted : table.insert? row = some result)
    (key : Key) :
    result.find? key =
      if keyOf row = key then some row else table.find? key := by
  by_cases same : keyOf row = key
  · rw [if_pos same, find?_eq_some_iff]
    exact ⟨(mem_of_insert? inserted).mpr (.inr rfl), same⟩
  · rw [if_neg same]
    cases found : table.find? key with
    | none =>
        rw [find?_eq_none_iff] at found ⊢
        intro other member
        rcases (mem_of_insert? inserted).mp member with old | rfl
        · exact found other old
        · exact same
    | some => exact insert?_keeps inserted found

theorem find?_of_insert?_self (inserted : table.insert? row = some result) :
    result.find? (keyOf row) = some row := by
  rw [find?_of_insert? inserted, if_pos rfl]

/-- `INSERT … ON CONFLICT DO UPDATE SET assign`. -/
def upsert (table : Table Row keyOf) (row : Row) (assign : Row → Row)
    (keepsKey : ∀ row, keyOf (assign row) = keyOf row) : Table Row keyOf :=
  match table.insert? row with
  | some inserted => inserted
  | none => table.updateWhere (fun other => decide (keyOf other = keyOf row))
      assign keepsKey

theorem find?_upsert (table : Table Row keyOf) (row : Row)
    (assign : Row → Row) (keepsKey : ∀ row, keyOf (assign row) = keyOf row)
    (key : Key) :
    (table.upsert row assign keepsKey).find? key =
      if keyOf row = key then some ((table.find? key).elim row assign)
      else table.find? key := by
  unfold upsert
  split
  · rename_i inserted found
    have absent := (insert?_eq_some_iff.mp found).1
    rw [find?_of_insert? found]
    split
    · rename_i same
      rw [← same, absent]
      rfl
    · rfl
  · rename_i taken
    obtain ⟨old, found⟩ := Option.ne_none_iff_exists'.mp
      (insert?_eq_none_iff.mp taken)
    rw [find?_updateWhere_key]
    by_cases same : keyOf row = key
    · subst same
      rw [if_pos rfl, if_pos rfl, found]
      rfl
    · rw [if_neg (Ne.symm same), if_neg same]

theorem mem_iff_find? :
    row ∈ table ↔ table.find? (keyOf row) = some row := by
  rw [find?_eq_some_iff, and_iff_left rfl]

theorem mem_upsert {assign : Row → Row}
    {keepsKey : ∀ row, keyOf (assign row) = keyOf row} {other : Row} :
    other ∈ table.upsert row assign keepsKey ↔
      other = (table.find? (keyOf row)).elim row assign ∨
        (keyOf other ≠ keyOf row ∧ other ∈ table) := by
  have written : keyOf ((table.find? (keyOf row)).elim row assign) =
      keyOf row := by
    cases found : table.find? (keyOf row) with
    | none => rfl
    | some old => exact (keepsKey old).trans (find?_eq_some_iff.mp found).2
  rw [mem_iff_find?, find?_upsert]
  by_cases same : keyOf row = keyOf other
  · rw [if_pos same, ← same, Option.some.injEq]
    constructor
    · exact fun equal => .inl equal.symm
    · rintro (rfl | ⟨apart, _⟩)
      · rfl
      · exact absurd rfl apart
  · rw [if_neg same, ← mem_iff_find?]
    constructor
    · exact fun member => .inr ⟨Ne.symm same, member⟩
    · rintro (rfl | ⟨_, member⟩)
      · exact absurd written.symm same
      · exact member

/-- One `UPDATE` for each of a list of primary keys, in turn. -/
def updateKeys (table : Table Row keyOf) (keys : List Key)
    (assign : Row → Row) (keepsKey : ∀ row, keyOf (assign row) = keyOf row) :
    Table Row keyOf :=
  keys.foldl (fun table key =>
    table.updateWhere (fun row => decide (keyOf row = key)) assign keepsKey)
    table

theorem find?_updateKeys (table : Table Row keyOf) (keys : List Key)
    (distinct : keys.Nodup) (assign : Row → Row)
    (keepsKey : ∀ row, keyOf (assign row) = keyOf row) (key : Key) :
    (table.updateKeys keys assign keepsKey).find? key =
      if key ∈ keys then (table.find? key).map assign
      else table.find? key := by
  induction keys generalizing table with
  | nil => simp [updateKeys]
  | cons head tail induction =>
      obtain ⟨headFresh, tailDistinct⟩ := List.nodup_cons.mp distinct
      have step := induction
        (table.updateWhere (fun row => decide (keyOf row = head)) assign
          keepsKey) tailDistinct
      rw [updateKeys, List.foldl_cons, ← updateKeys, step, find?_updateWhere]
      cases found : table.find? key with
      | none => simp
      | some =>
          obtain ⟨_, rowKey⟩ := find?_eq_some_iff.mp found
          by_cases same : key = head
          · subst same
            simp [headFresh, rowKey]
          · by_cases later : key ∈ tail <;> simp [same, later, rowKey]

end Keyed

section Sum

variable [DecidableEq Key] {Amount : Type*} [AddCommGroup Amount]

theorem sum_updateWhere_key {table : Table Row keyOf} {key : Key} {row : Row}
    (found : table.find? key = some row) (assign : Row → Row)
    (keepsKey : ∀ row, keyOf (assign row) = keyOf row)
    (share : Row → Amount) :
    ((table.updateWhere (fun row => decide (keyOf row = key)) assign
        keepsKey).rows.map share).sum =
      (table.rows.map share).sum + (share (assign row) - share row) := by
  obtain ⟨member, rfl⟩ := find?_eq_some_iff.mp found
  have distinct := table.primaryKey
  simp only [updateWhere, List.map_map]
  rw [mem_def] at member
  clear found
  generalize table.rows = rows at member distinct
  induction rows with
  | nil => exact absurd member List.not_mem_nil
  | cons head tail induction =>
      rw [List.map_cons, List.nodup_cons] at distinct
      rcases List.mem_cons.mp member with rfl | tailMember
      · have others : ∀ other ∈ tail, keyOf other ≠ keyOf row := by
          intro other otherMember same
          exact distinct.1 (List.mem_map.mpr ⟨other, otherMember, same⟩)
        have unchanged : tail.map (share ∘ fun other =>
            if decide (keyOf other = keyOf row) then assign other else other) =
              tail.map share := by
          apply List.map_congr_left
          intro other otherMember
          simp [others other otherMember]
        rw [List.map_cons, List.sum_cons, unchanged, List.map_cons,
          List.sum_cons]
        simp only [Function.comp, decide_true, if_true]
        abel
      · have headKey : keyOf head ≠ keyOf row := fun same =>
          distinct.1 (List.mem_map.mpr ⟨row, tailMember, same.symm⟩)
        rw [List.map_cons, List.sum_cons, induction tailMember distinct.2,
          List.map_cons, List.sum_cons]
        simp only [Function.comp, headKey, decide_false, Bool.false_eq_true,
          if_false]
        abel

end Sum

end Table

end AcpTask.Library
