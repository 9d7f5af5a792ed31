import Mathlib.Data.List.Induction
import AcpTask.Library.Items

namespace AcpTask.Library

universe u v w

/-! A loop that makes something of the first row with a key, and of the later
ones with that key from what it made of the first. -/

section FirstOfKey

variable {Row : Type u} {Key : Type v} {Made : Type w} [DecidableEq Key]
  (keyOf : Row → Key) (first : Row → Made) (again : Made → Row → Made)

/-- `seen` has what was made of the first row of each key. -/
def linkFirsts : List (Key × Made) → List Row → List Made
  | _, [] => []
  | seen, row :: rows =>
      match Items.get? seen (keyOf row) with
      | some made => again made row :: linkFirsts seen rows
      | none => first row ::
          linkFirsts (Items.assign (keyOf row) (first row) seen) rows

def firstWith (rows : List Row) (key : Key) : Option Row :=
  rows.find? fun row => decide (keyOf row = key)

def linked (before : List Row) (row : Row) : Made :=
  match firstWith keyOf before (keyOf row) with
  | some earlier => again (first earlier) row
  | none => first row

variable {keyOf first again}

theorem firstWith_append (before rows : List Row) (key : Key) :
    firstWith keyOf (before ++ rows) key =
      (firstWith keyOf before key).or (firstWith keyOf rows key) :=
  List.find?_append

variable {rows : List Row} {key : Key}

theorem firstWith_eq_some {row : Row}
    (found : firstWith keyOf rows key = some row) :
    row ∈ rows ∧ keyOf row = key :=
  ⟨List.mem_of_find?_eq_some found, by simpa using List.find?_some found⟩

theorem firstWith_eq_none_iff :
    firstWith keyOf rows key = none ↔ ∀ row ∈ rows, keyOf row ≠ key := by
  simp [firstWith]

theorem firstWith_eq_none_iff_map :
    firstWith keyOf rows key = none ↔ key ∉ rows.map keyOf := by
  rw [firstWith_eq_none_iff, List.mem_map]
  exact ⟨fun apart ⟨row, member, same⟩ => apart row member same,
    fun absent row member same => absent ⟨row, member, same⟩⟩

theorem firstWith_place {row : Row}
    (found : firstWith keyOf rows key = some row) :
    ∃ place, rows[place]? = some row ∧
      firstWith keyOf (rows.take place) key = none := by
  induction rows with
  | nil => cases found
  | cons head rows induction =>
      by_cases same : keyOf head = key
      · have here : firstWith keyOf (head :: rows) key = some head :=
          List.find?_cons_of_pos (by simpa using same)
        refine ⟨0, ?_, rfl⟩
        rw [← found, here]
        rfl
      · have skip : firstWith keyOf (head :: rows) key =
            firstWith keyOf rows key :=
          List.find?_cons_of_neg (by simpa using same)
        obtain ⟨place, there, none⟩ := induction (skip ▸ found)
        refine ⟨place + 1, there, ?_⟩
        rw [List.take_succ_cons, firstWith_eq_none_iff, List.forall_mem_cons]
        exact ⟨same, firstWith_eq_none_iff.mp none⟩

theorem firstWith_eq_some_iff {row : Row} :
    firstWith keyOf rows key = some row ↔
      ∃ place, rows[place]? = some row ∧ keyOf row = key ∧
        key ∉ (rows.take place).map keyOf := by
  constructor
  · intro found
    obtain ⟨place, here, none⟩ := firstWith_place found
    exact ⟨place, here, (firstWith_eq_some found).2,
      firstWith_eq_none_iff_map.mp none⟩
  · rintro ⟨place, here, same, none⟩
    obtain ⟨inside, rfl⟩ := List.getElem?_eq_some_iff.mp here
    rw [← firstWith_eq_none_iff_map] at none
    conv_lhs => rw [← List.take_append_drop place rows]
    rw [firstWith_append, none, Option.none_or, List.drop_eq_getElem_cons inside]
    exact List.find?_cons_of_pos (by simpa using same)

theorem firstWith_place_of_map {Other : Type w} {otherKey : Other → Key}
    {others : List Other} {row : Row}
    (same : rows.map keyOf = others.map otherKey)
    (found : firstWith keyOf rows key = some row) :
    ∃ place other, rows[place]? = some row ∧ others[place]? = some other ∧
      firstWith otherKey others key = some other ∧
      key ∉ (others.take place).map otherKey := by
  obtain ⟨place, here, rowKey, none⟩ := firstWith_eq_some_iff.mp found
  have there := congrArg (fun keys => keys[place]?) same
  simp only [List.getElem?_map, here, Option.map_some] at there
  obtain ⟨other, otherHere, equal⟩ := Option.map_eq_some_iff.mp there.symm
  rw [List.map_take, same, ← List.map_take] at none
  exact ⟨place, other, here, otherHere, firstWith_eq_some_iff.mpr
    ⟨place, otherHere, equal.trans rowKey, none⟩, none⟩

theorem getElem?_linkFirsts {seen : List (Key × Made)} {before : List Row}
    (known : ∀ key, Items.get? seen key =
      (firstWith keyOf before key).map first)
    (rows : List Row) (place : Nat) :
    (linkFirsts keyOf first again seen rows)[place]? =
      rows[place]?.map
        (linked keyOf first again (before ++ rows.take place)) := by
  induction rows generalizing seen before place with
  | nil => simp [linkFirsts]
  | cons row rows induction =>
      have head : ∀ made, linked keyOf first again before row = made →
          ∀ rest, (∀ place, rest[place]? = rows[place]?.map (linked keyOf first
            again ((before ++ [row]) ++ rows.take place))) →
          (made :: rest)[place]? = (row :: rows)[place]?.map (linked keyOf first
            again (before ++ (row :: rows).take place)) := by
        rintro made rfl rest later
        cases place with
        | zero => simp
        | succ place =>
            rw [List.getElem?_cons_succ, later place]
            simp
      rw [linkFirsts]
      cases found : firstWith keyOf before (keyOf row) with
      | some =>
          rw [known, found]
          apply head
          · rw [linked, found]
          · intro place
            apply induction
            intro key
            rw [known, firstWith_append]
            cases present : firstWith keyOf before key with
            | some => rfl
            | none =>
                rw [Option.none_or, firstWith_eq_none_iff.mpr]
                intro other member same
                rw [List.mem_singleton.mp member] at same
                rw [same, present] at found
                cases found
      | none =>
          rw [known, found]
          apply head
          · rw [linked, found]
          · intro place
            apply induction
            intro key
            rw [Items.get?_assign, known, firstWith_append]
            by_cases same : key = keyOf row
            · rw [if_pos same, same, found]
              simp [firstWith]
            · have absent : firstWith keyOf [row] key = none := by
                rw [firstWith_eq_none_iff]
                intro other member equal
                rw [List.mem_singleton.mp member] at equal
                exact same equal.symm
              rw [if_neg same, absent, Option.or_none]

theorem getElem?_linkFirsts_nil (rows : List Row) (place : Nat) :
    (linkFirsts keyOf first again [] rows)[place]? =
      rows[place]?.map (linked keyOf first again (rows.take place)) := by
  have known : ∀ key, Items.get? ([] : List (Key × Made)) key =
      (firstWith keyOf [] key).map first := fun _ => rfl
  exact getElem?_linkFirsts known rows place

theorem countP_firsts {isFirst : Row → Bool}
    (firsts : ∀ place row, rows[place]? = some row → (isFirst row = true ↔
      keyOf row = key ∧ firstWith keyOf (rows.take place) key = none)) :
    rows.countP isFirst = if firstWith keyOf rows key = none then 0 else 1 := by
  induction rows using List.reverseRecOn with
  | nil => rfl
  | append_singleton rows last induction =>
      have before : ∀ place row, rows[place]? = some row →
          (isFirst row = true ↔ keyOf row = key ∧
            firstWith keyOf (rows.take place) key = none) := by
        intro place row here
        obtain ⟨inside, _⟩ := List.getElem?_eq_some_iff.mp here
        have whole := firsts place row
          ((List.getElem?_append_left inside).trans here)
        rwa [List.take_append_of_le_length (Nat.le_of_lt inside)] at whole
      have isLast := firsts rows.length last List.getElem?_concat_length
      rw [List.take_left] at isLast
      rw [List.countP_append, induction before, firstWith_append,
        List.countP_singleton]
      cases present : firstWith keyOf rows key with
      | some =>
          have notFirst : isFirst last = false := by
            rw [← Bool.not_eq_true, isLast, present]
            simp
          simp [notFirst]
      | none =>
          rw [present, and_iff_left rfl] at isLast
          by_cases same : keyOf last = key
          · simp [isLast.mpr same, firstWith, same]
          · have notFirst : isFirst last = false := by
              rw [← Bool.not_eq_true, isLast]
              exact same
            simp [notFirst, firstWith, same]

end FirstOfKey

end AcpTask.Library
