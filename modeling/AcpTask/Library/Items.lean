import Mathlib.Data.List.Nodup

namespace AcpTask.Library

universe u v

/-! A `dict`: its items in the order of their first assignment. -/

namespace Items

variable {Key : Type u} {Value : Type v} [DecidableEq Key]

/-- `items[key] = value`. -/
def assign (key : Key) (value : Value) :
    List (Key × Value) → List (Key × Value)
  | [] => [(key, value)]
  | item :: rest =>
      if item.1 = key then (key, value) :: rest
      else item :: assign key value rest

/-- `items.get(key)`. -/
def get? (items : List (Key × Value)) (key : Key) : Option Value :=
  (items.find? fun item => decide (item.1 = key)).map Prod.snd

variable {items : List (Key × Value)}

theorem of_mem_assign {key : Key} {value : Value} {item : Key × Value}
    (member : item ∈ assign key value items) :
    item = (key, value) ∨ item ∈ items := by
  induction items with
  | nil => exact .inl (List.mem_singleton.mp member)
  | cons head rest induction =>
      unfold assign at member
      split at member
      · exact (List.mem_cons.mp member).imp_right (.tail _)
      · rcases List.mem_cons.mp member with rfl | later
        · exact .inr (.head _)
        · exact (induction later).imp_right (.tail _)

theorem mem_assign {key : Key} {value : Value}
    (distinct : (items.map Prod.fst).Nodup) {item : Key × Value} :
    item ∈ assign key value items ↔
      item = (key, value) ∨ (item ∈ items ∧ item.1 ≠ key) := by
  induction items with
  | nil => simp [assign]
  | cons head rest induction =>
      rw [List.map_cons, List.nodup_cons] at distinct
      unfold assign
      split
      · rename_i same
        have others : ∀ other ∈ rest, other.1 ≠ key := by
          intro other member equal
          rw [← same] at equal
          exact distinct.1 (List.mem_map.mpr ⟨other, member, equal⟩)
        rw [List.mem_cons, List.mem_cons]
        refine or_congr_right ⟨fun member => ⟨.inr member,
          others item member⟩, ?_⟩
        rintro ⟨rfl | member, apart⟩
        · exact absurd same apart
        · exact member
      · rename_i apart
        rw [List.mem_cons, induction distinct.2, List.mem_cons]
        constructor
        · rintro (rfl | rfl | ⟨member, other⟩)
          · exact .inr ⟨.inl rfl, apart⟩
          · exact .inl rfl
          · exact .inr ⟨.inr member, other⟩
        · rintro (rfl | ⟨rfl | member, other⟩)
          · exact .inr (.inl rfl)
          · exact .inl rfl
          · exact .inr (.inr ⟨member, other⟩)

theorem get?_assign (key other : Key) (value : Value) :
    get? (assign key value items) other =
      if other = key then some value else get? items other := by
  induction items with
  | nil => simp [assign, get?, eq_comm]
  | cons head rest induction =>
      unfold assign
      by_cases same : head.1 = key
      · rw [if_pos same]
        by_cases also : other = key
        · simp [get?, also]
        · have apart : ¬ key = other := fun equal => also equal.symm
          have headApart : ¬ head.1 = other := fun equal =>
            also (equal.symm.trans same)
          simp [get?, also, apart, headApart]
      · rw [if_neg same]
        by_cases here : head.1 = other
        · have apart : ¬ other = key := fun equal => same (here.trans equal)
          simp [get?, here, apart]
        · have skip : get? (head :: assign key value rest) other =
              get? (assign key value rest) other := by
            simp [get?, here]
          have skipped : get? (head :: rest) other = get? rest other := by
            simp [get?, here]
          rw [skip, skipped, induction]

theorem keys_assign (key : Key) (value : Value) :
    (assign key value items).map Prod.fst =
      if key ∈ items.map Prod.fst then items.map Prod.fst
      else items.map Prod.fst ++ [key] := by
  induction items with
  | nil => rfl
  | cons head rest induction =>
      unfold assign
      split
      · rename_i same
        simp [same]
      · rename_i apart
        have other : key ≠ head.1 := fun same => apart same.symm
        rw [List.map_cons, induction]
        simp only [List.map_cons, List.mem_cons, other, false_or]
        split <;> rfl

theorem mem_keys_assign {key other : Key} {value : Value} :
    other ∈ (assign key value items).map Prod.fst ↔
      other = key ∨ other ∈ items.map Prod.fst := by
  rw [keys_assign]
  split
  · rename_i present
    exact ⟨.inr, fun either => either.elim (· ▸ present) id⟩
  · rw [List.mem_append, List.mem_singleton, or_comm]

theorem nodup_assign (distinct : (items.map Prod.fst).Nodup) (key : Key)
    (value : Value) : ((assign key value items).map Prod.fst).Nodup := by
  rw [keys_assign]
  split
  · exact distinct
  · rename_i fresh
    exact List.Nodup.append distinct (List.nodup_singleton key)
      (by simpa using fresh)

theorem get?_eq_some_iff (distinct : (items.map Prod.fst).Nodup) {key : Key}
    {value : Value} : get? items key = some value ↔ (key, value) ∈ items := by
  rw [get?, Option.map_eq_some_iff]
  constructor
  · rintro ⟨⟨other, _⟩, found, rfl⟩
    have fits := List.find?_some found
    have same : other = key := of_decide_eq_true fits
    rw [← same]
    exact List.mem_of_find?_eq_some found
  · intro member
    cases found : items.find? fun item => decide (item.1 = key) with
    | none =>
        have absent := List.find?_eq_none.mp found _ member
        simp at absent
    | some item =>
        have fits := List.find?_some found
        have same : item.1 = key := of_decide_eq_true fits
        have equal := List.inj_on_of_nodup_map distinct
          (List.mem_of_find?_eq_some found) member same
        exact ⟨item, rfl, by rw [equal]⟩

def assignAll (items pairs : List (Key × Value)) : List (Key × Value) :=
  pairs.foldl (fun items pair => assign pair.1 pair.2 items) items

theorem assignAll_spec {pairs : List (Key × Value)}
    (distinct : (items.map Prod.fst).Nodup)
    (agree : ∀ first ∈ items ++ pairs, ∀ second ∈ items ++ pairs,
      first.1 = second.1 → first = second) :
    ((assignAll items pairs).map Prod.fst).Nodup ∧
      ∀ item, item ∈ assignAll items pairs ↔ item ∈ items ∨ item ∈ pairs := by
  induction pairs generalizing items with
  | nil => exact ⟨distinct, fun item => by simp [assignAll]⟩
  | cons pair pairs induction =>
      have here : pair ∈ items ++ pair :: pairs :=
        List.mem_append_right _ List.mem_cons_self
      have assigned : ∀ item, item ∈ assign pair.1 pair.2 items ↔
          item = pair ∨ item ∈ items := by
        intro item
        rw [mem_assign distinct]
        constructor
        · rintro (same | ⟨member, _⟩)
          · exact .inl same
          · exact .inr member
        · rintro (same | member)
          · exact .inl same
          · by_cases same : item.1 = pair.1
            · exact .inl (agree item (List.mem_append_left _ member) pair
                here same)
            · exact .inr ⟨member, same⟩
      have earlier : ∀ item ∈ assign pair.1 pair.2 items ++ pairs,
          item ∈ items ++ pair :: pairs := by
        intro item member
        rw [List.mem_append, assigned] at member
        rw [List.mem_append, List.mem_cons]
        rcases member with (same | old) | later
        · exact .inr (.inl same)
        · exact .inl old
        · exact .inr (.inr later)
      obtain ⟨nodup, members⟩ := induction
        (nodup_assign distinct pair.1 pair.2)
        fun first member second also =>
          agree first (earlier first member) second (earlier second also)
      refine ⟨nodup, fun item => (members item).trans ?_⟩
      rw [assigned, List.mem_cons, or_comm (a := item = pair), or_assoc]

end Items

end AcpTask.Library
