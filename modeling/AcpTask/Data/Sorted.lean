import Mathlib.Data.List.TakeWhile
import AcpTask.Data.Json

namespace AcpTask.Data

namespace Value

/-! What `json.loads` gives back for the text `json.dumps` wrote: the keys of
every dict in order, each once. -/

def InKeyOrder (items : List (String × Value)) : Prop :=
  items.Pairwise fun first second => first.1 < second.1

structure ReadBack (items : List (String × Value)) : Prop where
  ordered : InKeyOrder items
  fixed : ∀ item ∈ items, sortKeys item.2 = item.2

variable {items : List (String × Value)} {key : String}

theorem InKeyOrder.above (ordered : InKeyOrder items) {item : String × Value}
    (member : item ∈ items.dropWhile fun item => decide (item.1 ≤ key)) :
    key < item.1 := by
  induction items with
  | nil => cases member
  | cons head items induction =>
      rw [List.dropWhile_cons] at member
      split at member
      · exact induction ordered.tail member
      · rename_i larger
        have first : key < head.1 := by simpa using larger
        rcases List.mem_cons.mp member with rfl | later
        · exact first
        · exact first.trans (List.rel_of_pairwise_cons ordered later)

theorem below_key {item : String × Value}
    (member : item ∈ items.takeWhile fun item => decide (item.1 < key)) :
    item.1 < key := by
  simpa using List.mem_takeWhile_imp member

theorem InKeyOrder.insertItem (ordered : InKeyOrder items) (key : String)
    (value : Value) :
    InKeyOrder (insertItem items key value) := by
  refine List.pairwise_append.mpr
    ⟨ordered.sublist (List.takeWhile_sublist _), ?_, ?_⟩
  · refine List.pairwise_cons.mpr ⟨fun item member => ordered.above member, ?_⟩
    exact ordered.sublist (List.dropWhile_sublist _)
  · intro first before second after
    have less := below_key before
    rcases List.mem_cons.mp after with rfl | later
    · exact less
    · exact less.trans (ordered.above later)

theorem InKeyOrder.get?_dropWhile (ordered : InKeyOrder items) {other : String}
    (differ : key ≠ other) :
    get? (items.dropWhile fun item => decide (item.1 ≤ key)) other =
      get? (items.dropWhile fun item => decide (item.1 < key)) other := by
  induction items with
  | nil => rfl
  | cons head items induction =>
      rw [List.dropWhile_cons, List.dropWhile_cons]
      rcases lt_trichotomy head.1 key with less | same | larger
      · simpa [less, less.le] using induction ordered.tail
      · have rest : items.dropWhile (fun item => decide (item.1 ≤ key)) =
            items := by
          refine List.dropWhile_eq_self_iff.mpr fun positive => ?_
          have above := List.rel_of_pairwise_cons ordered
            (List.getElem_mem positive)
          simpa [← same] using above
        simp only [same, le_refl, decide_true, if_true, lt_irrefl,
          decide_false, Bool.false_eq_true, if_false, rest]
        rw [← Prod.mk.eta (p := head), get?_cons, if_neg (same ▸ differ),
          Option.or_none]
      · simp [larger.not_gt, larger.not_ge]

theorem InKeyOrder.get?_insertItem (ordered : InKeyOrder items) (key : String)
    (value : Value) (other : String) :
    get? (Value.insertItem items key value) other =
      if key = other then some value else get? items other := by
  unfold Value.insertItem
  rw [get?_append, get?_cons]
  by_cases same : key = other
  · subst same
    have absent : get? (items.dropWhile fun item => decide (item.1 ≤ key))
        key = Option.none :=
      get?_eq_none_iff.mpr fun item member => (ordered.above member).ne'
    simp [absent]
  · rw [if_neg same, if_neg same, Option.or_none, ordered.get?_dropWhile same,
      ← get?_append, List.takeWhile_append_dropWhile]

variable {value : Value}

theorem ReadBack.fixed_of_get? (readBack : ReadBack items)
    (found : get? items key = some value) : sortKeys value = value := by
  unfold get? at found
  obtain ⟨entry, first, rfl⟩ := Option.map_eq_some_iff.mp found
  exact readBack.fixed entry
    (List.mem_reverse.mp (List.mem_of_find?_eq_some first))

theorem ReadBack.insertItem (readBack : ReadBack items) (key : String)
    (fixed : sortKeys value = value) :
    ReadBack (Value.insertItem items key value) := by
  refine ⟨readBack.ordered.insertItem key value, fun item member => ?_⟩
  rcases List.mem_append.mp member with before | rest
  · exact readBack.fixed item ((List.takeWhile_sublist _).mem before)
  · rcases List.mem_cons.mp rest with rfl | after
    · exact fixed
    · exact readBack.fixed item ((List.dropWhile_sublist _).mem after)

theorem InKeyOrder.insertItem_first
    (ordered : InKeyOrder ((key, value) :: items)) :
    Value.insertItem items key value = (key, value) :: items := by
  cases items with
  | nil => rfl
  | cons head =>
      have less : key < head.1 :=
        List.rel_of_pairwise_cons ordered List.mem_cons_self
      simp only [Value.insertItem, List.takeWhile_cons, List.dropWhile_cons,
        less.not_gt, less.not_ge, decide_false, Bool.false_eq_true, if_false,
        List.nil_append]

theorem ReadBack.sortPairs_eq : ∀ {items : List (String × Value)},
    ReadBack items → sortPairs items = items
  | [], _ => rfl
  | (key, value) :: items, readBack => by
      have rest : sortPairs items = items :=
        ReadBack.sortPairs_eq ⟨readBack.ordered.tail, fun item member =>
          readBack.fixed item (List.mem_cons_of_mem _ member)⟩
      have absent : get? items key = Option.none :=
        get?_eq_none_iff.mpr fun item member =>
          (List.rel_of_pairwise_cons readBack.ordered member).ne'
      rw [Value.sortPairs, rest, absent,
        readBack.fixed (key, value) List.mem_cons_self]
      exact readBack.ordered.insertItem_first

mutual
theorem sortKeys_sortKeys : ∀ value : Value,
    sortKeys (sortKeys value) = sortKeys value
  | .list items => by
      rw [sortKeys, sortKeys, sortKeysItems_sortKeysItems items]
  | .dict items => by
      rw [sortKeys, sortKeys, (readBack_sortPairs items).sortPairs_eq]
  | .none | .bool _ | .int _ | .float _ | .str _ | .object _ =>
      by rw [sortKeys, sortKeys]

theorem sortKeysItems_sortKeysItems : ∀ items : List Value,
    sortKeysItems (sortKeysItems items) = sortKeysItems items
  | [] => rfl
  | item :: items => by
      rw [sortKeysItems, sortKeysItems, sortKeys_sortKeys item,
        sortKeysItems_sortKeysItems items]

theorem readBack_sortPairs : ∀ items : List (String × Value),
    ReadBack (sortPairs items)
  | [] => ⟨.nil, fun _ member => by cases member⟩
  | (key, item) :: items => by
      have rest := readBack_sortPairs items
      have fixed := sortKeys_sortKeys item
      rw [sortPairs]
      split
      · exact rest
      · exact rest.insertItem key fixed
end

theorem InKeyOrder.get?_first (ordered : InKeyOrder ((key, value) :: items)) :
    get? items key = Option.none ∧
      get? ((key, value) :: items) key = some value := by
  have absent : get? items key = Option.none :=
    get?_eq_none_iff.mpr fun item member =>
      (List.rel_of_pairwise_cons ordered member).ne'
  rw [get?_cons, absent, if_pos rfl]
  exact ⟨rfl, rfl⟩

theorem InKeyOrder.least {other : String} {found : Value}
    (ordered : InKeyOrder ((key, value) :: items))
    (present : get? ((key, value) :: items) other = some found) :
    key ≤ other := by
  obtain ⟨item, first, _⟩ := Option.map_eq_some_iff.mp present
  have member := List.mem_reverse.mp (List.mem_of_find?_eq_some first)
  have same : item.1 = other := by simpa using List.find?_some first
  rcases List.mem_cons.mp member with rfl | later
  · exact same.le
  · exact same ▸ (List.rel_of_pairwise_cons ordered later).le

theorem dictEquals_iff {first second : List (String × Value)}
    (ordered : InKeyOrder first) (alsoOrdered : InKeyOrder second) :
    dictEquals first second = true ↔ ∀ key,
      Option.Rel (fun left right => equals left right = true)
        (get? first key) (get? second key) := by
  induction first generalizing second with
  | nil =>
      cases second with
      | nil => exact ⟨fun _ _ => .none, fun _ => rfl⟩
      | cons head =>
          refine ⟨fun equal => (by cases equal), fun each => ?_⟩
          have related := each head.1
          rw [alsoOrdered.get?_first.2] at related
          cases related
  | cons head rest induction =>
      obtain ⟨key, left⟩ := head
      have here := ordered.get?_first
      cases second with
      | nil =>
          refine ⟨fun equal => (by cases equal), fun each => ?_⟩
          have related := each key
          rw [here.2] at related
          cases related
      | cons other others =>
          obtain ⟨other, right⟩ := other
          have there := alsoOrdered.get?_first
          have tails : dictEquals rest others = true ↔ _ :=
            induction ordered.tail alsoOrdered.tail
          rw [dictEquals, Bool.and_eq_true, Bool.and_eq_true, beq_iff_eq, tails]
          constructor
          · rintro ⟨⟨rfl, equal⟩, each⟩ name
            rw [get?_cons, get?_cons]
            by_cases same : key = name
            · subst same
              rw [here.1, there.1, if_pos rfl, if_pos rfl]
              exact .some equal
            · rw [if_neg same, if_neg same, Option.or_none, Option.or_none]
              exact each name
          · intro each
            have same : key = other := by
              have atKey := each key
              have atOther := each other
              rw [here.2] at atKey
              rw [there.2] at atOther
              generalize found : get? ((other, right) :: others) key = value
                at atKey
              generalize present : get? ((key, left) :: rest) other = item
                at atOther
              cases atKey
              cases atOther
              exact le_antisymm (ordered.least present)
                (alsoOrdered.least found)
            subst same
            have atKey := each key
            rw [here.2, there.2] at atKey
            refine ⟨⟨rfl, ?_⟩, fun name => ?_⟩
            · cases atKey
              assumption
            · by_cases same : key = name
              · subst same
                rw [here.1, there.1]
                exact .none
              · have related := each name
                rw [get?_cons, get?_cons, if_neg same, if_neg same,
                  Option.or_none, Option.or_none] at related
                exact related

end Value

end AcpTask.Data
