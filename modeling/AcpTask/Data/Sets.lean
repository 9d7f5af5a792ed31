import Mathlib.Algebra.Order.Ring.Rat
import Mathlib.Data.String.Basic
import AcpTask.Data.Value

namespace AcpTask.Data.Value

/-! Python's sets and sorted lists of values read from JSON; `none` is an
exception. -/

/-- `value in items`. -/
def contains (items : List Value) (value : Value) : Bool :=
  items.any fun item => equals value item

def distinct : List Value → List Value
  | [] => []
  | item :: items =>
      item :: (distinct items).filter fun other => !equals item other

/-- `set(value or ())`, in the order of its insertions. -/
def setOf? (value : Value) : Option (List Value) :=
  value.listOr?.bind fun items =>
    if items.all hashable then some (distinct items) else Option.none

def isNumber : Value → Bool
  | .bool _ | .int _ | .float _ => true
  | _ => false

/-- `left < right` of numbers. -/
def numberLess : Value → Value → Bool
  | .float .nan, _ | _, .float .nan => false
  | .float (.infinity negative), .float (.infinity other) => negative && !other
  | .float (.infinity negative), _ => negative
  | _, .float (.infinity negative) => !negative
  | left, right =>
      match number? left, number? right with
      | some worth, some other => decide (worth < other)
      | _, _ => false

/-- `left < right`. -/
def less? : Value → Value → Option Bool
  | .str left, .str right => some (decide (left < right))
  | left, right =>
      if left.isNumber && right.isNumber then some (numberLess left right)
      else Option.none

def insertSorted? (value : Value) : List Value → Option (List Value)
  | [] => some [value]
  | item :: items =>
      (less? value item).bind fun less =>
        if less then some (value :: item :: items)
        else (insertSorted? value items).map (item :: ·)

/-- `sorted(items)`. -/
def sorted? : List Value → Option (List Value)
  | [] => some []
  | item :: items => (sorted? items).bind (insertSorted? item)

/-- `sorted(set(value or ()))`. -/
def sortedSet? (value : Value) : Option (List Value) :=
  value.setOf?.bind sorted?

variable {value : Value} {items : List Value}

theorem mem_insertSorted? {later : List Value}
    (inserted : insertSorted? value items = some later) (other : Value) :
    other ∈ later ↔ other = value ∨ other ∈ items := by
  induction items generalizing later with
  | nil =>
      cases inserted
      simp
  | cons _ _ induction =>
      rw [insertSorted?, Option.bind_eq_some_iff] at inserted
      obtain ⟨_, _, inserted⟩ := inserted
      split at inserted
      · cases inserted
        simp
      · obtain ⟨_, grown, rfl⟩ := Option.map_eq_some_iff.mp inserted
        rw [List.mem_cons, List.mem_cons, induction grown]
        exact or_left_comm

variable {sorted : List Value}

theorem mem_sorted? (sorts : sorted? items = some sorted) (other : Value) :
    other ∈ sorted ↔ other ∈ items := by
  induction items generalizing sorted with
  | nil =>
      cases sorts
      rfl
  | cons _ _ induction =>
      rw [sorted?, Option.bind_eq_some_iff] at sorts
      obtain ⟨_, sorts, inserted⟩ := sorts
      rw [mem_insertSorted? inserted, induction sorts, List.mem_cons]

def isContainer : Value → Bool
  | .list _ | .dict _ => true
  | _ => false

variable {other : Value}

theorem equals_scalar (scalar : value.isContainer = false) :
    equals value other = true ↔
      value ≠ .float .nan ∧ value.number? = other.number? ∧
        (value.number? = Option.none → value = other) := by
  have compared : value ≠ .float .nan → equals value other =
      (decide (number? value = number? other) &&
        ((number? value).isSome || decide (value = other))) := by
    intro number
    cases value with
    | list | dict => cases scalar
    | float value =>
        cases value with
        | nan => exact absurd rfl number
        | _ =>
            simp only [equals]
            cases number? _ <;> cases number? other <;> simp [beq_eq_decide]
    | _ =>
        simp only [equals]
        cases number? _ <;> cases number? other <;> simp [beq_eq_decide]
  by_cases number : value = .float .nan
  · subst number
    simp [equals]
  · rw [compared number]
    cases worth : number? value <;> cases worthToo : number? other <;>
      simp [number]

theorem equals_list_iff :
    equals (.list items) other = true ↔
      ∃ others, other = .list others ∧ listEquals items others = true := by
  cases other with
  | list => simp [equals]
  | float value => cases value <;> simp [equals, number?]
  | _ => simp [equals, number?]

theorem equals_dict_iff {items : List (String × Value)} :
    equals (.dict items) other = true ↔
      ∃ others, other = .dict others ∧ dictEquals items others = true := by
  cases other with
  | dict => simp [equals]
  | float value => cases value <;> simp [equals, number?]
  | _ => simp [equals, number?]

theorem isContainer_of_equals (equal : equals value other = true) :
    value.isContainer = other.isContainer := by
  cases value with
  | list =>
      obtain ⟨_, rfl, _⟩ := equals_list_iff.mp equal
      rfl
  | dict =>
      obtain ⟨_, rfl, _⟩ := equals_dict_iff.mp equal
      rfl
  | _ =>
      obtain ⟨_, worth, same⟩ := (equals_scalar rfl).mp equal
      cases other with
      | list | dict => rw [same (worth.trans rfl)]
      | _ => rfl

theorem equals_of_equals_scalar {first second : Value}
    (scalar : first.isContainer = false) (left : equals first other = true)
    (right : equals second other = true) : equals first second = true := by
  have alsoScalar : second.isContainer = false :=
    (isContainer_of_equals right).trans
      ((isContainer_of_equals left).symm.trans scalar)
  obtain ⟨number, worth, same⟩ := (equals_scalar scalar).mp left
  obtain ⟨_, worthToo, sameToo⟩ := (equals_scalar alsoScalar).mp right
  refine (equals_scalar scalar).mpr
    ⟨number, worth.trans worthToo.symm, fun none => ?_⟩
  exact (same none).trans
    (sameToo (worthToo.trans (worth.symm.trans none))).symm

mutual
theorem equals_of_equals : ∀ {first second other : Value},
    equals first other = true → equals second other = true →
      equals first second = true
  | .list _, second, _, left, right => by
      obtain ⟨_, rfl, each⟩ := equals_list_iff.mp left
      have kind := isContainer_of_equals right
      cases second with
      | list seconds =>
          obtain ⟨_, same, eachToo⟩ := equals_list_iff.mp right
          cases same
          exact equals_list_iff.mpr
            ⟨seconds, rfl, listEquals_of_listEquals each eachToo⟩
      | dict _ =>
          obtain ⟨_, impossible, _⟩ := equals_dict_iff.mp right
          cases impossible
      | _ => cases kind
  | .dict _, second, _, left, right => by
      obtain ⟨_, rfl, each⟩ := equals_dict_iff.mp left
      have kind := isContainer_of_equals right
      cases second with
      | dict seconds =>
          obtain ⟨_, same, eachToo⟩ := equals_dict_iff.mp right
          cases same
          exact equals_dict_iff.mpr
            ⟨seconds, rfl, dictEquals_of_dictEquals each eachToo⟩
      | list _ =>
          obtain ⟨_, impossible, _⟩ := equals_list_iff.mp right
          cases impossible
      | _ => cases kind
  | .none, _, _, left, right | .bool _, _, _, left, right
  | .int _, _, _, left, right | .float _, _, _, left, right
  | .str _, _, _, left, right | .object _, _, _, left, right =>
      equals_of_equals_scalar rfl left right

theorem listEquals_of_listEquals : ∀ {first second other : List Value},
    listEquals first other = true → listEquals second other = true →
      listEquals first second = true
  | [], [], [], _, _ => rfl
  | _ :: _, _ :: _, _ :: _, left, right => by
      rw [listEquals, Bool.and_eq_true] at left right ⊢
      exact ⟨equals_of_equals left.1 right.1,
        listEquals_of_listEquals left.2 right.2⟩
  | [], _ :: _, [], _, right => by cases right
  | _ :: _, [], [], left, _ | [], _, _ :: _, left, _ => by cases left
  | _ :: _, [], _ :: _, _, right => by cases right
  | _ :: _, _ :: _, [], left, _ => by cases left

theorem dictEquals_of_dictEquals :
    ∀ {first second other : List (String × Value)},
      dictEquals first other = true → dictEquals second other = true →
        dictEquals first second = true
  | [], [], [], _, _ => rfl
  | (_, _) :: _, (_, _) :: _, (_, _) :: _, left, right => by
      simp only [dictEquals, Bool.and_eq_true, beq_iff_eq] at left right ⊢
      exact ⟨⟨left.1.1.trans right.1.1.symm,
        equals_of_equals left.1.2 right.1.2⟩,
        dictEquals_of_dictEquals left.2 right.2⟩
  | [], _ :: _, [], _, right => by cases right
  | _ :: _, [], [], left, _ | [], _, _ :: _, left, _ => by cases left
  | _ :: _, [], _ :: _, _, right => by cases right
  | _ :: _, _ :: _, [], left, _ => by cases left
end

theorem equals_symm_scalar (scalar : value.isContainer = false)
    (equal : equals value other = true) :
    equals other value = true := by
  obtain ⟨number, worth, same⟩ := (equals_scalar scalar).mp equal
  refine (equals_scalar ((isContainer_of_equals equal).symm.trans scalar)).mpr
    ⟨?_, worth.symm, fun none => (same (worth.trans none)).symm⟩
  rintro rfl
  exact number (same worth)

mutual
theorem equals_symm : ∀ {value other : Value},
    equals value other = true → equals other value = true
  | .list _, _, equal => by
      obtain ⟨_, rfl, each⟩ := equals_list_iff.mp equal
      exact equals_list_iff.mpr ⟨_, rfl, listEquals_symm each⟩
  | .dict _, _, equal => by
      obtain ⟨_, rfl, each⟩ := equals_dict_iff.mp equal
      exact equals_dict_iff.mpr ⟨_, rfl, dictEquals_symm each⟩
  | .none, _, equal | .bool _, _, equal | .int _, _, equal
  | .float _, _, equal | .str _, _, equal | .object _, _, equal =>
      equals_symm_scalar rfl equal

theorem listEquals_symm : ∀ {items others : List Value},
    listEquals items others = true → listEquals others items = true
  | [], [], _ => rfl
  | _ :: _, _ :: _, each => by
      rw [listEquals, Bool.and_eq_true] at each ⊢
      exact ⟨equals_symm each.1, listEquals_symm each.2⟩
  | [], _ :: _, each | _ :: _, [], each => by cases each

theorem dictEquals_symm : ∀ {items others : List (String × Value)},
    dictEquals items others = true → dictEquals others items = true
  | [], [], _ => rfl
  | (_, _) :: _, (_, _) :: _, each => by
      simp only [dictEquals, Bool.and_eq_true, beq_iff_eq] at each ⊢
      exact ⟨⟨each.1.1.symm, equals_symm each.1.2⟩, dictEquals_symm each.2⟩
  | [], _ :: _, each | _ :: _, [], each => by cases each
end

theorem contains_iff :
    contains items value = true ↔ ∃ item ∈ items, equals value item = true := by
  simp [contains]

theorem contains_distinct (items : List Value) (value : Value) :
    contains (distinct items) value = contains items value := by
  rw [Bool.eq_iff_iff, contains_iff, contains_iff]
  induction items with
  | nil => rfl
  | cons item _ induction =>
      rw [distinct]
      constructor
      · rintro ⟨other, member, equal⟩
        rcases List.mem_cons.mp member with rfl | kept
        · exact ⟨other, List.mem_cons_self, equal⟩
        · obtain ⟨same, found, equally⟩ :=
            induction.mp ⟨other, (List.mem_filter.mp kept).1, equal⟩
          exact ⟨same, List.mem_cons_of_mem _ found, equally⟩
      · rintro ⟨other, member, equal⟩
        rcases List.mem_cons.mp member with rfl | later
        · exact ⟨other, List.mem_cons_self, equal⟩
        · obtain ⟨same, found, equally⟩ := induction.mpr ⟨other, later, equal⟩
          cases first : equals item same with
          | false =>
              exact ⟨same, List.mem_cons_of_mem _
                (List.mem_filter.mpr ⟨found, by simp [first]⟩), equally⟩
          | true =>
              exact ⟨item, List.mem_cons_self, equals_of_equals equally first⟩

theorem contains_sorted? (sorts : sorted? items = some sorted) (value : Value) :
    contains sorted value = contains items value := by
  rw [Bool.eq_iff_iff, contains_iff, contains_iff]
  simp only [mem_sorted? sorts]

theorem contains_setOf? {set : List Value} (made : value.setOf? = some set) :
    ∃ items, value.listOr? = some items ∧
      ∀ item, contains set item = contains items item := by
  unfold setOf? at made
  rw [Option.bind_eq_some_iff] at made
  obtain ⟨items, listed, made⟩ := made
  rw [Option.ite_none_right_eq_some] at made
  obtain ⟨_, made⟩ := made
  cases made
  exact ⟨items, listed, contains_distinct items⟩

theorem contains_sortedSet? (sorts : value.sortedSet? = some sorted) :
    ∃ items, value.listOr? = some items ∧
      ∀ item, contains sorted item = contains items item := by
  unfold sortedSet? at sorts
  rw [Option.bind_eq_some_iff] at sorts
  obtain ⟨_, made, sorts⟩ := sorts
  obtain ⟨items, listed, same⟩ := contains_setOf? made
  exact ⟨items, listed, fun item => (contains_sorted? sorts item).trans
    (same item)⟩

theorem mem_of_mem_distinct {item : Value} (member : item ∈ distinct items) :
    item ∈ items := by
  induction items with
  | nil => exact member
  | cons _ _ induction =>
      rw [distinct] at member
      rcases List.mem_cons.mp member with rfl | kept
      · exact List.mem_cons_self
      · exact List.mem_cons_of_mem _ (induction (List.mem_filter.mp kept).1)

theorem mem_sortedSet? (sorts : value.sortedSet? = some sorted) :
    ∃ items, value.listOr? = some items ∧
      ∀ item ∈ sorted, item ∈ items ∧ item.hashable = true := by
  simp only [sortedSet?, setOf?, Option.bind_eq_some_iff,
    Option.ite_none_right_eq_some, Option.some.injEq] at sorts
  obtain ⟨_, ⟨items, listed, hashed, rfl⟩, sorts⟩ := sorts
  refine ⟨items, listed, fun item member => ?_⟩
  have inside := mem_of_mem_distinct ((mem_sorted? sorts item).mp member)
  exact ⟨inside, List.all_eq_true.mp hashed item inside⟩

end AcpTask.Data.Value
