import AcpTask.Data.Sorted
import AcpTask.Planner.References
import AcpTask.Workflow.Executor

namespace AcpTask.Workflow

open Data
open Data.Value (get? equals sortKeys sortPairs)
open Library

/-! What the dispatcher compares a step's input with, before it hands the step
to the broker: the input as it was approved. -/

mutual
/-- `None` in a value at each position where the template holds a reference. -/
def blankReferences : Value → Value → Value
  | .dict items, value =>
      if isReference items then .none
      else match value with
        | .dict others => .dict (blankItems items others)
        | other => other
  | .list items, value =>
      match value with
      | .list others => .list (blankList items others)
      | other => other
  | .none, value => value
  | .bool _, value => value
  | .int _, value => value
  | .float _, value => value
  | .str _, value => value
  | .object _, value => value

def blankItems : List (String × Value) → List (String × Value) →
    List (String × Value)
  | [], others => others
  | (key, item) :: items, others =>
      if (get? items key).isSome then blankItems items others
      else (blankItems items others).map fun other =>
        if other.1 = key then (key, blankReferences item other.2) else other

def blankList : List Value → List Value → List Value
  | item :: items, other :: others =>
      blankReferences item other :: blankList items others
  | _, others => others
end

def EqualOutsideReferences (template value : Value) : Prop :=
  equals (sortKeys (blankReferences template template))
    (sortKeys (blankReferences template value)) = true

mutual
/-- Outside its references the template holds a `NaN`, which is not equal to
itself. -/
def nanOutsideReferences : Value → Bool
  | .float .nan => true
  | .dict items => !isReference items && nanInItems items
  | .list items => nanInList items
  | _ => false

def nanInItems : List (String × Value) → Bool
  | [] => false
  | (key, item) :: items =>
      (!(get? items key).isSome && nanOutsideReferences item) ||
        nanInItems items

def nanInList : List Value → Bool
  | [] => false
  | item :: items => nanOutsideReferences item || nanInList items
end

variable {items : List (String × Value)}

theorem get?_map_key {key : String} (change : Value → Value) (other : String) :
    get? (items.map fun item =>
        if item.1 = key then (key, change item.2) else item) other =
      if key = other then (get? items other).map change
      else get? items other := by
  induction items with
  | nil => simp [get?]
  | cons item _ induction =>
      obtain ⟨name, _⟩ := item
      rw [List.map_cons]
      by_cases same : name = key
      · subst same
        rw [if_pos rfl, Value.get?_cons, Value.get?_cons, induction]
        by_cases here : name = other
        · rw [if_pos here, if_pos here, if_pos here, if_pos here, Option.map_or]
          rfl
        · simp [here]
      · rw [if_neg same, Value.get?_cons, Value.get?_cons, induction]
        by_cases here : key = other
        · simp [here, here ▸ same]
        · simp [here]

theorem get?_blankItems (items others : List (String × Value)) (key : String) :
    get? (blankItems items others) key = match get? items key with
      | some item => (get? others key).map (blankReferences item)
      | none => get? others key := by
  induction items with
  | nil => rfl
  | cons entry items induction =>
      obtain ⟨name, _⟩ := entry
      rw [blankItems, Value.get?_cons]
      cases present : get? items name with
      | some =>
          rw [Option.isSome_some, if_pos rfl, induction]
          by_cases same : name = key
          · subst same
            rw [present, Option.some_or]
          · rw [if_neg same, Option.or_none]
      | none =>
          rw [Option.isSome_none, if_neg Bool.false_ne_true, get?_map_key,
            induction]
          by_cases same : name = key
          · subst same
            simp [present]
          · simp [same]

theorem rel_map_iff {related : Value → Value → Prop} {change : Value → Value}
    {first second : Option Value} :
    Option.Rel related (first.map change) (second.map change) ↔
      Option.Rel (fun left right => related (change left) (change right))
        first second := by
  constructor
  · intro rel
    cases first <;> cases second <;> cases rel
    · exact .none
    · rename_i here
      exact .some here
  · intro rel
    cases rel with
    | none => exact .none
    | some here => exact .some here

variable {others : List (String × Value)}

theorem equals_dict :
    equals (sortKeys (.dict items)) (sortKeys (.dict others)) = true ↔
      ∀ key, Option.Rel
        (fun left right => equals (sortKeys left) (sortKeys right) = true)
        (get? items key) (get? others key) := by
  rw [sortKeys, sortKeys, equals, Value.dictEquals_iff
    (Value.readBack_sortPairs items).ordered
    (Value.readBack_sortPairs others).ordered]
  refine forall_congr' fun key => ?_
  rw [Value.get?_sortPairs, Value.get?_sortPairs, rel_map_iff]

theorem equals_scalar_sortKeys {scalar : Value}
    (plain : scalar.isContainer = false) (value : Value) :
    equals scalar (sortKeys value) = equals scalar value := by
  have worth : (sortKeys value).number? = value.number? := by
    cases value <;> rw [sortKeys] <;> rfl
  have notList : ∀ items, scalar ≠ .list items := by
    rintro items rfl
    cases plain
  have notDict : ∀ items, scalar ≠ .dict items := by
    rintro items rfl
    cases plain
  have same : scalar = sortKeys value ↔ scalar = value := by
    cases value with
    | list => rw [sortKeys]; simp [notList]
    | dict => rw [sortKeys]; simp [notDict]
    | _ => rw [sortKeys]
  rw [Bool.eq_iff_iff, Value.equals_scalar plain, Value.equals_scalar plain,
    worth, same]

theorem not_equals_of_isContainer {left right : Value}
    (differ : left.isContainer ≠ right.isContainer) :
    ¬ equals left right = true := fun equal =>
  differ (Value.isContainer_of_equals equal)

theorem isContainer_sortKeys (value : Value) :
    (sortKeys value).isContainer = value.isContainer := by
  cases value <;> rw [sortKeys] <;> rfl

theorem sameKeys_iff :
    sameKeys items others = true ↔
      ∀ key, (get? items key).isSome = (get? others key).isSome := by
  have found : ∀ {items : List (String × Value)} {key : String},
      (get? items key).isSome = true ↔ ∃ item ∈ items, item.1 = key := by
    intro items key
    rw [← not_iff_not, Option.not_isSome_iff_eq_none, Value.get?_eq_none_iff]
    push Not
    rfl
  rw [sameKeys, Bool.and_eq_true, List.all_eq_true, List.all_eq_true]
  constructor
  · rintro ⟨left, right⟩ key
    rw [Bool.eq_iff_iff, found, found]
    constructor
    · rintro ⟨item, member, rfl⟩
      exact found.mp (left item member)
    · rintro ⟨other, member, rfl⟩
      exact found.mp (right other member)
  · intro same
    exact ⟨fun item member => same item.1 ▸ found.mpr ⟨item, member, rfl⟩,
      fun other member => same other.1 ▸ found.mpr ⟨other, member, rfl⟩⟩

theorem equals_blankItems :
    equals (sortKeys (.dict (blankItems items items)))
        (sortKeys (.dict (blankItems items others))) = true ↔
      (∀ key, (get? items key).isSome = (get? others key).isSome) ∧
        ∀ key item, get? items key = some item →
          ∃ other, get? others key = some other ∧
            EqualOutsideReferences item other := by
  rw [equals_dict]
  constructor
  · intro each
    constructor
    · intro key
      have related := each key
      rw [get?_blankItems, get?_blankItems] at related
      cases here : get? items key <;> cases there : get? others key <;>
        simp only [here, there] at related <;>
        first | rfl | cases related
    · intro key item here
      have related := each key
      rw [get?_blankItems, get?_blankItems, here] at related
      cases there : get? others key with
      | none =>
          rw [there] at related
          cases related
      | some other =>
          rw [there] at related
          cases related with
          | some equal => exact ⟨other, rfl, equal⟩
  · rintro ⟨same, each⟩ key
    rw [get?_blankItems, get?_blankItems]
    cases here : get? items key with
    | none =>
        have absent := same key
        rw [here] at absent
        cases there : get? others key with
        | none => exact .none
        | some =>
            rw [there] at absent
            cases absent
    | some item =>
        obtain ⟨_, there, equal⟩ := each key item here
        rw [there]
        exact .some equal

theorem matchesApprovedTemplate_scalar {scalar : Value}
    (plain : scalar.isContainer = false) (value : Value) :
    matchesApprovedTemplate scalar value = equals scalar value ∧
      blankReferences scalar value = value ∧ sortKeys scalar = scalar := by
  cases scalar with
  | list | dict => cases plain
  | _ => exact ⟨rfl, rfl, by rw [sortKeys]⟩

theorem matches_scalar_iff {scalar : Value}
    (plain : scalar.isContainer = false) (value : Value) :
    matchesApprovedTemplate scalar value = true ↔
      EqualOutsideReferences scalar value := by
  obtain ⟨compared, kept, fixed⟩ := matchesApprovedTemplate_scalar plain value
  obtain ⟨_, itself, _⟩ := matchesApprovedTemplate_scalar plain scalar
  unfold EqualOutsideReferences
  rw [compared, kept, itself, fixed, equals_scalar_sortKeys plain]

mutual
theorem matchesApprovedTemplate_iff : ∀ template value : Value,
    matchesApprovedTemplate template value = true ↔
      EqualOutsideReferences template value
  | .dict items, value => by
      unfold EqualOutsideReferences
      cases reference : isReference items with
      | true =>
          simp [matchesApprovedTemplate, blankReferences, reference, sortKeys,
            equals, Value.number?]
      | false =>
          cases value with
          | dict others =>
              simp only [matchesApprovedTemplate, blankReferences, reference,
                Bool.false_eq_true, if_false, Bool.and_eq_true]
              rw [equals_blankItems, sameKeys_iff,
                matchesItems_iff items others]
          | list =>
              simp [matchesApprovedTemplate, blankReferences, reference,
                sortKeys, equals, Value.number?]
          | _ =>
              simp only [matchesApprovedTemplate, blankReferences, reference,
                Bool.false_eq_true, if_false, false_iff]
              refine not_equals_of_isContainer fun same => ?_
              rw [isContainer_sortKeys, isContainer_sortKeys] at same
              cases same
  | .list items, value => by
      unfold EqualOutsideReferences
      cases value with
      | list others =>
          simp only [matchesApprovedTemplate, blankReferences, Bool.and_eq_true,
            beq_iff_eq, sortKeys, equals]
          exact matchesList_iff items others
      | dict =>
          simp [matchesApprovedTemplate, blankReferences, sortKeys, equals,
            Value.number?]
      | _ =>
          simp only [matchesApprovedTemplate, blankReferences,
            Bool.false_eq_true, false_iff]
          refine not_equals_of_isContainer fun same => ?_
          rw [isContainer_sortKeys, isContainer_sortKeys] at same
          cases same
  | .none, value | .bool _, value | .int _, value | .float _, value
  | .str _, value | .object _, value => matches_scalar_iff rfl value

theorem matchesItems_iff : ∀ items others : List (String × Value),
    matchesItems items others = true ↔
      ∀ key item, get? items key = some item →
        ∃ other, get? others key = some other ∧
          EqualOutsideReferences item other
  | [], others => by simp [matchesItems, get?]
  | (name, item) :: items, others => by
      have rest := matchesItems_iff items others
      have here : ∀ other, matchesApprovedTemplate item other = true ↔ _ :=
        matchesApprovedTemplate_iff item
      rw [matchesItems, Bool.and_eq_true, rest]
      constructor
      · rintro ⟨first, each⟩ key found present
        rw [Value.get?_cons] at present
        cases later : get? items key with
        | some =>
            rw [later, Option.some_or] at present
            exact each key found (later.trans present)
        | none =>
            rw [later, Option.none_or] at present
            split at present
            · rename_i same
              subst same
              cases present
              cases there : get? others name with
              | none => simp [later, there] at first
              | some other =>
                  simp only [later, Option.isSome_none, Bool.false_eq_true,
                    if_false, there] at first
                  exact ⟨other, rfl, (here other).mp first⟩
            · cases present
      · intro each
        constructor
        · cases later : get? items name with
          | some => rfl
          | none =>
              obtain ⟨other, there, equal⟩ := each name item
                (by rw [Value.get?_cons, later, if_pos rfl]; rfl)
              simp [there, (here other).mpr equal]
        · intro key found present
          exact each key found
            (by rw [Value.get?_cons, present, Option.some_or])

theorem matchesList_iff : ∀ items others : List Value,
    items.length = others.length ∧ matchesList items others = true ↔
      Value.listEquals (Value.sortKeysItems (blankList items items))
        (Value.sortKeysItems (blankList items others)) = true
  | [], [] => by
      simp [matchesList, blankList, Value.sortKeysItems, Value.listEquals]
  | [], other :: others | item :: items, [] => by
      simp [blankList, Value.sortKeysItems, Value.listEquals]
  | item :: items, other :: others => by
      have here := matchesApprovedTemplate_iff item other
      unfold EqualOutsideReferences at here
      simp only [matchesList, blankList, Value.sortKeysItems, Value.listEquals,
        Bool.and_eq_true, List.length_cons, Nat.add_right_cancel_iff,
        ← matchesList_iff items others, here]
      tauto
end

section Resolved

variable {material : Material}

theorem resolveInput_dict (items : List (String × Value)) :
    resolveInput material (.dict items) =
      if isReference items then
        resolveReference material (Value.lookup items "$ref")
      else resolveItems material items >>= fun resolved =>
        pure (.dict resolved) := by
  rw [resolveInput]
  rfl

theorem resolveItems_get? : ∀ {items others : List (String × Value)},
    resolveItems material items = .ok others → ∀ key, Option.Rel
      (fun item other => resolveInput material item = .ok other)
      (get? items key) (get? others key)
  | [], others, resolved, key => by
      cases resolved
      exact .none
  | (name, item) :: items, others, resolved, key => by
      rw [resolveItems] at resolved
      obtain ⟨_, here, more⟩ := bind_eq_ok.mp resolved
      obtain ⟨rest, later, same⟩ := bind_eq_ok.mp more
      cases same
      have related := resolveItems_get? later key
      rw [Value.get?_cons, Value.get?_cons]
      generalize get? items key = before at related ⊢
      generalize get? rest key = after at related ⊢
      cases related with
      | some equal => exact .some equal
      | none =>
          rw [Option.none_or, Option.none_or]
          by_cases same : name = key
          · rw [if_pos same, if_pos same]
            exact .some here
          · rw [if_neg same, if_neg same]
            exact .none

theorem rel_isSome {related : Value → Value → Prop}
    {first second : Option Value} (rel : Option.Rel related first second) :
    first.isSome = second.isSome := by
  cases rel <;> rfl

theorem rel_some {related : Value → Value → Prop} {first : Value}
    {second : Option Value} (rel : Option.Rel related (some first) second) :
    ∃ other, second = some other ∧ related first other := by
  cases rel with
  | some here => exact ⟨_, rfl, here⟩

theorem scalar_matches_itself {scalar : Value}
    (plain : scalar.isContainer = false) :
    matchesApprovedTemplate scalar scalar = true ↔
      nanOutsideReferences scalar = false := by
  rw [(matchesApprovedTemplate_scalar plain scalar).1,
    Value.equals_scalar plain]
  cases scalar with
  | list | dict => cases plain
  | float value => cases value <;> simp [nanOutsideReferences]
  | _ => simp [nanOutsideReferences]

mutual
theorem resolveInput_matches : ∀ {template resolved : Value},
    resolveInput material template = .ok resolved →
      (matchesApprovedTemplate template resolved = true ↔
        nanOutsideReferences template = false)
  | .dict items, resolved, done => by
      rw [resolveInput_dict] at done
      cases reference : isReference items with
      | true => simp [matchesApprovedTemplate, nanOutsideReferences, reference]
      | false =>
          rw [reference, if_neg Bool.false_ne_true] at done
          obtain ⟨others, each, same⟩ := bind_eq_ok.mp done
          cases same
          have related := resolveItems_get? each
          have keys : sameKeys items others = true :=
            sameKeys_iff.mpr fun key => rel_isSome (related key)
          have inner := resolveItems_matches items others
            fun key item here => rel_some (here ▸ related key)
          simp [matchesApprovedTemplate, nanOutsideReferences, reference, keys,
            inner]
  | .list items, resolved, done => by
      rw [resolveInput] at done
      obtain ⟨_, each, same⟩ := bind_eq_ok.mp done
      cases same
      obtain ⟨length, inner⟩ := resolveList_matches each
      simp [matchesApprovedTemplate, nanOutsideReferences, length, inner]
  | .none, _, done | .bool _, _, done | .int _, _, done | .float _, _, done
  | .str _, _, done | .object _, _, done =>
      by cases done; exact scalar_matches_itself rfl

theorem resolveItems_matches : ∀ items others : List (String × Value),
    (∀ key item, get? items key = some item →
      ∃ other, get? others key = some other ∧
        resolveInput material item = .ok other) →
    (matchesItems items others = true ↔ nanInItems items = false)
  | [], _, _ => by simp [matchesItems, nanInItems]
  | (name, item) :: items, others, each => by
      have rest := resolveItems_matches items others fun key found present =>
        each key found (by rw [Value.get?_cons, present, Option.some_or])
      rw [matchesItems, nanInItems, Bool.and_eq_true, Bool.or_eq_false_iff,
        rest]
      cases later : get? items name with
      | some => simp
      | none =>
          obtain ⟨_, there, resolved⟩ := each name item
            (by rw [Value.get?_cons, later, if_pos rfl]; rfl)
          simp [there, resolveInput_matches resolved]

theorem resolveList_matches : ∀ {items others : List Value},
    resolveList material items = .ok others →
      items.length = others.length ∧
        (matchesList items others = true ↔ nanInList items = false)
  | [], others, done => by
      cases done
      simp [matchesList, nanInList]
  | item :: items, others, done => by
      rw [resolveList] at done
      obtain ⟨_, here, more⟩ := bind_eq_ok.mp done
      obtain ⟨_, later, same⟩ := bind_eq_ok.mp more
      cases same
      obtain ⟨length, inner⟩ := resolveList_matches later
      simp [matchesList, nanInList, length, inner, resolveInput_matches here]
end

end Resolved

/-- Whatever the steps have put out, what the executor makes of a template is
accepted unless the template holds a `NaN` outside its references; and what is
accepted is equal to the template except at them. -/
theorem approved_template_matching (material : Material) (template : Value) :
    (∀ resolved, resolveInput material template = .ok resolved →
      (matchesApprovedTemplate template resolved = true ↔
        nanOutsideReferences template = false)) ∧
    ∀ value, matchesApprovedTemplate template value = true ↔
      EqualOutsideReferences template value :=
  ⟨fun _ => resolveInput_matches, matchesApprovedTemplate_iff template⟩

def limitedPage : Planner.PlanDraft where
  tenantId := "t1"
  goal := "read"
  steps := [Planner.notionStep "read" "notion.page.read"
    [("limit", .float .nan), ("page", .str "p1")] []]

theorem limitedPage_is_refused :
    ∃ plan, Planner.notionCompiler.compile Planner.plainRuntime limitedPage =
        .ok plan ∧
      ∃ step ∈ plan.steps, ∀ material,
        resolveInput material step.input = .ok step.input ∧
          matchesApprovedTemplate step.input step.input = false := by
  have accepted : (Planner.notionCompiler.compile Planner.plainRuntime
      limitedPage).toOption.map (fun plan =>
        plan.steps.map Planner.ValidatedStep.input) =
      some [.dict [("limit", .float .nan), ("page", .str "p1")]] := by
    decide +kernel
  cases compiled : Planner.notionCompiler.compile Planner.plainRuntime
      limitedPage with
  | error =>
      rw [compiled] at accepted
      cases accepted
  | ok plan =>
      rw [compiled] at accepted
      have inputs := Option.some.inj accepted
      obtain ⟨step, listed, input⟩ := List.mem_map.mp
        (inputs ▸ List.mem_singleton_self _)
      refine ⟨plan, rfl, step, listed, fun material => ?_⟩
      rw [input]
      exact ⟨rfl, by decide⟩

end AcpTask.Workflow
