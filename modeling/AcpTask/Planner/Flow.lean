import Mathlib.Data.List.Infix
import AcpTask.Data.Json
import AcpTask.Library.Transaction

namespace AcpTask.Planner

open Data Library
open Data.Value (get? lookup)

/-! Wrapped input: a value that says where its data comes from, and the walk
that takes the wrappers off. -/

inductive PlanError where
  /-- `PlanRejected`. -/
  | rejected (reason : String)
  /-- Any other exception. -/
  | raised
  /-- A loop that is still running. -/
  | running

abbrev Items := List (String × Value)

/-- `set(value) == {…}`. -/
def keysAre (items : Items) (keys : List String) : Bool :=
  items.all (fun item => keys.contains item.1) &&
    keys.all fun key => (get? items key).isSome

/-- `set(value) == {"$value", "$provenance"}`. -/
def isWrapper (items : Items) : Bool := keysAre items ["$value", "$provenance"]

/-- `items.get(key, default)`. -/
def getOr (items : Items) (key : String) (default : Value) : Value :=
  (get? items key).getD default

/-- `text in value`; a number, a bool and `None` have no items. -/
def contains (text : String) : Value → Except PlanError Bool
  | .list items => .ok (items.any fun item => item.isText text)
  | .str own => .ok (decide (text.toList <:+: own.toList))
  | .dict items => .ok (get? items text).isSome
  | _ => .error .raised

structure Disclosure where
  stepId : String
  source : Value
  destination : String
  classification : Value
  sourceStepId : Option String := none
  reference : Option String := none

section Walk

variable (destination stepId : String)

def discloseWrapper (wrapper : Items) : Except PlanError Disclosure :=
  match lookup wrapper "$provenance" with
  | .dict provenance => do
      let source := lookup provenance "provider"
      let allowed := getOr provenance "allowed_destinations" (.list [])
      if !source.isText destination then
        let listed ← contains destination allowed
        if !listed then
          .error (.rejected "data flow is not authorized")
      return {
        stepId, source, destination
        classification := getOr provenance "classification" (.str "unknown") }
  | _ => .error (.rejected "data provenance is malformed")

mutual
def authorizeDataFlow : Value → Except PlanError (Value × List Disclosure)
  | .dict items =>
      if isWrapper items then do
        let disclosure ← discloseWrapper destination stepId items
        return (lookup items "$value", [disclosure])
      else do
        let (clean, disclosures) ← authorizePairs items
        return (.dict clean, disclosures)
  | .list items => do
      let (clean, disclosures) ← authorizeItems items
      return (.list clean, disclosures)
  | .none => return (.none, [])
  | .bool value => return (.bool value, [])
  | .int value => return (.int value, [])
  | .float value => return (.float value, [])
  | .str text => return (.str text, [])
  | .object className => return (.object className, [])

def authorizeItems : List Value →
    Except PlanError (List Value × List Disclosure)
  | [] => return ([], [])
  | item :: items => do
      let (clean, disclosures) ← authorizeDataFlow item
      let (others, nested) ← authorizeItems items
      return (clean :: others, disclosures ++ nested)

def authorizePairs : Items → Except PlanError (Items × List Disclosure)
  | [] => return ([], [])
  | (key, item) :: items => do
      let (clean, disclosures) ← authorizeDataFlow item
      let (others, nested) ← authorizePairs items
      return ((key, clean) :: others, disclosures ++ nested)
end

end Walk

def Authorized (destination : String) (wrapper : Items) : Prop :=
  ∃ provenance, lookup wrapper "$provenance" = .dict provenance ∧
    (lookup provenance "provider" = .str destination ∨
      contains destination
        (getOr provenance "allowed_destinations" (.list [])) = .ok true)

inductive Outermost (wrapper : Items) : Value → Prop
  | here : isWrapper wrapper = true → Outermost wrapper (.dict wrapper)
  | item {items : List Value} {item : Value} : item ∈ items →
      Outermost wrapper item → Outermost wrapper (.list items)
  | entry {items : Items} {entry : String × Value} : isWrapper items = false →
      entry ∈ items → Outermost wrapper entry.2 →
      Outermost wrapper (.dict items)

inductive Within (wrapper : Items) : Value → Prop
  | here : isWrapper wrapper = true → Within wrapper (.dict wrapper)
  | item {items : List Value} {item : Value} : item ∈ items →
      Within wrapper item → Within wrapper (.list items)
  | entry {items : Items} {entry : String × Value} : isWrapper items = false →
      entry ∈ items → Within wrapper entry.2 → Within wrapper (.dict items)
  | value {items : Items} : isWrapper items = true →
      Within wrapper (lookup items "$value") → Within wrapper (.dict items)
  | provenance {items : Items} : isWrapper items = true →
      Within wrapper (lookup items "$provenance") →
      Within wrapper (.dict items)

variable {wrapper : Items}

theorem outermost_list {items : List Value} :
    Outermost wrapper (.list items) ↔
      ∃ item ∈ items, Outermost wrapper item := by
  constructor
  · intro outer
    cases outer with
    | item member outer => exact ⟨_, member, outer⟩
  · rintro ⟨_, member, outer⟩
    exact .item member outer

variable {items : Items}

theorem outermost_wrapper (wrapped : isWrapper items = true) :
    Outermost wrapper (.dict items) ↔ wrapper = items := by
  constructor
  · intro outer
    cases outer with
    | here => rfl
    | entry plain => rw [wrapped] at plain; cases plain
  · intro same
    subst same
    exact .here wrapped

theorem outermost_dict (plain : isWrapper items = false) :
    Outermost wrapper (.dict items) ↔
      ∃ entry ∈ items, Outermost wrapper entry.2 := by
  constructor
  · intro outer
    cases outer with
    | here wrapped => rw [plain] at wrapped; cases wrapped
    | entry _ member outer => exact ⟨_, member, outer⟩
  · rintro ⟨_, member, outer⟩
    exact .entry plain member outer

theorem within_list {items : List Value} :
    Within wrapper (.list items) ↔ ∃ item ∈ items, Within wrapper item := by
  constructor
  · intro inside
    cases inside with
    | item member inside => exact ⟨_, member, inside⟩
  · rintro ⟨_, member, inside⟩
    exact .item member inside

theorem within_dict (plain : isWrapper items = false) :
    Within wrapper (.dict items) ↔ ∃ entry ∈ items, Within wrapper entry.2 := by
  constructor
  · intro inside
    cases inside with
    | here wrapped | value wrapped | provenance wrapped =>
        rw [plain] at wrapped; cases wrapped
    | entry _ member inside => exact ⟨_, member, inside⟩
  · rintro ⟨_, member, inside⟩
    exact .entry plain member inside

theorem within_iff {value : Value} :
    Within wrapper value ↔ ∃ outer, Outermost outer value ∧
      (wrapper = outer ∨ Within wrapper (lookup outer "$value") ∨
        Within wrapper (lookup outer "$provenance")) := by
  constructor
  · intro inside
    induction inside with
    | here wrapped => exact ⟨wrapper, .here wrapped, .inl rfl⟩
    | item member _ induction =>
        obtain ⟨outer, stands, place⟩ := induction
        exact ⟨outer, .item member stands, place⟩
    | entry plain member _ induction =>
        obtain ⟨outer, stands, place⟩ := induction
        exact ⟨outer, .entry plain member stands, place⟩
    | value wrapped inside => exact ⟨_, .here wrapped, .inr (.inl inside)⟩
    | provenance wrapped inside => exact ⟨_, .here wrapped, .inr (.inr inside)⟩
  · rintro ⟨_, stands, place⟩
    induction stands with
    | here wrapped =>
        rcases place with rfl | inside | inside
        · exact .here wrapped
        · exact .value wrapped inside
        · exact .provenance wrapped inside
    | item member _ induction => exact .item member induction
    | entry plain member _ induction => exact .entry plain member induction

theorem get?_isSome_iff {key : String} :
    (get? items key).isSome = true ↔ key ∈ items.map Prod.fst := by
  rw [← not_iff_not, Option.not_isSome_iff_eq_none,
    Value.get?_eq_none_iff, List.mem_map]
  constructor
  · rintro absent ⟨item, member, same⟩
    exact absent item member same
  · rintro absent item member same
    exact absent ⟨item, member, same⟩

theorem keysAre_congr {others : Items} {keys : List String}
    (same : others.map Prod.fst = items.map Prod.fst) :
    keysAre others keys = keysAre items keys := by
  have found : ∀ key, (get? others key).isSome = (get? items key).isSome := by
    intro key
    rw [Bool.eq_iff_iff, get?_isSome_iff, get?_isSome_iff, same]
  have every : others.all (fun item => keys.contains item.1) =
      items.all (fun item => keys.contains item.1) := by
    have mapped := congrArg (fun names => names.all keys.contains) same
    simpa [List.all_map, Function.comp_def] using mapped
  unfold keysAre
  rw [every]
  simp only [found]

section Walked

variable {destination stepId : String}

theorem discloseWrapper_isOk {wrapper : Items} :
    (∃ disclosure, discloseWrapper destination stepId wrapper =
      .ok disclosure) ↔ Authorized destination wrapper := by
  unfold discloseWrapper Authorized
  split
  · rename_i provenance found
    rw [found]
    simp only [Value.dict.injEq, exists_eq_left', ← Value.isText_iff]
    cases own : (lookup provenance "provider").isText destination with
    | true => exact ⟨fun _ => .inl rfl, fun _ => ⟨_, rfl⟩⟩
    | false =>
        cases listed : contains destination
            (getOr provenance "allowed_destinations" (.list [])) with
        | error => simp [bind, Except.bind]
        | ok found =>
            cases found <;> simp [bind, Except.bind, pure, Except.pure]
  · rename_i other
    constructor
    · rintro ⟨_, impossible⟩
      cases impossible
    · rintro ⟨provenance, found, _⟩
      exact absurd found (other provenance)

theorem isOk_map {Result Other : Type} {outcome : Except PlanError Result}
    {read : Result → Other} :
    (∃ result, (outcome >>= fun value => pure (read value)) = .ok result) ↔
      ∃ value, outcome = .ok value := by
  cases outcome with
  | ok value => exact ⟨fun _ => ⟨value, rfl⟩, fun _ => ⟨_, rfl⟩⟩
  | error => simp [bind, Except.bind]

theorem isOk_map₂ {First Second Other : Type}
    {first : Except PlanError First} {second : Except PlanError Second}
    {read : First → Second → Other} :
    (∃ result, (first >>= fun value => second >>= fun other =>
      pure (read value other)) = .ok result) ↔
        (∃ value, first = .ok value) ∧ ∃ other, second = .ok other := by
  cases first with
  | ok value =>
      have done := @isOk_map Second Other second (read value)
      exact done.trans ⟨fun other => ⟨⟨value, rfl⟩, other⟩, And.right⟩
  | error => simp [bind, Except.bind]

mutual
theorem authorizeDataFlow_isOk : ∀ value,
    (∃ result, authorizeDataFlow destination stepId value = .ok result) ↔
      ∀ outer, Outermost outer value → Authorized destination outer
  | .dict items => by
      cases wrapped : isWrapper items with
      | true =>
          simp only [outermost_wrapper wrapped, forall_eq]
          rw [← @discloseWrapper_isOk destination stepId, authorizeDataFlow,
            if_pos wrapped]
          exact isOk_map
      | false =>
          rw [authorizeDataFlow, wrapped, if_neg (by simp)]
          refine isOk_map.trans ((authorizePairs_isOk items).trans ?_)
          simp only [outermost_dict wrapped]
          exact ⟨fun each outer ⟨entry, member, stands⟩ =>
            each entry member outer stands, fun all entry member outer stands =>
            all outer ⟨entry, member, stands⟩⟩
  | .list items => by
      rw [authorizeDataFlow]
      refine isOk_map.trans ((authorizeItems_isOk items).trans ?_)
      simp only [outermost_list]
      exact ⟨fun each outer ⟨item, member, stands⟩ =>
        each item member outer stands, fun all item member outer stands =>
        all outer ⟨item, member, stands⟩⟩
  | .none | .bool _ | .int _ | .float _ | .str _ | .object _ =>
      ⟨fun _ outer stands => (by cases stands), fun _ => ⟨_, rfl⟩⟩

theorem authorizeItems_isOk : ∀ items : List Value,
    (∃ result, authorizeItems destination stepId items = .ok result) ↔
      ∀ item ∈ items, ∀ outer, Outermost outer item →
        Authorized destination outer
  | [] => ⟨fun _ item member => (by cases member), fun _ => ⟨_, rfl⟩⟩
  | item :: items => by
      rw [authorizeItems, List.forall_mem_cons]
      exact isOk_map₂.trans (and_congr (authorizeDataFlow_isOk item)
        (authorizeItems_isOk items))

theorem authorizePairs_isOk : ∀ items : Items,
    (∃ result, authorizePairs destination stepId items = .ok result) ↔
      ∀ entry ∈ items, ∀ outer, Outermost outer entry.2 →
        Authorized destination outer
  | [] => ⟨fun _ item member => (by cases member), fun _ => ⟨_, rfl⟩⟩
  | (key, item) :: items => by
      rw [authorizePairs, List.forall_mem_cons]
      exact isOk_map₂.trans (and_congr (authorizeDataFlow_isOk item)
        (authorizePairs_isOk items))
end

theorem keys_of_authorizePairs {items clean : Items}
    {disclosures : List Disclosure}
    (walked : authorizePairs destination stepId items =
      .ok (clean, disclosures)) :
    clean.map Prod.fst = items.map Prod.fst := by
  induction items generalizing clean disclosures with
  | nil =>
      cases walked
      rfl
  | cons _ _ induction =>
      simp only [authorizePairs, bind_eq_ok, pure_eq_ok, Prod.mk.injEq]
        at walked
      obtain ⟨⟨_, _⟩, _, ⟨_, _⟩, rest, rfl, _⟩ := walked
      rw [List.map_cons, List.map_cons, induction rest]

def Wrapped (wrapper : Items) (value : Value) : Prop :=
  ∃ outer, Outermost outer value ∧ Within wrapper (lookup outer "$value")

theorem wrapped_list {wrapper : Items} {items : List Value} :
    Wrapped wrapper (.list items) ↔ ∃ item ∈ items, Wrapped wrapper item := by
  simp only [Wrapped, outermost_list]
  tauto

theorem wrapped_dict {wrapper items : Items}
    (plain : isWrapper items = false) :
    Wrapped wrapper (.dict items) ↔
      ∃ entry ∈ items, Wrapped wrapper entry.2 := by
  simp only [Wrapped, outermost_dict plain]
  tauto

mutual
theorem within_clean : ∀ (value clean : Value)
    (disclosures : List Disclosure),
    authorizeDataFlow destination stepId value = .ok (clean, disclosures) →
      ∀ wrapper, Within wrapper clean ↔ Wrapped wrapper value
  | .dict items, clean, disclosures, walked => by
      intro wrapper
      rw [authorizeDataFlow] at walked
      split at walked
      · rename_i wrapped
        simp only [bind_eq_ok, pure_eq_ok, Prod.mk.injEq] at walked
        obtain ⟨_, _, rfl, _⟩ := walked
        simp only [Wrapped, outermost_wrapper wrapped, exists_eq_left]
      · rename_i plain
        rw [Bool.not_eq_true] at plain
        simp only [bind_eq_ok, pure_eq_ok, Prod.mk.injEq] at walked
        obtain ⟨⟨others, nested⟩, rest, rfl, _⟩ := walked
        have same : isWrapper others = false :=
          (keysAre_congr (keys_of_authorizePairs rest)).trans plain
        rw [within_dict same, wrapped_dict plain]
        exact within_cleanPairs items others nested rest wrapper
  | .list items, clean, disclosures, walked => by
      intro wrapper
      simp only [authorizeDataFlow, bind_eq_ok, pure_eq_ok, Prod.mk.injEq]
        at walked
      obtain ⟨⟨others, nested⟩, rest, rfl, _⟩ := walked
      rw [within_list, wrapped_list]
      exact within_cleanItems items others nested rest wrapper
  | .none, clean, disclosures, walked | .bool _, clean, disclosures, walked
  | .int _, clean, disclosures, walked | .float _, clean, disclosures, walked
  | .str _, clean, disclosures, walked
  | .object _, clean, disclosures, walked => by
      cases walked
      exact fun _ => ⟨fun inside => (by cases inside),
        fun ⟨_, stands, _⟩ => by cases stands⟩

theorem within_cleanItems : ∀ (items clean : List Value)
    (disclosures : List Disclosure),
    authorizeItems destination stepId items = .ok (clean, disclosures) →
      ∀ wrapper, (∃ item ∈ clean, Within wrapper item) ↔
        ∃ item ∈ items, Wrapped wrapper item
  | [], clean, disclosures, walked => by
      cases walked
      exact fun _ => by simp
  | item :: items, clean, disclosures, walked => by
      intro wrapper
      simp only [authorizeItems, bind_eq_ok, pure_eq_ok, Prod.mk.injEq]
        at walked
      obtain ⟨⟨first, _⟩, here, ⟨others, nested⟩, rest, rfl, _⟩ := walked
      simp only [List.exists_mem_cons_iff]
      exact or_congr (within_clean item first _ here wrapper)
        (within_cleanItems items others nested rest wrapper)

theorem within_cleanPairs : ∀ (items clean : Items)
    (disclosures : List Disclosure),
    authorizePairs destination stepId items = .ok (clean, disclosures) →
      ∀ wrapper, (∃ entry ∈ clean, Within wrapper entry.2) ↔
        ∃ entry ∈ items, Wrapped wrapper entry.2
  | [], clean, disclosures, walked => by
      cases walked
      exact fun _ => by simp
  | (key, item) :: items, clean, disclosures, walked => by
      intro wrapper
      simp only [authorizePairs, bind_eq_ok, pure_eq_ok, Prod.mk.injEq]
        at walked
      obtain ⟨⟨first, _⟩, here, ⟨others, nested⟩, rest, rfl, _⟩ := walked
      simp only [List.exists_mem_cons_iff]
      exact or_congr (within_clean item first _ here wrapper)
        (within_cleanPairs items others nested rest wrapper)
end

end Walked

/-- No wrapper stands in what another wraps, nor one that should be refused in
its provenance. -/
def Flat (destination : String) (value : Value) : Prop :=
  ∀ outer, Outermost outer value →
    (∀ inner, ¬ Within inner (lookup outer "$value")) ∧
    ∀ inner, Within inner (lookup outer "$provenance") →
      Authorized destination inner

/-- The walk lets a value through with all its wrappers authorized, and without
any in what comes out, exactly where it refuses one or none is hidden in
another. -/
theorem wrappers_checked_iff (destination stepId : String) (value : Value) :
    (∀ clean disclosures,
      authorizeDataFlow destination stepId value = .ok (clean, disclosures) →
        (∀ wrapper, Within wrapper value → Authorized destination wrapper) ∧
        ∀ wrapper, ¬ Within wrapper clean) ↔
      (∃ outer, Outermost outer value ∧ ¬ Authorized destination outer) ∨
        Flat destination value := by
  constructor
  · intro checked
    by_cases refused : ∃ outer, Outermost outer value ∧
      ¬ Authorized destination outer
    · exact .inl refused
    · right
      have authorized : ∀ outer, Outermost outer value →
          Authorized destination outer := by
        simpa using refused
      obtain ⟨⟨clean, disclosures⟩, walked⟩ :=
        (@authorizeDataFlow_isOk destination stepId value).mpr authorized
      obtain ⟨every, bare⟩ := checked clean disclosures walked
      refine fun outer stands =>
        ⟨fun inner inside => ?_, fun inner inside => ?_⟩
      · exact bare inner ((within_clean value clean disclosures walked
          inner).mpr ⟨outer, stands, inside⟩)
      · exact every inner (within_iff.mpr ⟨outer, stands, .inr (.inr inside)⟩)
  · intro condition clean disclosures walked
    have authorized := (authorizeDataFlow_isOk value).mp ⟨_, walked⟩
    rcases condition with ⟨outer, stands, refused⟩ | flat
    · exact absurd (authorized outer stands) refused
    · constructor
      · intro wrapper inside
        obtain ⟨outer, stands, rfl | value | provenance⟩ := within_iff.mp inside
        · exact authorized wrapper stands
        · exact absurd value ((flat outer stands).1 wrapper)
        · exact (flat outer stands).2 wrapper provenance
      · intro wrapper inside
        obtain ⟨outer, stands, value⟩ :=
          (within_clean value clean disclosures walked wrapper).mp inside
        exact (flat outer stands).1 wrapper value

def wrap (value : Value) (provider : String) : Items :=
  [("$value", value), ("$provenance", .dict [("provider", .str provider)])]

/-- A wrapper in a wrapper: the outer one is of the destination's provider, so
what another provider wrote goes there without a check. -/
theorem wrapper_in_wrapper :
    ¬ ∀ clean disclosures,
      authorizeDataFlow "google" "s1"
        (.dict [("body", .dict (wrap (.dict (wrap (.str "secret") "slack"))
          "google"))]) = .ok (clean, disclosures) →
        (∀ wrapper, Within wrapper
          (.dict [("body", .dict (wrap (.dict (wrap (.str "secret") "slack"))
            "google"))]) → Authorized "google" wrapper) ∧
        ∀ wrapper, ¬ Within wrapper clean := by
  intro checked
  obtain ⟨_, bare⟩ := checked
    (.dict [("body", .dict (wrap (.str "secret") "slack"))]) _ rfl
  refine bare (wrap (.str "secret") "slack") ?_
  exact .entry (by decide) List.mem_cons_self (.here (by decide))

end AcpTask.Planner
