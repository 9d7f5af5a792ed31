import AcpTask.Planner.Schemas

namespace AcpTask.Planner

open Data Data.JsonSchema
open Data.Value (get? lookup)

/-! What the types that the planner collects say of the values of a schema. -/

variable {sets : List (Finset String)} {type : String}

theorem mem_unionOf :
    type ∈ unionOf sets ↔ ∃ types ∈ sets, type ∈ types := by
  induction sets with
  | nil => simp [unionOf]
  | cons _ _ induction =>
      unfold unionOf at induction ⊢
      rw [List.foldr_cons, Finset.mem_union, induction,
        List.exists_mem_cons_iff]

theorem canonical_float (value : PyFloat) :
    ∃ other, canonical (.float value) = .float other := by
  cases value with
  | finite worth => exact ⟨.finite worth "", rfl⟩
  | infinity negative => exact ⟨.infinity negative, rfl⟩
  | nan => exact ⟨.nan, rfl⟩

theorem number_mem_typeNames (value : PyFloat) :
    "number" ∈ typeNames (.float value) := by
  cases value with
  | finite =>
      rw [typeNames]
      split <;> simp
  | _ => exact List.mem_singleton.mpr rfl

variable {value : Value}

theorem jsonType_mem_typeNames {constant : Value} (same : Same value constant) :
    jsonType constant ∈ typeNames value := by
  unfold Same at same
  cases value with
  | float number =>
      cases constant with
      | float => exact number_mem_typeNames number
      | int =>
          cases number with
          | finite =>
              simp only [canonical, Value.sortKeys, Value.float.injEq,
                PyFloat.finite.injEq, and_true] at same
              subst same
              simp [jsonType, typeNames]
          | _ => simp [canonical, Value.sortKeys] at same
      | _ =>
          obtain ⟨_, equal⟩ := canonical_float number
          rw [equal] at same
          simp [canonical, Value.sortKeys] at same
  | _ =>
      cases constant with
      | float number =>
          obtain ⟨_, equal⟩ := canonical_float number
          rw [equal] at same
          simp_all [canonical, Value.sortKeys, jsonType, typeNames]
      | _ => simp_all [canonical, Value.sortKeys, jsonType, typeNames]

variable {schema : Value}

/-- A constraint of the schema leaves its values only these types: its `type`,
its `const` or `enum`, each member of a union, or one schema under `allOf`. -/
inductive Confined (types : String → Prop) : Value → Prop
  | never : Confined types (.bool false)
  | type {items : Items} {name : String} :
      lookup items "type" = .str name → types name →
      Confined types (.dict items)
  | typed {items : Items} {names : List Value} :
      lookup items "type" = .list names →
      (∀ name ∈ names.filterMap Value.asStr?, types name) →
      Confined types (.dict items)
  | constant {items : Items} {constant : Value} :
      get? items "const" = some constant → types (jsonType constant) →
      Confined types (.dict items)
  | enumerated {items : Items} : Listed items "enum" →
      (∀ listed ∈ members items "enum", types (jsonType listed)) →
      Confined types (.dict items)
  | either {items : Items} {keyword : String} :
      keyword ∈ ["oneOf", "anyOf"] → Listed items keyword →
      (∀ member ∈ members items keyword, Confined types member) →
      Confined types (.dict items)
  | every {items : Items} {member : Value} :
      member ∈ members items "allOf" → Confined types member →
      Confined types (.dict items)

theorem Confined.covers {types : String → Prop}
    (confined : Confined types schema) (valid : Valid schema value) :
    ∃ type ∈ typeNames value, types type := by
  induction confined with
  | never => simp [Valid] at valid
  | type named allowed =>
      have typed := valid.own.1
      rw [typeAllows, named] at typed
      exact ⟨_, typed, allowed⟩
  | typed named allowed =>
      have typed := valid.own.1
      rw [typeAllows, named] at typed
      obtain ⟨name, inside, has⟩ := typed
      exact ⟨name, has, allowed name inside⟩
  | constant found allowed =>
      exact ⟨_, jsonType_mem_typeNames (valid.own.2.1 _ found), allowed⟩
  | enumerated listed allowed =>
      obtain ⟨one, inside, same⟩ := valid.own.2.2 listed
      exact ⟨_, jsonType_mem_typeNames same, allowed one inside⟩
  | either union listed _ induction =>
      obtain ⟨member, inside, holds⟩ := valid.either union listed
      exact induction member inside holds
  | every inside _ induction => exact induction (valid.each inside)

/-- The planner reads the type off the schema or one of its alternatives. -/
def Named (schema : Value) (type : String) : Prop :=
  ∃ candidate ∈ schemaAlternatives schema, type ∈ schemaTypes candidate

/-- Each type that the source names is one that the destination names. -/
def Matched (source destination : Value) : Prop :=
  (∃ type, Named source type) ∧ ∀ type, Named source type →
    ∃ name, Named destination name ∧ Covers name type

/-- All constraints of the schema let the type through. -/
def LetThrough (schema : Value) (type : String) : Prop :=
  ∃ name, Admits schema name ∧ Covers name type

/-- The planner takes a value of the one schema for the other, each with its
alternatives. -/
def compatible (source destination : Value) : Bool :=
  schemasAreCompatible (schemaAlternatives source)
    (schemaAlternatives destination)

theorem mem_collected :
    type ∈ unionOf ((schemaAlternatives schema).map schemaTypes) ↔
      Named schema type := by
  rw [mem_unionOf]
  simp only [List.mem_map, exists_exists_and_eq_and]
  rfl

theorem mem_insert_integer {types : Finset String} :
    type ∈ (if "number" ∈ types then insert "integer" types else types) ↔
      ∃ name ∈ types, Covers name type := by
  constructor
  · intro member
    split at member
    · rename_i number
      rcases Finset.mem_insert.mp member with rfl | inside
      · exact ⟨"number", number, .inr ⟨rfl, rfl⟩⟩
      · exact ⟨type, inside, .inl rfl⟩
    · exact ⟨type, member, .inl rfl⟩
  · rintro ⟨_, inside, rfl | ⟨rfl, rfl⟩⟩
    · split
      · exact Finset.mem_insert_of_mem inside
      · exact inside
    · rw [if_pos inside]
      exact Finset.mem_insert_self _ _

theorem compatible_iff {source destination : Value} :
    compatible source destination = true ↔ Matched source destination := by
  have within : unionOf ((schemaAlternatives source).map schemaTypes) ⊆
        (if "number" ∈ unionOf ((schemaAlternatives destination).map schemaTypes)
          then insert "integer"
            (unionOf ((schemaAlternatives destination).map schemaTypes))
          else unionOf ((schemaAlternatives destination).map schemaTypes)) ↔
      ∀ type, Named source type →
        ∃ name, Named destination name ∧ Covers name type := by
    simp only [Finset.subset_iff, mem_insert_integer, mem_collected]
  unfold compatible schemasAreCompatible Matched
  rw [← within]
  dsimp only
  split
  · rename_i bare
    refine ⟨fun accepted => (by cases accepted), fun ⟨⟨type, named⟩, every⟩ => ?_⟩
    obtain ⟨name, other, _⟩ := within.mp every type named
    rw [← mem_collected] at named other
    rcases bare with bare | bare
    · rw [bare] at named
      exact absurd named (Finset.notMem_empty type)
    · rw [bare] at other
      exact absurd other (Finset.notMem_empty name)
  · rename_i named
    obtain ⟨type, member⟩ := Finset.nonempty_iff_ne_empty.mpr
      (not_or.mp named).1
    rw [decide_eq_true_iff]
    exact ⟨fun subset => ⟨⟨type, mem_collected.mp member⟩, subset⟩, And.right⟩

theorem number_of_integer (integer : "integer" ∈ typeNames value) :
    "number" ∈ typeNames value := by
  cases value with
  | float number => exact number_mem_typeNames number
  | int _ => exact List.mem_cons_of_mem _ List.mem_cons_self
  | _ => simp [typeNames] at integer

/-- Where the types match as the planner reads them, the source is to be
confined to types that the destination lets through; then what the planner
accepts is sound: each value valid under the source has a type that the
destination admits. -/
theorem compatible_sound {source destination : Value}
    (condition : Matched source destination →
      Confined (LetThrough destination) source)
    (accepted : compatible source destination = true) {value : Value}
    (valid : Valid source value) :
    ∃ type ∈ typeNames value, Admits destination type := by
  have confined := condition (compatible_iff.mp accepted)
  obtain ⟨type, has, name, admits, covers⟩ := confined.covers valid
  rcases covers with rfl | ⟨rfl, rfl⟩
  · exact ⟨type, has, admits⟩
  · exact ⟨"number", number_of_integer has, admits⟩

def named (type : String) : Value := .dict [("type", .str type)]

theorem valid_named (has : type ∈ typeNames value) :
    Valid (named type) value := by
  refine .of_type_anyOf (fun keyword member => ?_) has ?_
  · simp only [List.mem_cons, List.not_mem_nil, or_false] at member
    rcases member with rfl | rfl | rfl | rfl | rfl | rfl <;> rfl
  · rintro ⟨_, found⟩
    cases found

def textTwice : Value :=
  .dict [("type", .str "string"), ("anyOf", .list [named "string"])]

theorem admits_named (type : String) : Admits (named type) type := by
  refine admits_dict.mpr ⟨⟨.inl rfl, fun _ found => ?_, ?_⟩,
    fun keyword union listed => ?_, fun member inside => ?_⟩
  · cases found
  · rintro ⟨_, found⟩
    cases found
  · obtain ⟨_, found⟩ := listed
    simp only [List.mem_cons, List.not_mem_nil, or_false] at union
    rcases union with rfl | rfl <;> cases found
  · cases inside

theorem admits_textTwice : Admits textTwice "string" := by
  refine admits_dict.mpr ⟨⟨.inl rfl, fun _ found => ?_, ?_⟩,
    fun keyword union listed => ?_, fun member inside => ?_⟩
  · cases found
  · rintro ⟨_, found⟩
    cases found
  · simp only [List.mem_cons, List.not_mem_nil, or_false] at union
    rcases union with rfl | rfl
    · obtain ⟨_, found⟩ := listed
      cases found
    · exact ⟨named "string", List.mem_cons_self, admits_named "string"⟩
  · cases inside

theorem compatible_sound_text :
    ∃ type ∈ typeNames (.str "a"), Admits textTwice type :=
  compatible_sound
    (fun _ => .type rfl ⟨"string", admits_textTwice, .inl rfl⟩)
    (by decide +kernel) (@valid_named "string" _ List.mem_cons_self)

theorem valid_empty (value : Value) : Valid (.dict []) value := by
  refine .of_type_anyOf (fun keyword member => rfl) trivial ?_
  rintro ⟨_, found⟩
  cases found

def textOrAny : Value := .dict [("anyOf", .list [named "string", .dict []])]

theorem valid_textOrAny (value : Value) : Valid textOrAny value := by
  refine .of_type_anyOf (fun keyword member => ?_) trivial fun _ =>
    ⟨.dict [], List.mem_cons_of_mem _ List.mem_cons_self, valid_empty value⟩
  simp only [List.mem_cons, List.not_mem_nil, or_false] at member
  rcases member with rfl | rfl | rfl | rfl | rfl | rfl <;> rfl

/-- An alternative that names no type is passed over: a number may go where a
text is asked for. -/
theorem untyped_alternative :
    ¬ (compatible textOrAny (named "string") = true →
      ∀ value, Valid textOrAny value →
        ∃ type ∈ typeNames value, Admits (named "string") type) := by
  intro sound
  obtain ⟨type, has, admits⟩ :=
    sound (by decide +kernel) (.int 5) (valid_textOrAny (.int 5))
  have covers : Covers "string" type := (admits_dict.mp admits).1.1
  rcases covers with rfl | ⟨_, impossible⟩
  · exact absurd has (by decide)
  · exact absurd impossible (by decide)

end AcpTask.Planner
