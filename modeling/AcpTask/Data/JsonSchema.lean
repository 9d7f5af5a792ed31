import AcpTask.Data.Json

namespace AcpTask.Data

open Data.Value (get? lookup)

/-! JSON Schema, for the keywords `type`, `properties`, `items`, `const`,
`enum`, `oneOf`, `anyOf` and `allOf`. -/

namespace JsonSchema

abbrev Items := List (String × Value)

/-- The types of a value: an integral number has two, and what is no JSON value
the unknown one. -/
def typeNames : Value → List String
  | .none => ["null"]
  | .bool _ => ["boolean"]
  | .int _ => ["integer", "number"]
  | .float (.finite value _) =>
      if value.den = 1 then ["integer", "number"] else ["number"]
  | .float _ => ["number"]
  | .str _ => ["string"]
  | .list _ => ["array"]
  | .dict _ => ["object"]
  | .object _ => ["unknown"]

mutual
def canonical : Value → Value
  | .none => .none
  | .bool value => .bool value
  | .int value => .float (.finite value "")
  | .float (.finite value _) => .float (.finite value "")
  | .float (.infinity negative) => .float (.infinity negative)
  | .float .nan => .float .nan
  | .str text => .str text
  | .list items => .list (canonicalItems items)
  | .dict items => .dict (canonicalPairs items)
  | .object className => .object className

def canonicalItems : List Value → List Value
  | [] => []
  | item :: items => canonical item :: canonicalItems items

def canonicalPairs : Items → Items
  | [] => []
  | (key, item) :: items => (key, canonical item) :: canonicalPairs items
end

def Same (first second : Value) : Prop :=
  (canonical first).sortKeys = (canonical second).sortKeys

def members (items : Items) (keyword : String) : List Value :=
  match get? items keyword with
  | some (.list values) => values
  | _ => []

def Listed (items : Items) (keyword : String) : Prop :=
  ∃ values, get? items keyword = some (.list values)

/-- The entries of the dict under `properties`. -/
def properties (items : Items) : Items :=
  match lookup items "properties" with
  | .dict entries => entries
  | _ => []

variable {items : Items}

theorem sizeOf_found {key : String} {value : Value}
    (found : get? items key = some value) :
    sizeOf value < sizeOf (Value.dict items) := by
  obtain ⟨⟨_, _⟩, first, rfl⟩ := Option.map_eq_some_iff.mp found
  have smaller := List.sizeOf_lt_of_mem
    (List.mem_reverse.mp (List.mem_of_find?_eq_some first))
  simp only [Prod.mk.sizeOf_spec, Value.dict.sizeOf_spec] at smaller ⊢
  omega

theorem sizeOf_member {keyword : String} {member : Value}
    (inside : member ∈ members items keyword) :
    sizeOf member < sizeOf (Value.dict items) := by
  unfold members at inside
  split at inside
  · rename_i values found
    have outer := sizeOf_found found
    have inner := List.sizeOf_lt_of_mem inside
    simp only [Value.list.sizeOf_spec] at outer
    omega
  · cases inside

theorem sizeOf_property {entry : String × Value}
    (inside : entry ∈ properties items) :
    sizeOf entry.2 < sizeOf (Value.dict items) := by
  unfold properties lookup at inside
  cases found : get? items "properties" with
  | none =>
      rw [found] at inside
      cases inside
  | some value =>
      rw [found] at inside
      cases value with
      | dict entries =>
          have outer := sizeOf_found found
          have inner : sizeOf entry < sizeOf entries :=
            List.sizeOf_lt_of_mem inside
          obtain ⟨key, child⟩ := entry
          simp only [Prod.mk.sizeOf_spec, Value.dict.sizeOf_spec]
            at inner outer ⊢
          omega
      | _ => cases inside

/-- `type` allows the value. -/
def typeAllows (items : Items) (value : Value) : Prop :=
  match lookup items "type" with
  | .str name => name ∈ typeNames value
  | .list names => ∃ name ∈ names.filterMap Value.asStr?, name ∈ typeNames value
  | _ => True

/-- `const` and `enum` allow the value. -/
def valueAllows (items : Items) (value : Value) : Prop :=
  (∀ constant, get? items "const" = some constant → Same value constant) ∧
    (Listed items "enum" → ∃ listed ∈ members items "enum", Same value listed)

def ExactlyOne {Item : Type} (holds : Item → Prop) (items : List Item) : Prop :=
  ∃ before item after, items = before ++ item :: after ∧ holds item ∧
    ∀ other ∈ before ++ after, ¬ holds other

def Valid : Value → Value → Prop
  | .dict items, value =>
      typeAllows items value ∧ valueAllows items value ∧
      (∀ entry : {entry // entry ∈ properties items}, ∀ fields own,
        value = .dict fields → get? fields entry.1.1 = some own →
          Valid entry.1.2 own) ∧
      (∀ schema : {schema // get? items "items" = some schema}, ∀ elements,
        value = .list elements → ∀ element ∈ elements, Valid schema.1 element) ∧
      (Listed items "oneOf" → ExactlyOne
        (fun member : {member // member ∈ members items "oneOf"} =>
          Valid member.1 value) (members items "oneOf").attach) ∧
      (Listed items "anyOf" →
        ∃ member : {member // member ∈ members items "anyOf"},
          Valid member.1 value) ∧
      ∀ member : {member // member ∈ members items "allOf"},
        Valid member.1 value
  | .bool allowed, _ => allowed = true
  | _, _ => False
termination_by schema => sizeOf schema
decreasing_by
  · exact sizeOf_property entry.2
  · exact sizeOf_found schema.2
  · exact sizeOf_member member.2
  · exact sizeOf_member member.2
  · exact sizeOf_member member.2

theorem Valid.own {items : Items} {value : Value}
    (valid : Valid (.dict items) value) :
    typeAllows items value ∧ valueAllows items value := by
  rw [Valid] at valid
  exact ⟨valid.1, valid.2.1⟩

theorem Valid.either {items : Items} {value : Value} {keyword : String}
    (valid : Valid (.dict items) value)
    (union : keyword ∈ ["oneOf", "anyOf"]) (listed : Listed items keyword) :
    ∃ member ∈ members items keyword, Valid member value := by
  rw [Valid] at valid
  obtain ⟨_, _, _, _, one, any, _⟩ := valid
  rcases List.mem_cons.mp union with rfl | rest
  · obtain ⟨_, ⟨member, inside⟩, _, _, holds, _⟩ := one listed
    exact ⟨member, inside, holds⟩
  · cases List.mem_singleton.mp rest
    obtain ⟨⟨member, inside⟩, holds⟩ := any listed
    exact ⟨member, inside, holds⟩

theorem Valid.each {value member : Value} (valid : Valid (.dict items) value)
    (inside : member ∈ members items "allOf") : Valid member value := by
  rw [Valid] at valid
  exact valid.2.2.2.2.2.2 ⟨member, inside⟩

theorem Valid.of_type_anyOf {value : Value}
    (absent : ∀ keyword ∈ ["const", "enum", "properties", "items", "oneOf",
      "allOf"], get? items keyword = none) (typed : typeAllows items value)
    (any : Listed items "anyOf" →
      ∃ member ∈ members items "anyOf", Valid member value) :
    Valid (.dict items) value := by
  have unlisted : ∀ keyword, get? items keyword = none →
      ¬ Listed items keyword ∧ members items keyword = [] := by
    intro keyword missing
    constructor
    · rintro ⟨_, found⟩
      rw [missing] at found
      cases found
    · rw [members, missing]
  have noProperties : properties items = [] := by
    rw [properties, lookup, absent "properties" (by decide)]
    rfl
  have allowed : valueAllows items value := by
    constructor
    · intro constant found
      rw [absent "const" (by decide)] at found
      cases found
    · intro listed
      exact absurd listed (unlisted "enum" (absent "enum" (by decide))).1
  rw [Valid]
  refine ⟨typed, allowed, ?_, ?_, ?_, ?_, ?_⟩
  · rintro ⟨_, inside⟩
    rw [noProperties] at inside
    cases inside
  · rintro ⟨_, found⟩
    rw [absent "items" (by decide)] at found
    cases found
  · intro listed
    exact absurd listed (unlisted "oneOf" (absent "oneOf" (by decide))).1
  · intro listed
    obtain ⟨member, inside, valid⟩ := any listed
    exact ⟨⟨member, inside⟩, valid⟩
  · rintro ⟨_, inside⟩
    rw [(unlisted "allOf" (absent "allOf" (by decide))).2] at inside
    cases inside

def Covers (name type : String) : Prop :=
  type = name ∨ type = "integer" ∧ name = "number"

def ownAdmits (items : Items) (type : String) : Prop :=
  (match lookup items "type" with
    | .str name => Covers name type
    | .list names => ∃ name ∈ names.filterMap Value.asStr?, Covers name type
    | _ => True) ∧
  (∀ constant, get? items "const" = some constant → type ∈ typeNames constant) ∧
  (Listed items "enum" →
    ∃ listed ∈ members items "enum", type ∈ typeNames listed)

/-- Each keyword of the schema lets the type through: a union does where one
of its members does. -/
def Admits : Value → String → Prop
  | .dict items, type =>
      ownAdmits items type ∧
      (Listed items "oneOf" →
        ∃ member : {member // member ∈ members items "oneOf"},
          Admits member.1 type) ∧
      (Listed items "anyOf" →
        ∃ member : {member // member ∈ members items "anyOf"},
          Admits member.1 type) ∧
      ∀ member : {member // member ∈ members items "allOf"},
        Admits member.1 type
  | .bool allowed, _ => allowed = true
  | _, _ => False
termination_by schema => sizeOf schema
decreasing_by
  · exact sizeOf_member member.2
  · exact sizeOf_member member.2
  · exact sizeOf_member member.2

theorem admits_dict {type : String} :
    Admits (.dict items) type ↔ ownAdmits items type ∧
      (∀ keyword ∈ ["oneOf", "anyOf"], Listed items keyword →
        ∃ member ∈ members items keyword, Admits member type) ∧
      ∀ member ∈ members items "allOf", Admits member type := by
  rw [Admits]
  constructor
  · rintro ⟨own, one, any, all⟩
    refine ⟨own, fun keyword union listed => ?_,
      fun member inside => all ⟨member, inside⟩⟩
    rcases List.mem_cons.mp union with rfl | rest
    · obtain ⟨⟨member, inside⟩, admits⟩ := one listed
      exact ⟨member, inside, admits⟩
    · cases List.mem_singleton.mp rest
      obtain ⟨⟨member, inside⟩, admits⟩ := any listed
      exact ⟨member, inside, admits⟩
  · rintro ⟨own, either, all⟩
    refine ⟨own, fun listed => ?_, fun listed => ?_,
      fun member => all member.1 member.2⟩
    · obtain ⟨member, inside, admits⟩ := either "oneOf" (by decide) listed
      exact ⟨⟨member, inside⟩, admits⟩
    · obtain ⟨member, inside, admits⟩ := either "anyOf" (by decide) listed
      exact ⟨⟨member, inside⟩, admits⟩

end JsonSchema

end AcpTask.Data
