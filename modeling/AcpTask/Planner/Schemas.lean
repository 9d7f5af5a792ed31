import Mathlib.Data.Finset.Basic
import AcpTask.Data.JsonSchema
import AcpTask.Planner.Flow

namespace AcpTask.Planner

open Data
open Data.JsonSchema (members)
open Data.Value (get? lookup)

/-! What the planner reads off a JSON schema: its alternatives, the types it
names, and the schemas at a path. -/

mutual
/-- The schema and all its members under `oneOf`, `anyOf` and `allOf`. -/
def schemaAlternatives : Value → List Value
  | .dict items =>
      .dict items :: (alternativesUnder "oneOf" items ++
        (alternativesUnder "anyOf" items ++ alternativesUnder "allOf" items))
  | _ => []

def alternativesUnder (keyword : String) : Items → List Value
  | [] => []
  | (key, value) :: items =>
      if key = keyword ∧ get? items keyword = none then alternativesIn value
      else alternativesUnder keyword items

def alternativesIn : Value → List Value
  | .list values => alternativesOf values
  | _ => []

def alternativesOf : List Value → List Value
  | [] => []
  | value :: values => schemaAlternatives value ++ alternativesOf values
end

def jsonType : Value → String
  | .none => "null"
  | .bool _ => "boolean"
  | .int _ => "integer"
  | .float _ => "number"
  | .str _ => "string"
  | .list _ => "array"
  | .dict _ => "object"
  | .object _ => "unknown"

def declaredTypes (items : Items) : Finset String :=
  match lookup items "type" with
  | .str name => {name}
  | .list names => (names.filterMap Value.asStr?).toFinset
  | _ =>
      if (get? items "properties").isSome then {"object"}
      else if (get? items "items").isSome then {"array"}
      else match get? items "const" with
        | some value => {jsonType value}
        | none => ((members items "enum").map jsonType).toFinset

/-- `set().union(*sets)`. -/
def unionOf (sets : List (Finset String)) : Finset String :=
  sets.foldr (· ∪ ·) ∅

/-- `set.intersection(*sets)` of those that are not empty. -/
def intersectionOf (sets : List (Finset String)) : Finset String :=
  match sets.filter (· ≠ ∅) with
  | [] => ∅
  | first :: others => others.foldl (· ∩ ·) first

def combined (declared : Finset String)
    (alternatives constraints : List (Finset String)) : Finset String :=
  let either := unionOf alternatives
  let types :=
    if either = ∅ then declared
    else if declared = ∅ then either
    else declared ∩ either
  let constrained := intersectionOf constraints
  if types ≠ ∅ ∧ constrained ≠ ∅ then types ∩ constrained
  else if constrained ≠ ∅ then constrained
  else types

mutual
def schemaTypes : Value → Finset String
  | .dict items =>
      combined (declaredTypes items)
        (typesUnder "oneOf" items ++ typesUnder "anyOf" items)
        (typesUnder "allOf" items)
  | _ => ∅

def typesUnder (keyword : String) : Items → List (Finset String)
  | [] => []
  | (key, value) :: items =>
      if key = keyword ∧ get? items keyword = none then typesIn value
      else typesUnder keyword items

def typesIn : Value → List (Finset String)
  | .list values => typesOf values
  | _ => []

def typesOf : List Value → List (Finset String)
  | [] => []
  | value :: values => schemaTypes value :: typesOf values
end

def schemaAllowsType (schema : Value) (expected : String) : Bool :=
  let types := schemaTypes schema
  decide (expected ∈ types ∨ expected = "integer" ∧ "number" ∈ types)

def schemasAreCompatible (sources destinations : List Value) : Bool :=
  let sourceTypes := unionOf (sources.map schemaTypes)
  let destinationTypes := unionOf (destinations.map schemaTypes)
  if sourceTypes = ∅ ∨ destinationTypes = ∅ then false
  else decide (sourceTypes ⊆
    if "number" ∈ destinationTypes then insert "integer" destinationTypes
    else destinationTypes)

def schemaPart (isDigit : Char → Bool) (allowArrayIndices : Bool)
    (part : String) : Value → List Value
  | .dict items =>
      match get? items "properties" with
      | some (.dict properties) =>
          match get? properties part with
          | some schema => schemaAlternatives schema
          | none => indexed items
      | _ => indexed items
  | _ => []
where
  indexed (items : Items) : List Value :=
    if allowArrayIndices && schemaAllowsType (.dict items) "array" &&
        (!part.isEmpty && part.toList.all isDigit) then
      schemaAlternatives (lookup items "items")
    else []

def schemasAtPath (isDigit : Char → Bool) (allowArrayIndices : Bool)
    (schema : Value) (path : List String) : List Value :=
  path.foldl (fun candidates part =>
    candidates.flatMap (schemaPart isDigit allowArrayIndices part))
    (schemaAlternatives schema)

theorem get?_head {key keyword : String} {value : Value} {items : Items} :
    get? ((key, value) :: items) keyword =
      if key = keyword ∧ get? items keyword = none then some value
      else get? items keyword := by
  rw [Value.get?_cons]
  cases found : get? items keyword with
  | none | some => simp

theorem alternativesOf_eq (values : List Value) :
    alternativesOf values = values.flatMap schemaAlternatives := by
  induction values with
  | nil => rfl
  | cons _ _ induction => rw [alternativesOf, List.flatMap_cons, induction]

theorem typesOf_eq (values : List Value) :
    typesOf values = values.map schemaTypes := by
  induction values with
  | nil => rfl
  | cons _ _ induction => rw [typesOf, List.map_cons, induction]

theorem alternativesUnder_eq (keyword : String) (items : Items) :
    alternativesUnder keyword items =
      (members items keyword).flatMap schemaAlternatives := by
  induction items with
  | nil => rfl
  | cons entry _ induction =>
      obtain ⟨_, value⟩ := entry
      unfold members at induction ⊢
      rw [alternativesUnder, get?_head]
      split
      · cases value with
        | list values => exact alternativesOf_eq values
        | _ => rfl
      · exact induction

theorem typesUnder_eq (keyword : String) (items : Items) :
    typesUnder keyword items = (members items keyword).map schemaTypes := by
  induction items with
  | nil => rfl
  | cons entry _ induction =>
      obtain ⟨_, value⟩ := entry
      unfold members at induction ⊢
      rw [typesUnder, get?_head]
      split
      · cases value with
        | list values => exact typesOf_eq values
        | _ => rfl
      · exact induction

theorem schemaAlternatives_dict (items : Items) :
    schemaAlternatives (.dict items) = .dict items ::
      ["oneOf", "anyOf", "allOf"].flatMap fun keyword =>
        (members items keyword).flatMap schemaAlternatives := by
  rw [schemaAlternatives]
  simp only [alternativesUnder_eq, List.flatMap_cons, List.flatMap_nil,
    List.append_nil]

theorem mem_schemaAlternatives_dict {candidate : Value} {items : Items} :
    candidate ∈ schemaAlternatives (.dict items) ↔
      candidate = .dict items ∨ ∃ keyword ∈ ["oneOf", "anyOf", "allOf"],
        ∃ member ∈ members items keyword,
          candidate ∈ schemaAlternatives member := by
  rw [schemaAlternatives_dict, List.mem_cons, List.mem_flatMap]
  simp only [List.mem_flatMap]

theorem alternatives_of_member {items : Items} {keyword : String}
    {member candidate : Value} (listed : keyword ∈ ["oneOf", "anyOf", "allOf"])
    (inside : member ∈ members items keyword)
    (deeper : candidate ∈ schemaAlternatives member) :
    candidate ∈ schemaAlternatives (.dict items) :=
  mem_schemaAlternatives_dict.mpr
    (.inr ⟨keyword, listed, member, inside, deeper⟩)

end AcpTask.Planner
