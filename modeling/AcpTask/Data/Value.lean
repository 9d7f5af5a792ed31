import Mathlib.Data.Rat.Defs

namespace AcpTask.Data

/-! The dynamically typed values that cross the services' boundaries: what
`json.loads` produces, and what a provider adapter hands back. -/

/-- A float, finite ones with the text `repr` writes for them. -/
inductive PyFloat where
  | finite (value : ℚ) (repr : String)
  | infinity (negative : Bool)
  | nan
  deriving DecidableEq

inductive Value where
  | none
  | bool (value : Bool)
  | int (value : Int)
  | float (value : PyFloat)
  | str (value : String)
  | list (items : List Value)
  | dict (items : List (String × Value))
  | object (className : String)

namespace Value

/-- `bool(value)`. -/
def truthy : Value → Bool
  | .none => false
  | .bool value => value
  | .int value => value != 0
  | .float (.finite value _) => decide (value ≠ 0)
  | .float _ => true
  | .str value => value != ""
  | .list items => !items.isEmpty
  | .dict items => !items.isEmpty
  | .object _ => true

def get? (items : List (String × Value)) (key : String) : Option Value :=
  (items.reverse.find? fun item => item.1 == key).map Prod.snd

/-- `items.get(key)`. -/
def lookup (items : List (String × Value)) (key : String) : Value :=
  (get? items key).getD .none

def asStr? : Value → Option String
  | .str value => some value
  | _ => Option.none

/-- `value or {}`. -/
def orEmpty (value : Value) : Value := if value.truthy then value else .dict []

mutual
/-- `json.dumps` accepts the value: no object of a class of its own inside. -/
def serializable : Value → Bool
  | .object _ => false
  | .list items => listSerializable items
  | .dict items => dictSerializable items
  | _ => true

def listSerializable : List Value → Bool
  | [] => true
  | item :: items => serializable item && listSerializable items

def dictSerializable : List (String × Value) → Bool
  | [] => true
  | (_, item) :: items => serializable item && dictSerializable items
end

mutual
def beq : Value → Value → Bool
  | .none, .none => true
  | .bool left, .bool right => left == right
  | .int left, .int right => left == right
  | .float left, .float right => left == right
  | .str left, .str right => left == right
  | .list left, .list right => listBeq left right
  | .dict left, .dict right => dictBeq left right
  | .object left, .object right => left == right
  | _, _ => false

def listBeq : List Value → List Value → Bool
  | [], [] => true
  | left :: lefts, right :: rights => beq left right && listBeq lefts rights
  | _, _ => false

def dictBeq : List (String × Value) → List (String × Value) → Bool
  | [], [] => true
  | (key, left) :: lefts, (other, right) :: rights =>
      key == other && beq left right && dictBeq lefts rights
  | _, _ => false
end

mutual
theorem beq_iff : ∀ left right : Value, beq left right = true ↔ left = right
  | .none, right | .bool left, right | .int left, right | .float left, right
  | .str left, right => by cases right <;> simp [beq]
  | .list left, right => by cases right <;> simp [beq, listBeq_iff left]
  | .dict left, right => by cases right <;> simp [beq, dictBeq_iff left]
  | .object left, right => by cases right <;> simp [beq]

theorem listBeq_iff : ∀ left right : List Value,
    listBeq left right = true ↔ left = right
  | [], right => by cases right <;> simp [listBeq]
  | left :: lefts, right => by
      cases right <;> simp [listBeq, beq_iff left, listBeq_iff lefts]

theorem dictBeq_iff : ∀ left right : List (String × Value),
    dictBeq left right = true ↔ left = right
  | [], right => by cases right <;> simp [dictBeq]
  | (key, left) :: lefts, right => by
      cases right <;>
        simp [dictBeq, beq_iff left, dictBeq_iff lefts, Prod.ext_iff]
end

instance : DecidableEq Value := fun left right =>
  decidable_of_iff _ (beq_iff left right)

end Value

end AcpTask.Data

namespace AcpTask.Data

/-! Operations of Python on a value read from JSON; `none` is an exception. -/

namespace Value

/-- `hash(value)` raises for a list and for a dict. -/
def hashable : Value → Bool
  | .list _ | .dict _ => false
  | _ => true

/-- `value.get(key)`. -/
def item? (value : Value) (key : String) : Option Value :=
  match value with
  | .dict items => some (lookup items key)
  | _ => Option.none

@[simp] theorem item?_dict (items : List (String × Value)) (key : String) :
    item? (.dict items) key = some (lookup items key) := rfl

/-- `value or other`. -/
def orElse (value other : Value) : Value :=
  if value.truthy then value else other

/-- `list(value)`. -/
def iterate? : Value → Option (List Value)
  | .list items => some items
  | .dict items => some (items.map fun item => .str item.1)
  | .str text => some (text.toList.map fun character => .str character.toString)
  | _ => Option.none

/-- `list(value or [])`. -/
def listOr? (value : Value) : Option (List Value) :=
  (value.orElse (.list [])).iterate?

@[simp] theorem listOr?_list (items : List Value) :
    listOr? (.list items) = some items := by
  cases items <;> rfl

def number? : Value → Option ℚ
  | .bool value => some (if value then 1 else 0)
  | .int value => some value
  | .float (.finite value _) => some value
  | _ => Option.none

mutual
/-- `left == right`: numbers compare by what they are worth. -/
def equals : Value → Value → Bool
  | .list lefts, .list rights => listEquals lefts rights
  | .dict lefts, .dict rights => dictEquals lefts rights
  | .float .nan, _ => false
  | left, right =>
      match number? left, number? right with
      | some worth, some other => worth == other
      | Option.none, Option.none => decide (left = right)
      | _, _ => false

def listEquals : List Value → List Value → Bool
  | [], [] => true
  | left :: lefts, right :: rights => equals left right && listEquals lefts rights
  | _, _ => false

def dictEquals : List (String × Value) → List (String × Value) → Bool
  | [], [] => true
  | (key, left) :: lefts, (other, right) :: rights =>
      key == other && equals left right && dictEquals lefts rights
  | _, _ => false
end

/-- `value == text`, for a string of the program. -/
def isText (value : Value) (text : String) : Bool :=
  match value with
  | .str own => own == text
  | _ => false

theorem isText_iff {value : Value} {text : String} :
    value.isText text = true ↔ value = .str text := by
  cases value <;> simp [isText]

/-- `items[key] = value`, the items in the order of their keys. -/
def insertItem (items : List (String × Value)) (key : String) (value : Value) :
    List (String × Value) :=
  items.takeWhile (fun item => decide (item.1 < key)) ++
    (key, value) :: items.dropWhile (fun item => decide (item.1 ≤ key))

/-- Those of the keys whose item is not `None`, in order. -/
def select (items : List (String × Value)) (keys : List String) :
    List (String × Value) :=
  keys.filterMap fun key =>
    match lookup items key with
    | .none => Option.none
    | value => some (key, value)

end Value

structure StandardLibrary where
  /-- `str(value)`. -/
  str : Value → String
  /-- `int(text)`. -/
  int : String → Option Int
  /-- `unicodedata.normalize("NFKD", text)`. -/
  nfkd : String → String
  /-- `unicodedata.combining(character)`. -/
  combining : Char → Bool
  lower : String → String
  isSpace : Char → Bool
  /-- The UTC instant of a timestamp as Spanish or English readers write it;
  nothing when it is not one. -/
  instant : Bool → Value → Option String

namespace StandardLibrary

/-- `int(value or 0)`. -/
def intOr? (library : StandardLibrary) (value : Value) : Option Int :=
  if !value.truthy then some 0
  else match value with
    | .bool _ => some 1
    | .int number => some number
    | .float (.finite number _) => some (number.num.tdiv number.den)
    | .str text => library.int text
    | _ => none

@[simp] theorem intOr?_int (library : StandardLibrary) (number : Int) :
    library.intOr? (.int number) = some number := by
  by_cases zero : number = 0
  · subst zero
    rfl
  · simp [intOr?, Value.truthy, zero]

/-- `text.strip()`. -/
def strip (library : StandardLibrary) (text : String) : String :=
  String.ofList ((text.toList.dropWhile library.isSpace).reverse.dropWhile
    library.isSpace).reverse

/-- `text.split()`. -/
def words (library : StandardLibrary) (text : String) : List String :=
  ((text.toList.splitOnP library.isSpace).filter fun word =>
    !word.isEmpty).map String.ofList

end StandardLibrary

end AcpTask.Data
