import Mathlib.Data.String.Basic
import AcpTask.Data.Value
import AcpTask.Library.Delimited

namespace AcpTask.Data

/-! `json.dumps(value, ensure_ascii=False, sort_keys=True,
separators=(",", ":"))`, and that what it writes can be read back. -/

def escapeLetters : List (Char × Char) :=
  [('\x22', '\x22'), ('\x5c', '\x5c'), ('\x08', 'b'), ('\x0a', 'n'),
    ('\x0d', 'r'), ('\x0c', 'f'), ('\x09', 't')]

def shortEscape (character : Char) : Option Char :=
  (escapeLetters.find? fun entry => entry.1 == character).map Prod.snd

def escape (character : Char) : List Char :=
  match shortEscape character with
  | some letter => ['\x5c', letter]
  | none =>
      if character.toNat < 32 then
        ['\x5c', 'u', '0', '0', Nat.digitChar (character.toNat / 16),
          Nat.digitChar (character.toNat % 16)]
      else [character]

def quote (text : String) : List Char :=
  '\x22' :: (text.toList.flatMap escape ++ ['\x22'])

def decimal : Int → List Char
  | .ofNat number => Nat.toDigits 10 number
  | .negSucc number => '-' :: Nat.toDigits 10 (number + 1)

def PyFloat.text : PyFloat → List Char
  | .finite _ repr => repr.toList
  | .infinity negative =>
      if negative then "-Infinity".toList else "Infinity".toList
  | .nan => "NaN".toList

namespace Value

mutual
/-- The text of a value; `json.dumps` raises for an object. -/
def render : Value → List Char
  | .none => "null".toList
  | .bool value => if value then "true".toList else "false".toList
  | .int value => decimal value
  | .float value => value.text
  | .str text => quote text
  | .list items => '[' :: renderItems items
  | .dict items => '\x7b' :: renderPairs items
  | .object _ => []

def renderItems : List Value → List Char
  | [] => [']']
  | item :: items => render item ++ renderMoreItems items

def renderMoreItems : List Value → List Char
  | [] => [']']
  | item :: items => ',' :: (render item ++ renderMoreItems items)

def renderPairs : List (String × Value) → List Char
  | [] => ['\x7d']
  | (key, item) :: items =>
      quote key ++ ':' :: (render item ++ renderMorePairs items)

def renderMorePairs : List (String × Value) → List Char
  | [] => ['\x7d']
  | (key, item) :: items =>
      ',' :: (quote key ++ ':' :: (render item ++ renderMorePairs items))
end

mutual
/-- Every dict with its items in the order of their keys, the last one of each
key. -/
def sortKeys : Value → Value
  | .list items => .list (sortKeysItems items)
  | .dict items => .dict (sortPairs items)
  | .none => .none
  | .bool value => .bool value
  | .int value => .int value
  | .float value => .float value
  | .str text => .str text
  | .object className => .object className

def sortKeysItems : List Value → List Value
  | [] => []
  | item :: items => sortKeys item :: sortKeysItems items

def sortPairs : List (String × Value) → List (String × Value)
  | [] => []
  | (key, item) :: items =>
      if (get? (sortPairs items) key).isSome then sortPairs items
      else insertItem (sortPairs items) key (sortKeys item)
end

def dumps (value : Value) : Option String :=
  if value.serializable then some (String.ofList value.sortKeys.render)
  else Option.none

theorem get?_append (first second : List (String × Value)) (key : String) :
    get? (first ++ second) key = (get? second key).or (get? first key) := by
  simp only [get?, List.reverse_append, List.find?_append, Option.map_or]

theorem get?_cons (key : String) (item : Value)
    (items : List (String × Value)) (other : String) :
    get? ((key, item) :: items) other =
      (get? items other).or (if key = other then some item else Option.none) := by
  rw [← List.singleton_append, get?_append]
  congr 1
  by_cases same : key = other
  · simp [get?, same]
  · simp [get?, same]

variable {items : List (String × Value)} {key : String}

theorem get?_eq_none_iff :
    get? items key = Option.none ↔ ∀ item ∈ items, item.1 ≠ key := by
  simp [get?]

variable {keys : List String}

theorem get?_of_select {value : Value}
    (found : get? (select items keys) key = some value) :
    get? items key = some value := by
  unfold get? at found
  obtain ⟨entry, first, rfl⟩ := Option.map_eq_some_iff.mp found
  have inside := List.mem_reverse.mp (List.mem_of_find?_eq_some first)
  have named : entry.1 = key := by simpa using List.find?_some first
  obtain ⟨name, _, taken⟩ := List.mem_filterMap.mp inside
  cases present : get? items name with
  | none => simp [lookup, present] at taken
  | some value =>
      have same : lookup items name = value := by simp [lookup, present]
      rw [same] at taken
      split at taken
      · cases taken
      · cases taken
        rw [← named]
        exact present

theorem lookup_select (member : key ∈ keys) :
    lookup (select items keys) key = lookup items key := by
  cases found : get? (select items keys) key with
  | some => rw [lookup, found, lookup, get?_of_select found]
  | none =>
      have absent := get?_eq_none_iff.mp found
      cases present : lookup items key with
      | none => simp [lookup, found]
      | _ =>
          refine absurd rfl (absent (key, lookup items key) ?_)
          refine List.mem_filterMap.mpr ⟨key, member, ?_⟩
          simp [present]

theorem select_select {wider : List String} (within : ∀ key ∈ keys, key ∈ wider) :
    select (select items wider) keys = select items keys := by
  refine List.filterMap_congr fun key member => ?_
  rw [lookup_select (within key member)]

theorem insertItem_split (absent : get? items key = Option.none) (value : Value) :
    ∃ before after, items = before ++ after ∧
      insertItem items key value = before ++ (key, value) :: after := by
  refine ⟨_, _, (List.takeWhile_append_dropWhile
    (p := fun item => decide (item.1 < key))).symm, ?_⟩
  unfold insertItem
  congr 2
  induction items with
  | nil => rfl
  | cons item _ induction =>
      have others := get?_eq_none_iff.mp absent
      have less : (item.1 ≤ key) ↔ (item.1 < key) :=
        ⟨fun atMost => lt_of_le_of_ne atMost
          (others item List.mem_cons_self), le_of_lt⟩
      have smaller := induction (get?_eq_none_iff.mpr
        fun other member => others other (List.mem_cons_of_mem _ member))
      simp only [List.dropWhile_cons, less, smaller]

theorem get?_insertItem (absent : get? items key = Option.none) (value : Value)
    (other : String) :
    get? (insertItem items key value) other =
      (get? items other).or (if key = other then some value else Option.none) := by
  obtain ⟨_, _, rfl, inserted⟩ := insertItem_split absent value
  rw [inserted, get?_append, get?_cons, get?_append]
  by_cases same : key = other
  · subst same
    rw [get?_append, Option.or_eq_none_iff] at absent
    simp [absent]
  · simp [same]

theorem get?_sortPairs (items : List (String × Value)) (key : String) :
    get? (sortPairs items) key = (get? items key).map sortKeys := by
  induction items with
  | nil => rfl
  | cons entry items induction =>
      obtain ⟨name, item⟩ := entry
      rw [get?_cons, sortPairs]
      split
      · rename_i present
        rw [induction]
        by_cases same : name = key
        · subst same
          rw [induction, Option.isSome_map] at present
          rw [Option.or_of_isSome present]
        · simp [same]
      · rename_i absent
        rw [get?_insertItem (Option.not_isSome_iff_eq_none.mp absent),
          induction, Option.map_or]
        congr 1
        split <;> rfl

theorem get?_of_sortKeys_eq {first second : List (String × Value)}
    (same : sortKeys (.dict first) = sortKeys (.dict second)) (key : String) :
    (get? first key).map sortKeys = (get? second key).map sortKeys := by
  rw [← get?_sortPairs, ← get?_sortPairs]
  rw [sortKeys, sortKeys] at same
  rw [Value.dict.inj same]

theorem lookup_of_sortKeys_eq {first second : List (String × Value)}
    (same : sortKeys (.dict first) = sortKeys (.dict second)) (key : String) :
    sortKeys (lookup first key) = sortKeys (lookup second key) := by
  have equal := get?_of_sortKeys_eq same key
  have absent : sortKeys .none = .none := by rw [sortKeys]
  unfold lookup
  cases found : get? first key <;> cases present : get? second key <;> simp_all

theorem sortKeys_eq_str_iff {value : Value} {text : String} :
    value.sortKeys = .str text ↔ value = .str text := by
  cases value <;> simp [sortKeys]

theorem sortKeys_of_hashable {value : Value} (hashes : value.hashable = true) :
    value.sortKeys = value := by
  cases value with
  | list | dict => cases hashes
  | _ => rw [sortKeys]

theorem sortKeysItems_of_hashable {items : List Value}
    (hash : ∀ item ∈ items, item.hashable = true) :
    sortKeysItems items = items := by
  induction items with
  | nil => rfl
  | cons item _ induction =>
      rw [sortKeysItems, sortKeys_of_hashable (hash item List.mem_cons_self),
        induction fun other member =>
          hash other (List.mem_cons_of_mem _ member)]

end Value

/-- `text.split(".")`. -/
def pieces (text : String) : List String :=
  (text.toList.splitOn '.').map String.ofList

/-- The path of `{"$ref": path}`, an object of this one key with a text. -/
def reference? : List (String × Value) → Option String
  | [("$ref", .str path)] => some path
  | _ => none

/-- `set(items) == {"$ref"}`. -/
def isReference (items : List (String × Value)) : Bool :=
  !items.isEmpty && items.all fun item => item.1 == "$ref"

/-- `set(items) == set(others)`. -/
def sameKeys (items others : List (String × Value)) : Bool :=
  (items.all fun item => (Value.get? others item.1).isSome) &&
    others.all fun other => (Value.get? items other.1).isSome

mutual
/-- Only what a `$ref` of the approved input stands for may differ. -/
def matchesApprovedTemplate : Value → Value → Bool
  | .dict items, resolved =>
      if isReference items then true
      else match resolved with
        | .dict others => sameKeys items others && matchesItems items others
        | _ => false
  | .list items, resolved =>
      match resolved with
      | .list others =>
          items.length == others.length && matchesList items others
      | _ => false
  | .none, resolved => Value.equals .none resolved
  | .bool value, resolved => Value.equals (.bool value) resolved
  | .int value, resolved => Value.equals (.int value) resolved
  | .float value, resolved => Value.equals (.float value) resolved
  | .str text, resolved => Value.equals (.str text) resolved
  | .object className, resolved => Value.equals (.object className) resolved

def matchesItems : List (String × Value) → List (String × Value) → Bool
  | [], _ => true
  | (key, item) :: items, others =>
      (if (Value.get? items key).isSome then true
        else match Value.get? others key with
          | some other => matchesApprovedTemplate item other
          | none => false) && matchesItems items others

def matchesList : List Value → List Value → Bool
  | item :: items, other :: others =>
      matchesApprovedTemplate item other && matchesList items others
  | _, _ => true
end

end AcpTask.Data
