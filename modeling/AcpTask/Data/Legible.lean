import AcpTask.Data.Json

namespace AcpTask.Data

open Library

theorem mem_of_shortEscape {character letter : Char}
    (short : shortEscape character = some letter) :
    (character, letter) ∈ escapeLetters := by
  unfold shortEscape at short
  obtain ⟨entry, found, rfl⟩ := Option.map_eq_some_iff.mp short
  have key : entry.1 = character := by
    simpa using List.find?_some found
  rw [← key]
  exact List.mem_of_find?_eq_some found

theorem shortEscape_eq_none {character : Char}
    (plain : shortEscape character = none) :
    ∀ entry ∈ escapeLetters, entry.1 ≠ character := by
  unfold shortEscape at plain
  rw [Option.map_eq_none_iff, List.find?_eq_none] at plain
  intro entry member same
  exact plain entry member (by simp [same])

theorem digitChar_inj : ∀ first < 16, ∀ second < 16,
    Nat.digitChar first = Nat.digitChar second → first = second := by
  decide

theorem escape_ne {first second letter : Char} {rest other : List Char}
    (short : shortEscape first = some letter)
    (long : shortEscape second = none) :
    escape first ++ rest ≠ escape second ++ other := by
  have unhex : ∀ entry ∈ escapeLetters, entry.2 ≠ 'u' := by decide
  have backslash : ('\x5c', '\x5c') ∈ escapeLetters := by decide
  intro same
  simp only [escape, short, long] at same
  split at same
  · simp only [List.cons_append, List.cons.injEq, true_and] at same
    exact absurd same.1 (unhex _ (mem_of_shortEscape short))
  · simp only [List.cons_append, List.cons.injEq] at same
    exact absurd same.1 (shortEscape_eq_none long _ backslash)

theorem escape_prefixFree : PrefixFree escape := by
  have letters : ∀ entry ∈ escapeLetters, ∀ other ∈ escapeLetters,
      entry.2 = other.2 → entry.1 = other.1 := by decide
  have backslash : ('\x5c', '\x5c') ∈ escapeLetters := by decide
  intro first second rest other same
  cases firstShort : shortEscape first with
  | some =>
      cases secondShort : shortEscape second with
      | some =>
          simp only [escape, firstShort, secondShort, List.cons_append,
            List.nil_append, List.cons.injEq, true_and] at same
          exact ⟨letters _ (mem_of_shortEscape firstShort) _
            (mem_of_shortEscape secondShort) same.1, same.2⟩
      | none => exact absurd same (escape_ne firstShort secondShort)
  | none =>
      cases secondShort : shortEscape second with
      | some => exact absurd same.symm (escape_ne secondShort firstShort)
      | none =>
          simp only [escape, firstShort, secondShort] at same
          split at same
          · rename_i firstControl
            split at same
            · rename_i secondControl
              simp only [List.cons_append, List.nil_append, List.cons.injEq,
                true_and] at same
              have high := digitChar_inj _ (by omega) _ (by omega) same.1
              have low := digitChar_inj _ (by omega) _ (by omega) same.2.1
              exact ⟨Char.toNat_inj.mp (by omega), same.2.2⟩
            · simp only [List.cons_append, List.cons.injEq] at same
              exact absurd same.1 (shortEscape_eq_none secondShort _ backslash)
          · split at same
            · simp only [List.cons_append, List.cons.injEq] at same
              exact absurd same.1.symm
                (shortEscape_eq_none firstShort _ backslash)
            · simpa using same

theorem escape_begins (character : Char) : ∃ symbol rest,
    escape character = symbol :: rest ∧ symbol ≠ '\x22' := by
  unfold escape
  cases short : shortEscape character with
  | some => exact ⟨_, _, rfl, by decide⟩
  | none =>
      dsimp only
      split
      · exact ⟨_, _, rfl, by decide⟩
      · exact ⟨_, _, rfl,
          (shortEscape_eq_none short ('\x22', '\x22') (by decide)).symm⟩

theorem quote_append_inj {first second : String} {rest other : List Char}
    (same : quote first ++ rest = quote second ++ other) :
    first = second ∧ rest = other := by
  simp only [quote, List.cons_append, List.append_assoc, List.nil_append,
    List.cons.injEq, true_and] at same
  obtain ⟨characters, equal⟩ :=
    flatMap_append_inj escape_prefixFree escape_begins same
  exact ⟨String.toList_inj.mp characters, equal⟩

def Delimiter (symbol : Char) : Prop :=
  symbol = ',' ∨ symbol = ']' ∨ symbol = '\x7d'

instance : DecidablePred Delimiter := fun symbol =>
  inferInstanceAs (Decidable (symbol = ',' ∨ symbol = ']' ∨ symbol = '\x7d'))

def Numeric (symbol : Char) : Prop :=
  symbol.isDigit = true ∨ symbol ∈ ['-', '+', '.', 'e']

/-- A finite float carries the text that `float` reads it from: a decimal with
a point or an exponent. -/
def PyFloat.Genuine (read : String → Option ℚ) : PyFloat → Prop
  | .finite value repr =>
      read repr = some value ∧ (∀ symbol ∈ repr.toList, Numeric symbol) ∧
      ∃ symbol ∈ repr.toList, symbol = '.' ∨ symbol = 'e'
  | _ => True

namespace Value

mutual
def All (leaf : Value → Prop) : Value → Prop
  | .list items => AllItems leaf items
  | .dict items => AllPairs leaf items
  | .none => leaf .none
  | .bool value => leaf (.bool value)
  | .int value => leaf (.int value)
  | .float value => leaf (.float value)
  | .str text => leaf (.str text)
  | .object className => leaf (.object className)

def AllItems (leaf : Value → Prop) : List Value → Prop
  | [] => True
  | item :: items => All leaf item ∧ AllItems leaf items

def AllPairs (leaf : Value → Prop) : List (String × Value) → Prop
  | [] => True
  | (_, item) :: items => All leaf item ∧ AllPairs leaf items
end

def GenuineLeaf (read : String → Option ℚ) : Value → Prop
  | .float value => value.Genuine read
  | _ => True

abbrev Genuine (read : String → Option ℚ) (value : Value) : Prop :=
  value.All (GenuineLeaf read)

def LegibleLeaf (read : String → Option ℚ) : Value → Prop
  | .float value => value.Genuine read
  | .object _ => False
  | _ => True

abbrev Legible (read : String → Option ℚ) (value : Value) : Prop :=
  value.All (LegibleLeaf read)

mutual
theorem legible_of_genuine {read : String → Option ℚ} : ∀ {value : Value},
    value.serializable = true → value.Genuine read → value.Legible read
  | .none, _, _ | .bool _, _, _ | .int _, _, _ => trivial
  | .float _, _, genuine => genuine
  | .str _, _, _ => trivial
  | .list _, plain, genuine => legibleItems_of_genuine plain genuine
  | .dict _, plain, genuine => legiblePairs_of_genuine plain genuine
  | .object _, plain, _ => absurd plain (by simp [serializable])

theorem legibleItems_of_genuine {read : String → Option ℚ} :
    ∀ {items : List Value}, listSerializable items = true →
      AllItems (GenuineLeaf read) items → AllItems (LegibleLeaf read) items
  | [], _, _ => trivial
  | item :: items, plain, genuine => by
      rw [listSerializable, Bool.and_eq_true] at plain
      exact ⟨legible_of_genuine plain.1 genuine.1,
        legibleItems_of_genuine plain.2 genuine.2⟩

theorem legiblePairs_of_genuine {read : String → Option ℚ} :
    ∀ {items : List (String × Value)}, dictSerializable items = true →
      AllPairs (GenuineLeaf read) items → AllPairs (LegibleLeaf read) items
  | [], _, _ => trivial
  | (_, item) :: items, plain, genuine => by
      rw [dictSerializable, Bool.and_eq_true] at plain
      exact ⟨legible_of_genuine plain.1 genuine.1,
        legiblePairs_of_genuine plain.2 genuine.2⟩
end

variable {leaf : Value → Prop} {items : List (String × Value)}

theorem allPairs_iff :
    AllPairs leaf items ↔ ∀ item ∈ items, All leaf item.2 := by
  induction items with
  | nil => simp [AllPairs]
  | cons _ _ induction => simp [AllPairs, induction]

theorem allItems_iff {items : List Value} :
    AllItems leaf items ↔ ∀ item ∈ items, All leaf item := by
  induction items with
  | nil => simp [AllItems]
  | cons _ _ induction => simp [AllItems, induction]

theorem all_lookup (absent : leaf .none) (each : AllPairs leaf items)
    (key : String) : All leaf (lookup items key) := by
  unfold lookup
  cases found : get? items key with
  | none => exact absent
  | some =>
      obtain ⟨item, searched, rfl⟩ := Option.map_eq_some_iff.mp found
      exact allPairs_iff.mp each item
        (List.mem_reverse.mp (List.mem_of_find?_eq_some searched))

variable {value : Value}

theorem all_listOr? (text : ∀ text, leaf (.str text)) (each : All leaf value)
    {items : List Value} (listed : value.listOr? = some items) :
    AllItems leaf items := by
  unfold listOr? orElse at listed
  split at listed
  · cases value with
    | list =>
        cases listed
        exact each
    | dict | str =>
        cases listed
        rw [allItems_iff]
        intro item member
        obtain ⟨_, _, rfl⟩ := List.mem_map.mp member
        exact text _
    | _ => cases listed
  · cases listed
    trivial

theorem allPairs_insertItem (each : AllPairs leaf items) (key : String)
    (inserted : All leaf value) :
    AllPairs leaf (insertItem items key value) := by
  rw [allPairs_iff] at each ⊢
  intro item member
  unfold insertItem at member
  rw [List.mem_append, List.mem_cons] at member
  rcases member with before | rfl | after
  · exact each item (List.takeWhile_sublist _ |>.mem before)
  · exact inserted
  · exact each item (List.dropWhile_sublist _ |>.mem after)

mutual
theorem all_sortKeys {leaf : Value → Prop} : ∀ {value : Value},
    All leaf value → All leaf (sortKeys value)
  | .none, each | .bool _, each | .int _, each | .float _, each
  | .str _, each => by rw [sortKeys]; exact each
  | .list _, each => by rw [sortKeys]; exact allItems_sortKeys each
  | .dict _, each => by rw [sortKeys]; exact allPairs_sortKeys each
  | .object _, each => by rw [sortKeys]; exact each

theorem allItems_sortKeys {leaf : Value → Prop} : ∀ {items : List Value},
    AllItems leaf items → AllItems leaf (sortKeysItems items)
  | [], _ => trivial
  | _ :: _, each => ⟨all_sortKeys each.1, allItems_sortKeys each.2⟩

theorem allPairs_sortKeys {leaf : Value → Prop} :
    ∀ {items : List (String × Value)},
      AllPairs leaf items → AllPairs leaf (sortPairs items)
  | [], _ => trivial
  | (key, _) :: _, each => by
      rw [sortPairs]
      split
      · exact allPairs_sortKeys each.2
      · exact allPairs_insertItem (allPairs_sortKeys each.2) key
          (all_sortKeys each.1)
end

def readDecimal : List Char → Int
  | '-' :: digits => -(Nat.ofDigitChars 10 digits 0 : Int)
  | digits => Nat.ofDigitChars 10 digits 0

def words : List (List Char × Value) :=
  [("null".toList, .none), ("true".toList, .bool true),
    ("false".toList, .bool false), ("NaN".toList, .float .nan),
    ("Infinity".toList, .float (.infinity false)),
    ("-Infinity".toList, .float (.infinity true))]

def readToken (read : String → Option ℚ) (token : List Char) : Value :=
  match words.find? fun word => word.1 == token with
  | some word => word.2
  | Option.none =>
      if token.any fun symbol => symbol == '.' || symbol == 'e' then
        .float (.finite ((read (String.ofList token)).getD 0)
          (String.ofList token))
      else .int (readDecimal token)

def isToken : Value → Bool
  | .none | .bool _ | .int _ | .float _ => true
  | _ => false

theorem numeric_not_word {token : List Char}
    (numeric : ∀ symbol ∈ token, Numeric symbol) :
    (words.find? fun word => word.1 == token) = Option.none := by
  rw [List.find?_eq_none]
  intro word member same
  rw [beq_iff_eq] at same
  have letter : words.all (fun word => word.1.any fun symbol =>
      !symbol.isDigit && decide (symbol ∉ ['-', '+', '.', 'e'])) = true := by
    decide
  obtain ⟨symbol, inside, plain⟩ :=
    List.any_eq_true.mp (List.all_eq_true.mp letter word member)
  rw [Bool.and_eq_true, Bool.not_eq_true', decide_eq_true_iff] at plain
  obtain ⟨noDigit, noSign⟩ := plain
  rcases numeric symbol (same ▸ inside) with digit | sign
  · rw [noDigit] at digit
    cases digit
  · exact noSign sign

theorem decimal_digit {number : Int} {symbol : Char}
    (member : symbol ∈ decimal number) :
    symbol.isDigit = true ∨ symbol = '-' := by
  cases number with
  | ofNat =>
      exact .inl (Nat.isDigit_of_mem_toDigits (by decide) (by decide) member)
  | negSucc =>
      rcases List.mem_cons.mp member with rfl | digit
      · exact .inr rfl
      · exact .inl (Nat.isDigit_of_mem_toDigits (by decide) (by decide) digit)

theorem readDecimal_decimal (number : Int) :
    readDecimal (decimal number) = number := by
  cases number with
  | ofNat number =>
      have digits : ∀ symbol ∈ Nat.toDigits 10 number,
          symbol.isDigit = true := fun symbol member =>
        Nat.isDigit_of_mem_toDigits (by decide) (by decide) member
      have value : (Nat.ofDigitChars 10 (Nat.toDigits 10 number) 0 : Int) =
          number := by rw [Nat.ofDigitChars_ten_toDigits]
      rw [decimal]
      unfold readDecimal
      split
      · rename_i rest same
        rw [same] at digits
        exact absurd (digits '-' List.mem_cons_self) (by decide)
      · exact value
  | negSucc =>
      rw [decimal, readDecimal, Nat.ofDigitChars_ten_toDigits]
      rfl

variable {read : String → Option ℚ}

theorem readToken_render (token : value.isToken = true)
    (legible : value.Legible read) :
    readToken read value.render = value := by
  cases value with
  | none => rfl
  | bool value => cases value <;> rfl
  | int number =>
      have numeric : ∀ symbol ∈ decimal number, Numeric symbol := by
        intro symbol member
        rcases decimal_digit member with digit | rfl
        · exact .inl digit
        · exact .inr (by decide)
      have noPoint : ((decimal number).any fun symbol =>
          symbol == '.' || symbol == 'e') = false := by
        rw [List.any_eq_false]
        intro symbol member
        rcases decimal_digit member with digit | rfl
        · intro point
          rw [Bool.or_eq_true, beq_iff_eq, beq_iff_eq] at point
          rcases point with rfl | rfl
          · exact absurd digit (by decide)
          · exact absurd digit (by decide)
        · decide
      rw [render]
      simp only [readToken, numeric_not_word numeric, noPoint,
        Bool.false_eq_true, if_false, readDecimal_decimal]
  | float value =>
      cases value with
      | finite _ repr =>
          obtain ⟨reads, numeric, symbol, member, point⟩ := legible
          have pointed : (repr.toList.any fun symbol =>
              symbol == '.' || symbol == 'e') = true := by
            rw [List.any_eq_true]
            exact ⟨symbol, member, by simpa using point⟩
          rw [render, PyFloat.text]
          simp [readToken, numeric_not_word numeric, pointed, reads]
      | infinity negative => cases negative <;> rfl
      | nan => rfl
  | str | list | dict | object => cases token

def openings : List Char := ['\x22', '[', '\x7b']

def opening : Value → Option Char
  | .str _ => some '\x22'
  | .list _ => some '['
  | .dict _ => some '\x7b'
  | _ => Option.none

theorem openings_plain {symbol : Char} (opens : symbol ∈ openings) :
    symbol.isDigit = false ∧ ¬ Delimiter symbol := by
  simp only [openings, List.mem_cons, List.not_mem_nil, or_false] at opens
  rcases opens with rfl | rfl | rfl <;> exact ⟨by decide, by decide⟩

theorem numeric_token {token : List Char}
    (numeric : ∀ symbol ∈ token, Numeric symbol) :
    ∀ symbol ∈ token, ¬ Delimiter symbol ∧ symbol ∉ openings := by
  intro symbol member
  rcases numeric symbol member with digit | sign
  · constructor
    · rintro (rfl | rfl | rfl) <;> exact absurd digit (by decide)
    · intro opens
      rw [(openings_plain opens).1] at digit
      cases digit
  · simp only [List.mem_cons, List.not_mem_nil, or_false] at sign
    rcases sign with rfl | rfl | rfl | rfl <;> exact ⟨by decide, by decide⟩

theorem render_token (token : value.isToken = true)
    (legible : value.Legible read) :
    ∀ symbol ∈ value.render, ¬ Delimiter symbol ∧ symbol ∉ openings := by
  have plain : words.all (fun word => word.1.all fun symbol =>
      decide (¬ Delimiter symbol ∧ symbol ∉ openings)) = true := by decide
  have ofWord : ∀ word ∈ words, ∀ symbol ∈ word.1,
      ¬ Delimiter symbol ∧ symbol ∉ openings := fun word member symbol inside =>
    of_decide_eq_true
      (List.all_eq_true.mp (List.all_eq_true.mp plain word member) symbol inside)
  cases value with
  | none => exact ofWord ("null".toList, .none) (by simp [words])
  | bool value =>
      cases value
      · exact ofWord ("false".toList, .bool false) (by simp [words])
      · exact ofWord ("true".toList, .bool true) (by simp [words])
  | int =>
      refine numeric_token fun symbol member => ?_
      rcases decimal_digit member with digit | rfl
      · exact .inl digit
      · exact .inr (by decide)
  | float value =>
      cases value with
      | finite => exact numeric_token legible.2.1
      | infinity negative =>
          cases negative
          · exact ofWord ("Infinity".toList, .float (.infinity false))
              (by simp [words])
          · exact ofWord ("-Infinity".toList, .float (.infinity true))
              (by simp [words])
      | nan => exact ofWord ("NaN".toList, .float .nan) (by simp [words])
  | str | list | dict | object => cases token

theorem render_ne_nil (legible : value.Legible read) : value.render ≠ [] := by
  cases value with
  | bool value => cases value <;> simp [render]
  | int number => cases number <;> simp [render, decimal, Nat.toDigits_ne_nil]
  | float value =>
      cases value with
      | finite =>
          obtain ⟨_, _, _, member, _⟩ := legible
          exact List.ne_nil_of_mem member
      | infinity negative => cases negative <;> simp [render, PyFloat.text]
      | nan => simp [render, PyFloat.text]
  | object => exact legible.elim
  | _ => simp [render, quote]

theorem render_begins (legible : value.Legible read) : ∃ symbol rest,
    value.render = symbol :: rest ∧ ¬ Delimiter symbol ∧
      value.opening = if symbol ∈ openings then some symbol else Option.none := by
  have marks : ∀ symbol ∈ openings, ¬ Delimiter symbol :=
    fun _ opens => (openings_plain opens).2
  have ofToken : value.isToken = true → ∃ symbol rest,
      value.render = symbol :: rest ∧ ¬ Delimiter symbol ∧
        Option.none =
          if symbol ∈ openings then some symbol else Option.none := by
    intro token
    obtain ⟨symbol, rest, written⟩ :=
      List.exists_cons_of_ne_nil (render_ne_nil legible)
    have plain := render_token token legible symbol
      (written ▸ List.mem_cons_self)
    exact ⟨symbol, rest, written, plain.1, by rw [if_neg plain.2]⟩
  cases value with
  | str | list | dict => exact ⟨_, _, rfl, marks _ (by decide), rfl⟩
  | object => exact legible.elim
  | _ => exact ofToken rfl

variable {rest other : List Char}

theorem opening_eq {first second : Value} (firstLegible : first.Legible read)
    (secondLegible : second.Legible read)
    (same : first.render ++ rest = second.render ++ other) :
    first.opening = second.opening := by
  obtain ⟨_, _, written, _, opens⟩ := render_begins firstLegible
  obtain ⟨_, _, shown, _, alsoOpens⟩ := render_begins secondLegible
  rw [written, shown] at same
  rw [opens, alsoOpens, (List.cons.inj same).1]

theorem isToken_of_opening (legible : value.Legible read)
    (closed : value.opening = Option.none) :
    value.isToken = true := by
  cases value with
  | object => exact legible.elim
  | str | list | dict => cases closed
  | _ => rfl

theorem token_inj {first second : Value} (token : first.isToken = true)
    (firstLegible : first.Legible read) (secondLegible : second.Legible read)
    (restEnds : Delimited Delimiter rest)
    (otherEnds : Delimited Delimiter other)
    (same : first.render ++ rest = second.render ++ other) :
    first = second ∧ rest = other := by
  have closed : first.opening = Option.none := by
    cases first <;> first | rfl | cases token
  have another := isToken_of_opening secondLegible
    ((opening_eq firstLegible secondLegible same).symm.trans closed)
  obtain ⟨texts, equal⟩ := token_append_inj
    (fun symbol member => (render_token token firstLegible symbol member).1)
    (fun symbol member => (render_token another secondLegible symbol member).1)
    restEnds otherEnds same
  refine ⟨?_, equal⟩
  rw [← readToken_render token firstLegible, texts,
    readToken_render another secondLegible]

theorem delimiter_comma : Delimiter ',' := .inl rfl

theorem delimiter_bracket : Delimiter ']' := .inr (.inl rfl)

theorem delimiter_brace : Delimiter '\x7d' := .inr (.inr rfl)

theorem renderMoreItems_delimited (items : List Value) (rest : List Char) :
    Delimited Delimiter (renderMoreItems items ++ rest) := by
  cases items with
  | nil => exact .cons delimiter_bracket _
  | cons => exact .cons delimiter_comma _

theorem renderMorePairs_delimited (items : List (String × Value))
    (rest : List Char) :
    Delimited Delimiter (renderMorePairs items ++ rest) := by
  cases items with
  | nil => exact .cons delimiter_brace _
  | cons => exact .cons delimiter_comma _

theorem render_ne_bracket (legible : value.Legible read) :
    value.render ++ rest ≠ ']' :: other := by
  intro same
  obtain ⟨_, _, written, open_, _⟩ := render_begins legible
  rw [written] at same
  exact open_ ((List.cons.inj same).1 ▸ delimiter_bracket)

theorem renderItems_of_more {first second : List Value}
    (same : renderMoreItems first ++ rest = renderMoreItems second ++ other) :
    renderItems first ++ rest = renderItems second ++ other := by
  cases first <;> cases second
  · exact same
  · exact absurd (List.cons.inj same).1 (by decide)
  · exact absurd (List.cons.inj same).1 (by decide)
  · exact (List.cons.inj same).2

theorem renderPairs_of_more {first second : List (String × Value)}
    (same : renderMorePairs first ++ rest = renderMorePairs second ++ other) :
    renderPairs first ++ rest = renderPairs second ++ other := by
  cases first <;> cases second
  · exact same
  · exact absurd (List.cons.inj same).1 (by decide)
  · exact absurd (List.cons.inj same).1 (by decide)
  · exact (List.cons.inj same).2

mutual
theorem render_append_inj {read : String → Option ℚ} :
    ∀ {first second : Value}, first.Legible read → second.Legible read →
      ∀ {rest other : List Char}, Delimited Delimiter rest →
        Delimited Delimiter other →
        first.render ++ rest = second.render ++ other →
        first = second ∧ rest = other
  | .none, _, legible, readable, _, _, ends, stops, same
  | .bool _, _, legible, readable, _, _, ends, stops, same
  | .int _, _, legible, readable, _, _, ends, stops, same
  | .float _, _, legible, readable, _, _, ends, stops, same =>
      token_inj rfl legible readable ends stops same
  | .object _, _, legible, _, _, _, _, _, _ => legible.elim
  | .str text, second, legible, readable, _, _, _, _, same => by
      have opens := opening_eq legible readable same
      cases second with
      | str =>
          rw [render, render] at same
          obtain ⟨rfl, equal⟩ := quote_append_inj same
          exact ⟨rfl, equal⟩
      | _ => cases opens
  | .list items, second, legible, readable, _, _, _, _, same => by
      have opens := opening_eq legible readable same
      cases second with
      | list =>
          rw [render, render, List.cons_append, List.cons_append,
            List.cons.injEq] at same
          obtain ⟨rfl, equal⟩ := renderItems_append_inj legible readable same.2
          exact ⟨rfl, equal⟩
      | _ => cases opens
  | .dict items, second, legible, readable, _, _, _, _, same => by
      have opens := opening_eq legible readable same
      cases second with
      | dict =>
          rw [render, render, List.cons_append, List.cons_append,
            List.cons.injEq] at same
          obtain ⟨rfl, equal⟩ := renderPairs_append_inj legible readable same.2
          exact ⟨rfl, equal⟩
      | _ => cases opens

theorem renderItems_append_inj {read : String → Option ℚ} :
    ∀ {first second : List Value}, AllItems (LegibleLeaf read) first →
      AllItems (LegibleLeaf read) second → ∀ {rest other : List Char},
        renderItems first ++ rest = renderItems second ++ other →
        first = second ∧ rest = other
  | [], [], _, _, _, _, same => ⟨rfl, (List.cons.inj same).2⟩
  | [], item :: items, _, readable, _, _, same => by
      rw [renderItems, renderItems, List.append_assoc] at same
      exact absurd same.symm (render_ne_bracket readable.1)
  | item :: items, [], legible, _, _, _, same => by
      rw [renderItems, renderItems, List.append_assoc] at same
      exact absurd same (render_ne_bracket legible.1)
  | item :: items, another :: others, legible, readable, _, _, same => by
      rw [renderItems, renderItems, List.append_assoc, List.append_assoc]
        at same
      obtain ⟨rfl, tails⟩ := render_append_inj legible.1 readable.1
        (renderMoreItems_delimited _ _) (renderMoreItems_delimited _ _) same
      obtain ⟨rfl, equal⟩ := renderItems_append_inj legible.2 readable.2
        (renderItems_of_more tails)
      exact ⟨rfl, equal⟩

theorem renderPairs_append_inj {read : String → Option ℚ} :
    ∀ {first second : List (String × Value)},
      AllPairs (LegibleLeaf read) first →
      AllPairs (LegibleLeaf read) second → ∀ {rest other : List Char},
        renderPairs first ++ rest = renderPairs second ++ other →
        first = second ∧ rest = other
  | [], [], _, _, _, _, same => ⟨rfl, (List.cons.inj same).2⟩
  | [], (key, item) :: items, _, _, _, _, same
  | (key, item) :: items, [], _, _, _, _, same => by
      rw [renderPairs, renderPairs, quote] at same
      exact absurd (List.cons.inj same).1 (by decide)
  | (key, item) :: items, (name, another) :: others, legible, readable, _, _,
      same => by
      rw [renderPairs, renderPairs, List.append_assoc, List.append_assoc]
        at same
      obtain ⟨rfl, values⟩ := quote_append_inj same
      rw [List.cons_append, List.cons_append, List.append_assoc,
        List.append_assoc, List.cons.injEq] at values
      obtain ⟨rfl, tails⟩ := render_append_inj legible.1 readable.1
        (renderMorePairs_delimited _ _) (renderMorePairs_delimited _ _)
        values.2
      obtain ⟨rfl, equal⟩ := renderPairs_append_inj legible.2 readable.2
        (renderPairs_of_more tails)
      exact ⟨rfl, equal⟩
end

theorem sortKeys_of_dumps_eq {first second : Value}
    (firstGenuine : first.Genuine read) (secondGenuine : second.Genuine read)
    {text : String} (dumped : first.dumps = some text)
    (alsoDumped : second.dumps = some text) :
    first.sortKeys = second.sortKeys := by
  unfold dumps at dumped alsoDumped
  rw [Option.ite_none_right_eq_some] at dumped alsoDumped
  have texts : first.sortKeys.render = second.sortKeys.render :=
    String.ofList_injective
      ((Option.some.inj dumped.2).trans (Option.some.inj alsoDumped.2).symm)
  refine (render_append_inj
    (all_sortKeys (legible_of_genuine dumped.1 firstGenuine))
    (all_sortKeys (legible_of_genuine alsoDumped.1 secondGenuine))
    (.nil _) (.nil _) (?_ : _ ++ [] = _ ++ [])).1
  rw [texts]

end Value

end AcpTask.Data
