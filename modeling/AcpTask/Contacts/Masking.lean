import Mathlib.Algebra.GroupWithZero.Nat
import AcpTask.Contacts.Ownership
import AcpTask.Library.Delimited

namespace AcpTask.Contacts

open Data Library

/-- The code points whose `str.isdigit()` holds, from the first to the last of
each range. -/
def digitRanges : List (Nat × Nat) :=
  [(0x30, 0x39), (0xB2, 0xB3), (0xB9, 0xB9), (0x660, 0x669), (0x6F0, 0x6F9),
    (0x7C0, 0x7C9), (0x966, 0x96F), (0x9E6, 0x9EF), (0xA66, 0xA6F),
    (0xAE6, 0xAEF), (0xB66, 0xB6F), (0xBE6, 0xBEF), (0xC66, 0xC6F),
    (0xCE6, 0xCEF), (0xD66, 0xD6F), (0xDE6, 0xDEF), (0xE50, 0xE59),
    (0xED0, 0xED9), (0xF20, 0xF29), (0x1040, 0x1049), (0x1090, 0x1099),
    (0x1369, 0x1371), (0x17E0, 0x17E9), (0x1810, 0x1819), (0x1946, 0x194F),
    (0x19D0, 0x19DA), (0x1A80, 0x1A89), (0x1A90, 0x1A99), (0x1B50, 0x1B59),
    (0x1BB0, 0x1BB9), (0x1C40, 0x1C49), (0x1C50, 0x1C59), (0x2070, 0x2070),
    (0x2074, 0x2079), (0x2080, 0x2089), (0x2460, 0x2468), (0x2474, 0x247C),
    (0x2488, 0x2490), (0x24EA, 0x24EA), (0x24F5, 0x24FD), (0x24FF, 0x24FF),
    (0x2776, 0x277E), (0x2780, 0x2788), (0x278A, 0x2792), (0xA620, 0xA629),
    (0xA8D0, 0xA8D9), (0xA900, 0xA909), (0xA9D0, 0xA9D9), (0xA9F0, 0xA9F9),
    (0xAA50, 0xAA59), (0xABF0, 0xABF9), (0xFF10, 0xFF19), (0x104A0, 0x104A9),
    (0x10A40, 0x10A43), (0x10D30, 0x10D39), (0x10E60, 0x10E68),
    (0x11052, 0x1105A), (0x11066, 0x1106F), (0x110F0, 0x110F9),
    (0x11136, 0x1113F), (0x111D0, 0x111D9), (0x112F0, 0x112F9),
    (0x11450, 0x11459), (0x114D0, 0x114D9), (0x11650, 0x11659),
    (0x116C0, 0x116C9), (0x11730, 0x11739), (0x118E0, 0x118E9),
    (0x11950, 0x11959), (0x11C50, 0x11C59), (0x11D50, 0x11D59),
    (0x11DA0, 0x11DA9), (0x16A60, 0x16A69), (0x16AC0, 0x16AC9),
    (0x16B50, 0x16B59), (0x1D7CE, 0x1D7FF), (0x1E140, 0x1E149),
    (0x1E2F0, 0x1E2F9), (0x1E950, 0x1E959), (0x1F100, 0x1F10A),
    (0x1FBF0, 0x1FBF9)]

/-- Those whose `str.isspace()` holds. -/
def spaceRanges : List (Nat × Nat) :=
  [(0x9, 0xD), (0x1C, 0x20), (0x85, 0x85), (0xA0, 0xA0), (0x1680, 0x1680),
    (0x2000, 0x200A), (0x2028, 0x2029), (0x202F, 0x202F), (0x205F, 0x205F),
    (0x3000, 0x3000)]

def isWithin (ranges : List (Nat × Nat)) (character : Char) : Bool :=
  ranges.any fun range =>
    decide (range.1 ≤ character.toNat) && decide (character.toNat ≤ range.2)

def isDigit (character : Char) : Bool := isWithin digitRanges character

def isSpace (character : Char) : Bool := isWithin spaceRanges character

def visibleTrailingDigits : Nat := 4

def maskGlyph : Char := '•'

def fingerprintLength : Nat := 8

def callingCodes3 : List String :=
  ["212", "213", "216", "218", "220", "221", "222", "223", "224", "225",
    "226", "227", "228", "229", "230", "231", "232", "233", "234", "235",
    "236", "237", "238", "239", "240", "241", "242", "243", "244", "245",
    "246", "248", "249", "250", "251", "252", "253", "254", "255", "256",
    "257", "258", "260", "261", "262", "263", "264", "265", "266", "267",
    "268", "269", "290", "291", "297", "298", "299", "350", "351", "352",
    "353", "354", "355", "356", "357", "358", "359", "370", "371", "372",
    "373", "374", "375", "376", "377", "378", "380", "381", "382", "383",
    "385", "386", "387", "389", "420", "421", "423", "500", "501", "502",
    "503", "504", "505", "506", "507", "508", "509", "590", "591", "592",
    "593", "594", "595", "596", "597", "598", "599", "670", "672", "673",
    "674", "675", "676", "677", "678", "679", "680", "681", "682", "683",
    "685", "686", "687", "688", "689", "690", "691", "692", "850", "852",
    "853", "855", "856", "880", "886", "960", "961", "962", "963", "964",
    "965", "966", "967", "968", "970", "971", "972", "973", "974", "975",
    "976", "977", "992", "993", "994", "995", "996", "998"]

def callingCodes2 : List String :=
  ["20", "27", "30", "31", "32", "33", "34", "36", "39", "40", "41", "43",
    "44", "45", "46", "47", "48", "49", "51", "52", "53", "54", "55", "56",
    "57", "58", "60", "61", "62", "63", "64", "65", "66", "81", "82", "84",
    "86", "90", "91", "92", "93", "94", "95", "98"]

def callingCodes1 : List String := ["1", "7"]

structure MaskedDestination where
  channel : String
  text : String
  countryCode : Option String
  digitCount : Option Nat
  visibleTail : Option String
  fingerprint : String
  branchPath : Option String
  lastContactedAt : Option String

/-- What is recorded of the last contact: a moment, by the day it falls on, or
something else, by its text. -/
inductive Moment where
  | dated (day : String)
  | other (text : String)

def normalizeChannelAddress (library : StandardLibrary) (channel : String)
    (address : Option String) : String :=
  let text := strip isSpace (address.getD "").toList
  if channel = "email" then library.lower (String.ofList text)
  else String.ofList (text.filter fun character =>
    isDigit character || character == '+')

def glyphs (count : Nat) : Text := List.replicate count maskGlyph

def bulletGroups : Nat → List Text
  | 0 => []
  | 1 => [glyphs 1]
  | 2 => [glyphs 2]
  | remaining + 3 => glyphs 3 :: bulletGroups remaining

def bullets (count : Nat) : Text := [' '].intercalate (bulletGroups count)

def numberOf (normalized : Text) : Text :=
  normalized.dropWhile fun character => character == '+'

/-- The country calling code, or `none` where the prefix is unlisted. -/
def callingCode (normalized : Text) : Option String :=
  let digits := numberOf normalized
  [(3, callingCodes3), (2, callingCodes2), (1, callingCodes1)].findSome?
    fun (width, table) =>
      let code := String.ofList (digits.take width)
      if code ∈ table then some code else none

structure MaskedNumber where
  shown : Text
  code : Option String
  tail : Option (Text)
  digits : Nat

def subscriberOf (normalized : Text) : Text :=
  (numberOf normalized).drop
    ((callingCode normalized).elim 0 fun code => code.toList.length)

def keptOf (rest : Text) : Nat := min visibleTrailingDigits (rest.length - 2)

def tailOf (rest : Text) : Text :=
  if keptOf rest = 0 then [] else rest.drop (rest.length - keptOf rest)

def maskTelephone (normalized : Text) : MaskedNumber :=
  let digits := numberOf normalized
  let code := callingCode normalized
  let rest := subscriberOf normalized
  let tail := tailOf rest
  let hidden := bullets (rest.length - keptOf rest)
  let shown := [' '].intercalate
    ([hidden, tail].filter fun part => !part.isEmpty)
  let sign := code.elim [] fun code => '+' :: code.toList ++ [' ']
  { shown := strip isSpace (sign ++ shown)
    code
    tail := if tail = [] then none else some tail
    digits := digits.length }

def maskLabel (label : Text) : Text := label.take 1 ++ glyphs (label.length - 1)

def maskEmail (normalized : Text) : Text :=
  let mailbox := beforeFirst '@' normalized
  let domain := afterFirst '@' normalized
  let maskedLocal := if mailbox = [] then glyphs 3 else maskLabel mailbox
  let labels := if domain = [] then [] else domain.splitOn '.'
  let maskedDomain :=
    if 1 < labels.length then
      ['.'].intercalate (labels.dropLast.map maskLabel ++ [labels.getLastD []])
    else glyphs 3
  maskedLocal ++ '@' :: maskedDomain

def stampOf : Option Moment → Option String
  | none => none
  | some (.dated day) => some day
  | some (.other text) => some (String.ofList (text.toList.take 10))

def fingerprintOf (sha256 : String → String)
    (tenantId addressId : Option String) (normalized : String) : String :=
  let material := tenantId.getD "" ++ "|" ++
    (if addressId.getD "" = "" then "addr:" ++ normalized
      else addressId.getD "")
  String.ofList ((sha256 material).toList.take fingerprintLength)

def contactedPart (stamp : Option String) : Text :=
  if stamp.getD "" = "" then "never contacted".toList
  else "last contacted ".toList ++ (stamp.getD "").toList

def compose (masked : Text) (fingerprint : String)
    (branchPath stamp : Option String) : String :=
  let parts := [masked, fingerprint.toList] ++
    (if branchPath.getD "" = "" then [] else [(branchPath.getD "").toList]) ++
    [contactedPart stamp]
  String.ofList ([' ', '·', ' '].intercalate
    (parts.filter fun part => !part.isEmpty))

def maskDestination (library : StandardLibrary) (sha256 : String → String)
    (channel : String) (address addressId tenantId branchPath : Option String)
    (lastContactedAt : Option Moment) : MaskedDestination :=
  let normalized := normalizeChannelAddress library channel address
  let fingerprint := fingerprintOf sha256 tenantId addressId normalized
  let stamp := stampOf lastContactedAt
  let text := normalized.toList
  if channel = "email" then
    { channel
      text := compose (maskEmail text) fingerprint branchPath stamp
      countryCode := none
      digitCount := none
      visibleTail :=
        if '.' ∈ text then some (String.ofList (afterLast '.' text)) else none
      fingerprint, branchPath
      lastContactedAt := stamp }
  else
    let number := maskTelephone text
    { channel
      text := compose number.shown fingerprint branchPath stamp
      countryCode := number.code
      digitCount := some number.digits
      visibleTail := number.tail.map String.ofList
      fingerprint, branchPath
      lastContactedAt := stamp }

def digitsIn (text : Text) : Nat := text.countP isDigit

variable {character : Char}

@[simp] theorem isDigit_plus : isDigit '+' = false := by decide

@[simp] theorem isDigit_blank : isDigit ' ' = false := by decide

@[simp] theorem isDigit_maskGlyph : isDigit maskGlyph = false := by decide

@[simp] theorem digitsIn_nil : digitsIn [] = 0 := rfl

@[simp] theorem digitsIn_append (left right : Text) :
    digitsIn (left ++ right) = digitsIn left + digitsIn right :=
  List.countP_append

theorem digitsIn_cons_of_not {text : Text}
    (notDigit : isDigit character = false) :
    digitsIn (character :: text) = digitsIn text :=
  List.countP_cons_of_neg (by simp [notDigit])

@[simp] theorem digitsIn_glyphs (count : Nat) : digitsIn (glyphs count) = 0 := by
  apply List.countP_eq_zero.mpr
  intro character member
  rw [List.eq_of_mem_replicate member, isDigit_maskGlyph]
  decide

theorem intercalate_cons {separator head : Text}
    {parts : List Text} (more : parts ≠ []) :
    separator.intercalate (head :: parts) =
      head ++ separator ++ separator.intercalate parts := by
  cases parts with
  | nil => contradiction
  | cons => simp [List.intercalate]

theorem digitsIn_intercalate (parts : List Text) :
    digitsIn ([' '].intercalate parts) = (parts.map digitsIn).sum := by
  induction parts with
  | nil => rfl
  | cons _ parts induction =>
      cases parts with
      | nil => simp [List.intercalate]
      | cons next parts =>
          rw [intercalate_cons (List.cons_ne_nil next parts), List.map_cons,
            List.sum_cons, ← induction]
          simp [digitsIn_cons_of_not]

@[simp] theorem digitsIn_bullets (count : Nat) : digitsIn (bullets count) = 0 := by
  rw [bullets, digitsIn_intercalate]
  fun_induction bulletGroups count with
  | case1 | case2 | case3 => rfl
  | case4 _ induction =>
      rw [List.map_cons, List.sum_cons, induction, digitsIn_glyphs]

theorem mem_intercalate {separator : Text} {parts : List Text}
    (member : character ∈ separator.intercalate parts) :
    character ∈ separator ∨ ∃ part ∈ parts, character ∈ part := by
  induction parts with
  | nil => simp [List.intercalate] at member
  | cons part parts induction =>
      cases parts with
      | nil =>
          exact .inr ⟨part, List.mem_cons_self,
            by simpa [List.intercalate] using member⟩
      | cons next parts =>
          rw [intercalate_cons (List.cons_ne_nil next parts),
            List.mem_append, List.mem_append] at member
          rcases member with (here | here) | here
          · exact .inr ⟨part, List.mem_cons_self, here⟩
          · exact .inl here
          · rcases induction here with here | ⟨other, listed, here⟩
            · exact .inl here
            · exact .inr ⟨other, .tail _ listed, here⟩

theorem mem_bulletGroups {count : Nat} {group : Text}
    (listed : group ∈ bulletGroups count) : ∃ size, group = glyphs size := by
  fun_induction bulletGroups count with
  | case1 => simp at listed
  | case2 => exact ⟨1, List.mem_singleton.mp listed⟩
  | case3 => exact ⟨2, List.mem_singleton.mp listed⟩
  | case4 _ induction =>
      rcases List.mem_cons.mp listed with first | later
      · exact ⟨3, first⟩
      · exact induction later

theorem mem_bullets {count : Nat} (member : character ∈ bullets count) :
    character = ' ' ∨ character = maskGlyph := by
  rcases mem_intercalate member with blank | ⟨_, listed, member⟩
  · exact .inl (List.mem_singleton.mp blank)
  · obtain ⟨_, rfl⟩ := mem_bulletGroups listed
    exact .inr (List.eq_of_mem_replicate member)

theorem strip_sublist (drops : Char → Bool) (text : Text) :
    (strip drops text).Sublist text :=
  (List.rdropWhile_prefix drops _).sublist.trans (List.dropWhile_sublist drops)

theorem strip_ne_nil {drops : Char → Bool} {text : Text} {character : Char}
    (member : character ∈ text) (kept : drops character = false) :
    strip drops text ≠ [] := by
  intro none
  rw [strip, List.rdropWhile_eq_nil_iff] at none
  rw [← @List.takeWhile_append_dropWhile _ drops text, List.mem_append] at member
  rcases member with before | after
  · have dropped := List.all_eq_true.mp (@List.all_takeWhile _ drops text)
      character before
    rw [kept] at dropped
    contradiction
  · have dropped := none character after
    rw [kept] at dropped
    contradiction

theorem contactedPart_ne_nil (stamp : Option String) :
    contactedPart stamp ≠ [] := by
  rw [contactedPart]
  split
  · decide
  · exact List.append_ne_nil_of_left_ne_nil (by decide) _

theorem compose_masked {masked : Text} (shown : masked ≠ [])
    (fingerprint : String) (branchPath stamp : Option String) :
    ∃ rest, (compose masked fingerprint branchPath stamp).toList =
      masked ++ ' ' :: '·' :: rest := by
  have kept : (!masked.isEmpty) = true := by simpa using shown
  have last : (!(contactedPart stamp).isEmpty) = true := by
    simpa using contactedPart_ne_nil stamp
  rw [compose, String.toList_ofList, List.append_assoc, List.cons_append,
    List.filter_cons, if_pos kept, intercalate_cons]
  · exact ⟨_, List.append_assoc ..⟩
  · apply List.ne_nil_of_mem
    exact List.mem_filter.mpr ⟨List.mem_append_right _
      (List.mem_append_right _ List.mem_cons_self), last⟩

def MaskedDestination.masked (shown : MaskedDestination) : Text :=
  beforeFirst '·' shown.text.toList

/-- A glyph stands in the text at a place of the local part, and the visible
tail stays within what follows that part. -/
def HidesMailbox (normalized : Text) (shown : MaskedDestination) : Prop :=
  let mailbox := beforeFirst '@' normalized
  mailbox ≠ [] →
    (∃ place < mailbox.length, shown.text.toList[place]? = some maskGlyph) ∧
    ∀ tail ∈ shown.visibleTail, tail.toList <:+ normalized.drop mailbox.length

/-- Two digits of the subscriber are missing from the masked number, and from
the visible tail. -/
def HidesNumber (normalized : Text) (shown : MaskedDestination) : Prop :=
  let rest := subscriberOf normalized
  2 ≤ digitsIn rest →
    digitsIn shown.masked + 2 ≤ digitsIn (numberOf normalized) ∧
    ∀ tail ∈ shown.visibleTail, digitsIn tail.toList + 2 ≤ digitsIn rest

def HidesDestination (library : StandardLibrary) (channel : String)
    (address : Option String) (shown : MaskedDestination) : Prop :=
  let normalized := (normalizeChannelAddress library channel address).toList
  if channel = "email" then HidesMailbox normalized shown
  else HidesNumber normalized shown

/-- The local part has a second character, or is the glyph itself; and no
character of it follows the last dot of the address. -/
def CoversMailbox (normalized : Text) : Prop :=
  let mailbox := beforeFirst '@' normalized
  mailbox = [] ∨
    (2 ≤ mailbox.length ∨ mailbox = [maskGlyph]) ∧
    ('.' ∈ afterFirst '@' normalized ∨ '.' ∉ mailbox ∨
      mailbox.getLast? = some '.')

/-- Two of the characters in front of the last four are digits, or of the first
two where there are fewer than six. -/
def CoversNumber (normalized : Text) : Prop :=
  let rest := subscriberOf normalized
  digitsIn rest < 2 ∨ 2 ≤ digitsIn (rest.take (max 2 (rest.length - 4)))

def CoversDestination (library : StandardLibrary) (channel : String)
    (address : Option String) : Prop :=
  let normalized := (normalizeChannelAddress library channel address).toList
  if channel = "email" then CoversMailbox normalized
  else CoversNumber normalized

variable {normalized : Text}

theorem getElem?_maskLabel {label : Text} (place : Nat)
    (within : place < label.length) :
    (maskLabel label)[place]? =
      some (if place = 0 then label[0] else maskGlyph) := by
  cases label with
  | nil => contradiction
  | cons _ label =>
      cases place with
      | zero => rfl
      | succ place =>
          have inside : place < label.length := by simpa using within
          simp [maskLabel, glyphs, inside]

theorem length_maskLabel (label : Text) :
    (maskLabel label).length = label.length := by
  cases label <;> simp [maskLabel, glyphs]

theorem maskEmail_mailbox {place : Nat}
    (within : place < (beforeFirst '@' normalized).length) :
    (maskEmail normalized)[place]? =
      some (if place = 0 then (beforeFirst '@' normalized)[0]
        else maskGlyph) := by
  have present : beforeFirst '@' normalized ≠ [] :=
    List.ne_nil_of_length_pos (by omega)
  rw [maskEmail, if_neg present, List.getElem?_append_left,
    getElem?_maskLabel place within]
  rw [length_maskLabel]
  exact within

variable {shown : MaskedDestination}

theorem mailbox_hidden_iff {rest : Text}
    (text : shown.text.toList = maskEmail normalized ++ rest) :
    (∃ place < (beforeFirst '@' normalized).length,
      shown.text.toList[place]? = some maskGlyph) ↔
      2 ≤ (beforeFirst '@' normalized).length ∨
        beforeFirst '@' normalized = [maskGlyph] := by
  have shownAt {place : Nat}
      (within : place < (beforeFirst '@' normalized).length) :
      shown.text.toList[place]? =
        some (if place = 0 then (beforeFirst '@' normalized)[0]
          else maskGlyph) := by
    have found := maskEmail_mailbox within
    have inside := (List.getElem?_eq_some_iff.mp found).1
    rw [text, List.getElem?_append_left inside, found]
  constructor
  · rintro ⟨place, within, glyph⟩
    rw [shownAt within, Option.some.injEq] at glyph
    by_cases first : place = 0
    · rw [if_pos first] at glyph
      by_cases long : 2 ≤ (beforeFirst '@' normalized).length
      · exact .inl long
      · right
        obtain ⟨only, same⟩ := List.length_eq_one_iff.mp
          (show (beforeFirst '@' normalized).length = 1 by omega)
        simp only [same, List.getElem_cons_zero] at glyph ⊢
        rw [glyph]
    · exact .inl (by omega)
  · rintro (long | only)
    · exact ⟨1, by omega, by rw [shownAt (by omega), if_neg (by omega)]⟩
    · refine ⟨0, by rw [only]; decide, ?_⟩
      rw [shownAt (by rw [only]; decide), if_pos rfl]
      simp [only]

theorem tail_hidden_iff (separated : '.' ∈ normalized) :
    afterLast '.' normalized <:+
        normalized.drop (beforeFirst '@' normalized).length ↔
      '.' ∈ afterFirst '@' normalized ∨ '.' ∉ beforeFirst '@' normalized ∨
        (beforeFirst '@' normalized).getLast? = some '.' := by
  have cut := beforeFirst_append '@' normalized
  have domain := @mem_drop_beforeFirst _ _ '@' normalized '.' (by decide)
  have split := separated
  rw [← cut, List.mem_append, domain] at split
  rw [← cut] at separated
  have within := afterLast_suffix_right_iff separated
  rw [cut, domain] at within
  rw [within]
  constructor
  · exact Or.imp_right .inr
  · rintro (inDomain | outside | atEnd)
    · exact .inl inDomain
    · exact .inl (split.resolve_left outside)
    · exact .inr atEnd

theorem mailbox_covered_iff {rest : Text}
    (text : shown.text.toList = maskEmail normalized ++ rest)
    (tail : shown.visibleTail =
      if '.' ∈ normalized then some (String.ofList (afterLast '.' normalized))
      else none) :
    HidesMailbox normalized shown ↔ CoversMailbox normalized := by
  unfold HidesMailbox CoversMailbox
  by_cases present : beforeFirst '@' normalized = []
  · exact iff_of_true (fun nonempty => absurd present nonempty) (.inl present)
  · rw [forall_prop_of_true present, or_iff_right present,
      mailbox_hidden_iff text, tail]
    apply and_congr_right'
    by_cases separated : '.' ∈ normalized
    · rw [if_pos separated, ← tail_hidden_iff separated]
      simp
    · rw [if_neg separated]
      apply iff_of_true
      · simp
      · right
        left
        rw [← beforeFirst_append '@' normalized, List.mem_append,
          not_or] at separated
        exact separated.1

theorem callingCode_begins (normalized : Text) :
    numberOf normalized =
      ((callingCode normalized).elim [] String.toList) ++
        subscriberOf normalized := by
  rw [subscriberOf]
  cases found : callingCode normalized with
  | none => rfl
  | some =>
      obtain ⟨entry, _, same⟩ := List.exists_of_findSome?_eq_some found
      simp only [Option.ite_none_right_eq_some, Option.some.injEq] at same
      obtain ⟨_, rfl⟩ := same
      rw [Option.elim_some, Option.elim_some, String.toList_ofList,
        List.length_take]
      conv_lhs => rw [← List.take_append_drop entry.1 (numberOf normalized)]
      congr 1
      rcases Nat.le_total entry.1 (numberOf normalized).length with
        within | beyond
      · rw [Nat.min_eq_left within]
      · rw [Nat.min_eq_right beyond, List.drop_of_length_le beyond,
          List.drop_length]

theorem hidden_append_tail (rest : Text) :
    rest.take (max 2 (rest.length - 4)) ++ tailOf rest = rest := by
  rw [tailOf, keptOf, visibleTrailingDigits]
  by_cases short : min 4 (rest.length - 2) = 0
  · rw [if_pos short, List.append_nil]
    exact List.take_of_length_le (by omega)
  · rw [if_neg short]
    have start : max 2 (rest.length - 4) =
        rest.length - min 4 (rest.length - 2) := by omega
    rw [start, List.take_append_drop]

theorem digitsIn_hidden (rest : Text) :
    digitsIn (rest.take (max 2 (rest.length - 4))) + digitsIn (tailOf rest) =
      digitsIn rest := by
  rw [← digitsIn_append, hidden_append_tail]

theorem digitsIn_filter (parts : List Text) :
    ((parts.filter fun part => !part.isEmpty).map digitsIn).sum =
      (parts.map digitsIn).sum := by
  induction parts with
  | nil => rfl
  | cons part _ induction =>
      cases part with
      | nil => simpa using induction
      | cons head part =>
          have kept : (!(head :: part).isEmpty) = true := rfl
          rw [List.filter_cons, if_pos kept, List.map_cons, List.map_cons,
            List.sum_cons, List.sum_cons, induction]

theorem digitsIn_sign (code : Option String) :
    digitsIn (code.elim [] fun code => '+' :: code.toList ++ [' ']) =
      digitsIn (code.elim [] String.toList) := by
  cases code with
  | none => rfl
  | some => simp [digitsIn_cons_of_not]

theorem digitsIn_shown_le (normalized : Text) :
    digitsIn (maskTelephone normalized).shown ≤
      digitsIn ((callingCode normalized).elim [] String.toList) +
        digitsIn (tailOf (subscriberOf normalized)) := by
  apply Nat.le_trans (strip_sublist _ _).countP_le
  apply Nat.le_of_eq
  change digitsIn _ = _
  rw [digitsIn_append, digitsIn_sign, digitsIn_intercalate, digitsIn_filter]
  simp

theorem mem_glyphs {count : Nat} (positive : 0 < count) :
    maskGlyph ∈ glyphs count :=
  List.mem_replicate.mpr ⟨by omega, rfl⟩

theorem glyph_mem_bullets {count : Nat} (positive : 0 < count) :
    maskGlyph ∈ bullets count := by
  rw [bullets]
  fun_cases bulletGroups count with
  | case1 => contradiction
  | case2 | case3 => decide
  | case4 remaining =>
      cases bulletGroups remaining with
      | nil => decide
      | cons next groups =>
          rw [intercalate_cons (List.cons_ne_nil next groups),
            List.mem_append, List.mem_append]
          exact .inl (.inl (mem_glyphs (by decide)))

theorem shown_ne_nil (dialled : 2 ≤ (subscriberOf normalized).length) :
    (maskTelephone normalized).shown ≠ [] := by
  have hidden := @glyph_mem_bullets ((subscriberOf normalized).length -
    keptOf (subscriberOf normalized)) (by unfold keptOf; omega)
  have listed : (!(bullets ((subscriberOf normalized).length -
      keptOf (subscriberOf normalized))).isEmpty) = true := by
    simpa using List.ne_nil_of_mem hidden
  apply @strip_ne_nil _ _ maskGlyph _ (by decide)
  apply List.mem_append_right
  rw [List.filter_cons, if_pos listed]
  generalize List.filter _ _ = parts
  cases parts with
  | nil => simpa [List.intercalate] using hidden
  | cons next parts =>
      rw [intercalate_cons (List.cons_ne_nil next parts), List.mem_append,
        List.mem_append]
      exact .inl (.inl hidden)

theorem mem_sign {code : Option String}
    (member : character ∈ code.elim [] fun code => '+' :: code.toList ++ [' ']) :
    character = '+' ∨ character = ' ' ∨
      character ∈ code.elim [] String.toList := by
  cases code with
  | none => simp at member
  | some =>
      rw [Option.elim_some, List.mem_append, List.mem_cons,
        List.mem_singleton] at member
      rcases member with (plus | digit) | blank
      · exact .inl plus
      · exact .inr (.inr digit)
      · exact .inr (.inl blank)

theorem tailOf_suffix (rest : Text) : tailOf rest <:+ rest :=
  ⟨_, hidden_append_tail rest⟩

theorem mem_shown (member : character ∈ (maskTelephone normalized).shown) :
    character ∈ ['+', ' ', maskGlyph] ∨ character ∈ normalized := by
  have number : (numberOf normalized).Sublist normalized :=
    List.dropWhile_sublist _
  have cut := callingCode_begins normalized
  have member := (strip_sublist _ _).subset member
  rcases List.mem_append.mp member with sign | shown
  · rcases mem_sign sign with plus | blank | digit
    · exact .inl (by simp [plus])
    · exact .inl (by simp [blank])
    · exact .inr (number.subset (cut ▸ List.mem_append_left _ digit))
  · rcases mem_intercalate shown with blank | ⟨_, listed, member⟩
    · exact .inl (by simp [List.mem_singleton.mp blank])
    · have listed := List.mem_of_mem_filter listed
      rcases List.mem_cons.mp listed with rfl | listed
      · rcases mem_bullets member with blank | glyph
        · exact .inl (by simp [blank])
        · exact .inl (by simp [glyph])
      · rw [List.mem_singleton.mp listed] at member
        have inRest := (tailOf_suffix _).subset member
        exact .inr (number.subset (cut ▸ List.mem_append_right _ inRest))

theorem mem_normalized {library : StandardLibrary} {channel : String}
    {address : Option String} (other : channel ≠ "email") (member : character ∈
      (normalizeChannelAddress library channel address).toList) :
    isDigit character = true ∨ character = '+' := by
  unfold normalizeChannelAddress at member
  rw [if_neg other, String.toList_ofList, List.mem_filter] at member
  simpa using member.2

theorem dot_not_mem_shown {library : StandardLibrary} {channel : String}
    {address : Option String} (other : channel ≠ "email") :
    '·' ∉ (maskTelephone
      (normalizeChannelAddress library channel address).toList).shown := by
  intro member
  rcases mem_shown member with listed | member
  · exact absurd listed (by decide)
  · rcases mem_normalized other member with digit | plus
    · exact absurd digit (by decide)
    · exact absurd plus (by decide)

theorem maskEmail_ne_nil (normalized : Text) : maskEmail normalized ≠ [] := by
  rw [maskEmail]
  exact List.append_ne_nil_of_right_ne_nil _ (List.cons_ne_nil _ _)

theorem number_covered_iff (text : 2 ≤ (subscriberOf normalized).length →
      shown.masked = (maskTelephone normalized).shown ++ [' '])
    (tail : shown.visibleTail =
      (maskTelephone normalized).tail.map String.ofList) :
    HidesNumber normalized shown ↔ CoversNumber normalized := by
  have split := digitsIn_hidden (subscriberOf normalized)
  have whole := congrArg digitsIn (callingCode_begins normalized)
  rw [digitsIn_append] at whole
  unfold HidesNumber CoversNumber
  by_cases few : digitsIn (subscriberOf normalized) < 2
  · exact iff_of_true (fun enough => by omega) (.inl few)
  · have enough : 2 ≤ digitsIn (subscriberOf normalized) := by omega
    have long := Nat.le_trans enough List.countP_le_length
    have seen := digitsIn_shown_le normalized
    rw [forall_prop_of_true enough, or_iff_right few, text long,
      digitsIn_append, tail]
    constructor
    · rintro ⟨_, hidden⟩
      by_cases none : tailOf (subscriberOf normalized) = []
      · rw [none, digitsIn_nil] at split
        omega
      · have kept := hidden (String.ofList (tailOf (subscriberOf normalized)))
          (by simp [maskTelephone, none])
        rw [String.toList_ofList] at kept
        omega
    · intro covered
      have blank : digitsIn [' '] = 0 := by decide
      refine ⟨by omega, fun shownTail member => ?_⟩
      simp only [maskTelephone, Option.mem_def, Option.map_eq_some_iff,
        Option.ite_none_left_eq_some, Option.some.injEq] at member
      obtain ⟨_, ⟨_, rfl⟩, rfl⟩ := member
      rw [String.toList_ofList]
      omega

theorem destination_hidden_iff (library : StandardLibrary)
    (sha256 : String → String) (channel : String)
    (address addressId tenantId branchPath : Option String)
    (lastContactedAt : Option Moment) :
    HidesDestination library channel address
        (maskDestination library sha256 channel address addressId tenantId
          branchPath lastContactedAt) ↔
      CoversDestination library channel address := by
  unfold HidesDestination CoversDestination maskDestination
  generalize found : normalizeChannelAddress library channel address =
    normalized
  by_cases email : channel = "email"
  · simp only [if_pos email]
    obtain ⟨_, text⟩ := compose_masked (maskEmail_ne_nil normalized.toList)
      (fingerprintOf sha256 tenantId addressId normalized) branchPath
      (stampOf lastContactedAt)
    exact mailbox_covered_iff text rfl
  · simp only [if_neg email]
    apply number_covered_iff _ rfl
    intro long
    obtain ⟨_, text⟩ := compose_masked (shown_ne_nil long)
      (fingerprintOf sha256 tenantId addressId normalized) branchPath
      (stampOf lastContactedAt)
    rw [MaskedDestination.masked, text, List.append_cons]
    apply beforeFirst_append_cons
    rw [List.mem_append, not_or]
    exact ⟨found ▸ dot_not_mem_shown email, by decide⟩

instance (library : StandardLibrary) (channel : String)
    (address : Option String) (shown : MaskedDestination) :
    Decidable (HidesDestination library channel address shown) := by
  unfold HidesDestination HidesMailbox HidesNumber
  infer_instance

/-- A local part of one character is shown, and so is all of one with a dot in
a domain without. -/
theorem mailbox_shown :
    ¬ HidesDestination asciiLibrary "email" (some "a@acme.com")
        (maskDestination asciiLibrary (fun _ => "5d41402a") "email"
          (some "a@acme.com") (some "address:1") (some "org:acme") none none) ∧
      ¬ HidesDestination asciiLibrary "email" (some "ana.perez@localhost")
        (maskDestination asciiLibrary (fun _ => "5d41402a") "email"
          (some "ana.perez@localhost") (some "address:2") (some "org:acme")
          none none) := by
  constructor <;> decide +kernel

end AcpTask.Contacts
