import AcpTask.Contacts.Staging

namespace AcpTask.Contacts

open Consent (Channel)
/-! Of a number the digits and the signs count, and the international prefix is
written as a sign or as two zeros. -/

def counts (character : Char) : Bool :=
  isDigit character || character == '+'

def Digits (text : Text) : Prop :=
  ∀ character ∈ text, isDigit character = true

def Counted (text : Text) : Prop :=
  ∀ character ∈ text, counts character = true

def countedOf (raw : Option String) : Text :=
  (raw.getD "").toList.filter counts

def international? : Text → Option Text
  | '+' :: rest => some rest
  | '0' :: '0' :: rest => some rest
  | _ => none

def SameNumber (raw other : Option String) : Prop :=
  countedOf raw = countedOf other ∨ ∃ rest,
    international? (countedOf raw) = some rest ∧
    international? (countedOf other) = some rest

namespace ImportSetting

structure Canonical (setting : ImportSetting)
    (channel defaultCallingCode : Option String) (rowNumber : Nat)
    (raw : Option String) (kind : Channel) (result : String) : Prop where
  number : ∃ digits, digits ≠ [] ∧ Digits digits ∧
    result = String.ofList ('+' :: digits)
  canonical : ∀ code number,
    setting.canonicalAddress channel (some result) code number =
      .ok (kind, result)
  stored : normalizeChannelAddress setting.library (channelText kind)
    (some result) = result
  spelled : ∀ other, SameNumber raw other →
    setting.canonicalAddress channel other defaultCallingCode rowNumber =
      .ok (kind, result)

end ImportSetting

/-- A prefix stands before digits alone, and without one or a sign the calling
code has only digits. -/
def Regular (raw defaultCallingCode : Option String) : Prop :=
  match international? (countedOf raw) with
  | some rest => rest ≠ [] ∧ '+' ∉ rest
  | none => '+' ∈ countedOf raw ∨
      Digits (numberOf (defaultCallingCode.getD "").toList)

/-- `to_e164` of what counts. -/
def reduced (code kept : Text) : Option Text :=
  let digits := kept.filter isDigit
  if digits = [] then some []
  else if '+' ∈ kept then some ('+' :: digits)
  else if ['0', '0'].isPrefixOf digits then some ('+' :: digits.drop 2)
  else if code = [] then none
  else if code.isPrefixOf digits &&
      decide (minNationalDigits ≤ digits.length - code.length) then
    some ('+' :: digits)
  else some ('+' :: code ++ digits.dropWhile fun digit => digit == '0')

theorem space_not_counts {character : Char}
    (space : isSpace character = true) : counts character = false := by
  simp only [isSpace, isWithin, spaceRanges, List.any_cons, List.any_nil,
    Bool.or_false, Bool.or_eq_true, Bool.and_eq_true, decide_eq_true_eq]
    at space
  rw [counts, Bool.or_eq_false_iff]
  constructor
  · simp [isDigit, isWithin, digitRanges]
    omega
  · rw [beq_eq_false_iff_ne]
    rintro rfl
    exact absurd space (by decide)

theorem filter_strip (text : Text) :
    (strip isSpace text).filter counts = text.filter counts := by
  have dropped : ∀ text : Text,
      (text.dropWhile isSpace).filter counts = text.filter counts := by
    intro text
    induction text with
    | nil => rfl
    | cons character rest induction =>
        rw [List.dropWhile_cons]
        split
        · rename_i space
          rw [induction, List.filter_cons_of_neg
            (by rw [space_not_counts space]; decide)]
        · rfl
  rw [strip, List.rdropWhile, List.filter_reverse, dropped,
    List.filter_reverse, List.reverse_reverse, dropped]

section Reduced

variable {text code rest out : Text}

theorem digits_of_counted : (text.filter counts).filter isDigit =
    text.filter isDigit := by
  rw [List.filter_filter]
  refine List.filter_congr fun character _ => ?_
  cases digit : isDigit character <;> simp [counts, digit]

theorem toE164_eq_ok {setting : ImportSetting}
    {raw defaultCallingCode : Option String} {rowNumber : Nat}
    {result : String} :
    setting.toE164 raw defaultCallingCode rowNumber = .ok result ↔
      reduced (numberOf (defaultCallingCode.getD "").toList) (countedOf raw) =
        some result.toList := by
  have digits : (strip isSpace (raw.getD "").toList).filter isDigit =
      (countedOf raw).filter isDigit := by
    rw [← digits_of_counted, filter_strip]
    rfl
  have signed : '+' ∈ strip isSpace (raw.getD "").toList ↔
      '+' ∈ countedOf raw := by
    have both : ∀ text : Text, '+' ∈ text ↔ '+' ∈ text.filter counts :=
      fun text => by simp [List.mem_filter, counts]
    rw [both, filter_strip]
    rfl
  have texts : ∀ letters : Text,
      (.ok (String.ofList letters) : Except ImportError String) = .ok result ↔
        some letters = some result.toList := fun letters => by
    rw [Except.ok.injEq, Option.some.injEq, ← String.toList_inj,
      String.toList_ofList]
  simp only [ImportSetting.toE164, reduced, digits, signed]
  split_ifs
  · exact texts []
  · exact texts _
  · exact texts _
  · exact iff_of_false nofun nofun
  · exact texts _
  · exact texts _

theorem canonicalAddress_eq_ok {setting : ImportSetting}
    {channel raw defaultCallingCode : Option String} {rowNumber : Nat}
    {kind : Channel} {result : String} (telephone : kind ≠ .email) :
    setting.canonicalAddress channel raw defaultCallingCode rowNumber =
        .ok (kind, result) ↔
      ImportSetting.channelOf? channel = some kind ∧
        reduced (numberOf (defaultCallingCode.getD "").toList)
          (countedOf raw) = some result.toList := by
  rw [← @toE164_eq_ok setting _ _ rowNumber]
  unfold ImportSetting.canonicalAddress
  cases ImportSetting.channelOf? channel with
  | none => simp
  | some found =>
      cases found with
      | email => simp [telephone.symm]
      | _ =>
          cases setting.toE164 raw defaultCallingCode rowNumber <;>
            simp [eq_comm]

theorem reduced_signed : reduced code ('+' :: rest) =
    some (if rest.filter isDigit = [] then []
      else '+' :: rest.filter isDigit) := by
  rw [reduced, List.filter_cons_of_neg (by decide)]
  split_ifs <;> simp_all

theorem reduced_zeros (unsigned : '+' ∉ rest) :
    reduced code ('0' :: '0' :: rest) =
      some ('+' :: rest.filter isDigit) := by
  rw [reduced, List.filter_cons_of_pos (by decide),
    List.filter_cons_of_pos (by decide), if_neg (List.cons_ne_nil _ _),
    if_neg (by simpa using unsigned), if_pos (by simp), List.drop_succ_cons,
    List.drop_succ_cons, List.drop_zero]

theorem reduced_zeros_signed (signed : '+' ∈ rest) :
    reduced code ('0' :: '0' :: rest) =
      some ('+' :: '0' :: '0' :: rest.filter isDigit) := by
  rw [reduced, List.filter_cons_of_pos (by decide),
    List.filter_cons_of_pos (by decide), if_neg (List.cons_ne_nil _ _),
    if_pos (by simpa using signed)]

/-- What is reduced from digits alone after the sign stays as it is. -/
def Number (out : Text) : Prop :=
  ∃ digits, digits ≠ [] ∧ Digits digits ∧ out = '+' :: digits

theorem international?_eq_some : international? text = some rest ↔
    text = '+' :: rest ∨ text = '0' :: '0' :: rest := by
  unfold international?
  split <;> simp_all [eq_comm]

theorem counted_rest (counted : Counted text)
    (prefixed : international? text = some rest) : Counted rest := by
  rcases international?_eq_some.mp prefixed with rfl | rfl
  · exact fun character member => counted character (.tail _ member)
  · exact fun character member => counted character (.tail _ (.tail _ member))

theorem counted_prefixed (counted : Counted rest)
    (prefixed : international? text = some rest) : Counted text := by
  rcases international?_eq_some.mp prefixed with rfl | rfl
  · exact List.forall_mem_cons.mpr ⟨by decide, counted⟩
  · exact List.forall_mem_cons.mpr
      ⟨by decide, List.forall_mem_cons.mpr ⟨by decide, counted⟩⟩

theorem counted_ofList (counted : Counted text) :
    countedOf (some (String.ofList text)) = text := by
  rw [countedOf, Option.getD_some, String.toList_ofList,
    List.filter_eq_self.mpr counted]

theorem counted_countedOf {raw : Option String} : Counted (countedOf raw) :=
  fun _ member => (List.mem_filter.mp member).2

theorem Number.counted (number : Number out) : Counted out := by
  obtain ⟨_, _, all, rfl⟩ := number
  intro character member
  rcases List.mem_cons.mp member with rfl | member
  · decide
  · rw [counts, all character member, Bool.true_or]

theorem Number.stays (number : Number out) : reduced code out = some out := by
  obtain ⟨_, some, all, rfl⟩ := number
  rw [reduced_signed, List.filter_eq_self.mpr all, if_neg some]

theorem Counted.digits (counted : Counted text) (unsigned : '+' ∉ text) :
    Digits text := by
  intro character member
  have either := counted character member
  rw [counts, Bool.or_eq_true, beq_iff_eq] at either
  refine either.resolve_right ?_
  rintro rfl
  exact unsigned member

theorem reduced_alike_iff (counted : Counted text)
    (prefixed : international? text = some rest) (nonempty : out ≠ [])
    (found : reduced code text = some out) :
    (Number out ∧ ∀ other, international? other = some rest →
        reduced code other = some out) ↔
      rest ≠ [] ∧ '+' ∉ rest := by
  constructor
  · rintro ⟨_, alike⟩
    have sign := alike ('+' :: rest) rfl
    have zeros := alike ('0' :: '0' :: rest) rfl
    rw [reduced_signed, Option.some.injEq] at sign
    constructor
    · rintro rfl
      exact nonempty sign.symm
    · intro signed
      rw [reduced_zeros_signed signed, ← sign, Option.some.injEq] at zeros
      split at zeros
      · cases zeros
      · have longer := congrArg List.length zeros
        simp only [List.length_cons] at longer
        omega
  · rintro ⟨some, unsigned⟩
    have digits := (counted_rest counted prefixed).digits unsigned
    have alike : ∀ other, international? other = Option.some rest →
        reduced code other = Option.some ('+' :: rest) := by
      intro other same
      rcases international?_eq_some.mp same with rfl | rfl
      · rw [reduced_signed, List.filter_eq_self.mpr digits, if_neg some]
      · rw [reduced_zeros unsigned, List.filter_eq_self.mpr digits]
    cases (alike text prefixed).symm.trans found
    exact ⟨⟨rest, some, digits, rfl⟩, alike⟩

theorem number_national_iff (counted : Counted text)
    (national : international? text = none) (nonempty : out ≠ [])
    (found : reduced code text = some out) :
    Number out ↔ '+' ∈ text ∨ Digits code := by
  have plain : Digits (text.filter isDigit) :=
    fun _ member => (List.mem_filter.mp member).2
  simp only [reduced] at found
  split_ifs at found with none signed zeros absent begins
  · exact absurd (Option.some.inj found).symm nonempty
  · cases found
    exact iff_of_true ⟨_, none, plain, rfl⟩ (.inl signed)
  · rw [List.filter_eq_self.mpr (counted.digits signed),
      List.isPrefixOf_iff_prefix] at zeros
    obtain ⟨_, rfl⟩ := zeros
    cases national
  · rw [Bool.and_eq_true, List.isPrefixOf_iff_prefix] at begins
    cases found
    exact iff_of_true ⟨_, none, plain, rfl⟩
      (.inr fun character member => plain character
        (begins.1.subset member))
  · cases found
    constructor
    · rintro ⟨digits, _, all, same⟩
      refine .inr fun character member => all character ?_
      rw [← (List.cons.inj same).2]
      exact List.mem_append_left _ member
    · rintro (signed' | digits)
      · exact absurd signed' signed
      · refine ⟨_, ?_, ?_, rfl⟩
        · exact List.append_ne_nil_of_left_ne_nil absent _
        · intro character member
          rcases List.mem_append.mp member with inCode | inText
          · exact digits character inCode
          · exact plain character
              ((List.dropWhile_sublist _).subset inText)

end Reduced

namespace ImportSetting

variable {setting : ImportSetting} {kind : Channel} {result : String}
  {channel raw defaultCallingCode : Option String} {rowNumber : Nat}

theorem canonical_iff_number (telephone : kind ≠ .email)
    (known : channelOf? channel = some kind) :
    setting.Canonical channel defaultCallingCode rowNumber raw kind result ↔
      Number result.toList ∧ ∀ other, SameNumber raw other →
        reduced (numberOf (defaultCallingCode.getD "").toList)
          (countedOf other) = some result.toList := by
  have spells : ∀ {other code number},
      setting.canonicalAddress channel other code number = .ok (kind, result) ↔
        reduced (numberOf (code.getD "").toList) (countedOf other) =
          some result.toList := by
    intro other code number
    rw [canonicalAddress_eq_ok telephone, and_iff_right known]
  constructor
  · rintro ⟨⟨digits, some, all, rfl⟩, _, _, spelled⟩
    refine ⟨⟨digits, some, all, String.toList_ofList⟩, fun other same => ?_⟩
    exact spells.mp (spelled other same)
  · rintro ⟨number, spelled⟩
    have counted : countedOf (some result) = result.toList := by
      have := counted_ofList number.counted
      rwa [String.ofList_toList] at this
    refine ⟨?_, fun code row => spells.mpr ?_, ?_,
      fun other same => spells.mpr (spelled other same)⟩
    · obtain ⟨digits, some, all, same⟩ := number
      exact ⟨digits, some, all, by rw [← same, String.ofList_toList]⟩
    · rw [counted]
      exact number.stays
    · have other : channelText kind ≠ "email" := by
        cases kind <;> first | decide | exact absurd rfl telephone
      rw [normalizeChannelAddress, if_neg other]
      rw [← String.toList_inj, String.toList_ofList, ← counted]
      exact filter_strip _

/-- Two zeros alone reduce to a bare sign, a sign after the prefix keeps the
zeros, and a calling code is not cleared of what is no digit. -/
theorem canonical_iff (telephone : kind ≠ .email)
    (found : setting.canonicalAddress channel raw defaultCallingCode
      rowNumber = .ok (kind, result)) (nonempty : result ≠ "") :
    setting.Canonical channel defaultCallingCode rowNumber raw kind result ↔
      Regular raw defaultCallingCode := by
  obtain ⟨known, reduces⟩ := (canonicalAddress_eq_ok telephone).mp found
  have some : result.toList ≠ [] := by
    rwa [ne_eq, String.toList_eq_nil_iff]
  rw [canonical_iff_number telephone known, Regular]
  cases prefixed : international? (countedOf raw) with
  | some rest =>
      dsimp only
      rw [← reduced_alike_iff counted_countedOf prefixed some reduces]
      refine and_congr_right fun number => ?_
      constructor
      · intro spelled other same
        have counted := counted_ofList (counted_prefixed
          (counted_rest counted_countedOf prefixed) same)
        have here := spelled (.some (String.ofList other))
          (.inr ⟨rest, prefixed, by rw [counted, same]⟩)
        rwa [counted] at here
      · rintro alike other (same | ⟨_, before, same⟩)
        · rw [← same, reduces]
        · cases prefixed.symm.trans before
          exact alike _ same
  | none =>
      dsimp only
      rw [← number_national_iff counted_countedOf prefixed some reduces]
      refine and_iff_left ?_
      rintro other (same | ⟨_, before, _⟩)
      · rw [← same, reduces]
      · cases prefixed.symm.trans before

theorem canonical_iff_international :
    importing.Canonical (some "sms") none 1 (some "00 34 600 111 222") .sms
        "+34600111222" ↔
      Regular (some "00 34 600 111 222") none :=
  canonical_iff (by decide) (by decide +kernel) (by decide)

theorem bare_zeros_reduced :
    importing.canonicalAddress (some "sms") (some "00") none 1 =
        .ok (.sms, "+") ∧
      ¬ importing.Canonical (some "sms") none 1 (some "00") .sms "+" := by
  refine ⟨by decide +kernel, fun canonical => ?_⟩
  obtain ⟨digits, some, _, same⟩ := canonical.number
  have letters : ['+'] = '+' :: digits := by
    simpa using congrArg String.toList same
  exact some (List.cons.inj letters).2.symm

end ImportSetting

end AcpTask.Contacts
