import AcpTask.Data.Legible
import AcpTask.Signing.Replay

namespace AcpTask.Signing

open Data Data.Value Library

def newlines (text : String) : Nat := text.toList.count '\n'

def SameMethod (first second : String) : Prop :=
  first.toList.map Char.toLower = second.toList.map Char.toLower

def hexDigits : List Char := "0123456789abcdef".toList

structure Digests (sha256Hex : List UInt8 → String) : Prop where
  injective : Function.Injective sha256Hex
  digits : ∀ octets, ∀ character ∈ (sha256Hex octets).toList,
    character ∈ hexDigits

theorem Digests.newlines {sha256Hex : List UInt8 → String}
    (digests : Digests sha256Hex) (octets : List UInt8) :
    newlines (sha256Hex octets) = 0 := by
  apply List.count_eq_zero.mpr
  intro member
  exact absurd (digests.digits octets '\n' member) (by decide)

theorem toString_toList (number : Int) :
    (toString number).toList = decimal number := by
  cases number with
  | ofNat => exact Nat.toList_repr
  | negSucc =>
      rw [decimal, ← Nat.toList_repr]
      simp [toString, Int.repr]

theorem decimal_inj {first second : Int}
    (same : decimal first = decimal second) : first = second := by
  rw [← readDecimal_decimal first, same, readDecimal_decimal]

theorem newlines_toString (number : Int) : newlines (toString number) = 0 := by
  apply List.count_eq_zero.mpr
  rw [toString_toList]
  intro member
  rcases decimal_digit member with digit | minus
  · exact absurd digit (by decide)
  · exact absurd minus (by decide)

section Request

variable {Key : Type} {primitives : Primitives Key}

theorem canonicalRequest_toList (primitives : Primitives Key) (call : Call)
    (timestamp : Int) (nonce : String) :
    (canonicalRequest primitives call timestamp nonce).toList =
      call.method.toList ++ '\n' :: (call.path.toList ++
        '\n' :: ((primitives.sha256Hex call.body.octets).toList ++
          '\n' :: ((toString timestamp).toList ++ '\n' :: nonce.toList))) := by
  simp [canonicalRequest]

variable {first second : Call} {timestamp otherTimestamp : Int}
  {nonce otherNonce : String}

theorem canonicalRequest_inj (digests : Digests primitives.sha256Hex)
    (same : canonicalRequest primitives first timestamp nonce =
      canonicalRequest primitives second otherTimestamp otherNonce)
    (methods : newlines first.method = newlines second.method)
    (paths : newlines first.path = newlines second.path) :
    first.method = second.method ∧ first.path = second.path ∧
      first.body.octets = second.body.octets ∧ timestamp = otherTimestamp ∧
      nonce = otherNonce := by
  have texts := congrArg String.toList same
  rw [canonicalRequest_toList, canonicalRequest_toList] at texts
  obtain ⟨sameMethod, afterMethod⟩ := append_delimiter_inj methods texts
  obtain ⟨samePath, afterPath⟩ := append_delimiter_inj paths afterMethod
  obtain ⟨sameHash, afterHash⟩ := append_delimiter_inj
    ((digests.newlines _).trans (digests.newlines _).symm) afterPath
  obtain ⟨sameTime, sameNonce⟩ := append_delimiter_inj
    ((newlines_toString _).trans (newlines_toString _).symm) afterHash
  rw [toString_toList, toString_toList] at sameTime
  exact ⟨String.toList_inj.mp sameMethod, String.toList_inj.mp samePath,
    digests.injective (String.toList_inj.mp sameHash), decimal_inj sameTime,
    String.toList_inj.mp sameNonce⟩

theorem method_eq_of_rest
    (same : canonicalRequest primitives first timestamp nonce =
      canonicalRequest primitives second otherTimestamp otherNonce)
    (paths : first.path = second.path)
    (octets : first.body.octets = second.body.octets)
    (timestamps : timestamp = otherTimestamp) (nonces : nonce = otherNonce) :
    first.method = second.method := by
  have texts := congrArg String.toList same
  rw [canonicalRequest_toList, canonicalRequest_toList, paths, octets,
    timestamps, nonces] at texts
  exact String.toList_inj.mp (List.append_cancel_right texts)

end Request

/-- Two requests with one canonical string are the same exactly when their
methods, and their paths, have equally many newlines. -/
theorem canonicalRequest_inj_iff {Key : Type} (primitives : Primitives Key)
    (digests : Digests primitives.sha256Hex) (first second : Call)
    (timestamp otherTimestamp : Int) (nonce otherNonce : String)
    (same : canonicalRequest primitives first timestamp nonce =
      canonicalRequest primitives second otherTimestamp otherNonce) :
    (SameMethod first.method second.method ∧ first.path = second.path ∧
        first.body.octets = second.body.octets ∧
        timestamp = otherTimestamp ∧ nonce = otherNonce) ↔
      newlines first.method = newlines second.method ∧
        newlines first.path = newlines second.path := by
  constructor
  · intro equal
    obtain ⟨-, paths, octets, timestamps, nonces⟩ := equal
    have methods := method_eq_of_rest same paths octets timestamps nonces
    exact ⟨congrArg newlines methods, congrArg newlines paths⟩
  · intro counts
    obtain ⟨sameMethod, rest⟩ :=
      canonicalRequest_inj digests same counts.1 counts.2
    exact ⟨by rw [SameMethod, sameMethod], rest⟩

/-! A digest without collisions, and a signature of one request that two
requests present. -/

def hexPair (octet : UInt8) : List Char :=
  [hexDigits.getD (octet.toNat / 16) '0', hexDigits.getD (octet.toNat % 16) '0']

def hexOctets (octets : List UInt8) : String :=
  String.ofList (octets.flatMap hexPair)

theorem hexDigits_inj {first second : Nat} (firstBound : first < 16)
    (secondBound : second < 16)
    (same : hexDigits.getD first '0' = hexDigits.getD second '0') :
    first = second := by
  have distinct : ∀ left right : Fin 16,
      hexDigits.getD left '0' = hexDigits.getD right '0' → left = right := by
    decide
  exact congrArg Fin.val
    (distinct ⟨first, firstBound⟩ ⟨second, secondBound⟩ same)

theorem hexOctets_inj {first second : List UInt8}
    (same : first.flatMap hexPair = second.flatMap hexPair) :
    first = second := by
  induction first generalizing second with
  | nil =>
      cases second with
      | nil => rfl
      | cons => cases same
  | cons octet _ induction =>
      cases second with
      | nil => cases same
      | cons other =>
          obtain ⟨high, tail⟩ := List.cons_eq_cons.mp same
          obtain ⟨low, rest⟩ := List.cons_eq_cons.mp tail
          have octetBound := octet.toNat_lt
          have otherBound := other.toNat_lt
          have highs := hexDigits_inj (by omega) (by omega) high
          have lows := hexDigits_inj (by omega) (by omega) low
          have values : octet.toNat = other.toNat := by omega
          rw [UInt8.toNat_inj.mp values, induction rest]

theorem hexOctets_digests : Digests hexOctets where
  injective first second same := hexOctets_inj (String.ofList_injective same)
  digits octets character member := by
    rw [hexOctets, String.toList_ofList, List.mem_flatMap] at member
    obtain ⟨octet, -, written⟩ := member
    have bound := octet.toNat_lt
    have digit : ∀ value < 16, hexDigits.getD value '0' ∈ hexDigits := by decide
    rcases List.mem_pair.mp written with rfl | rfl
    · exact digit _ (by omega)
    · exact digit _ (by omega)

def splitPrimitives : Primitives String where
  loads := (samplePrimitives "1000").loads
  base64Loads := (samplePrimitives "1000").base64Loads
  dumps _ := sampleClaims
  sha256Hex := hexOctets
  loadVerifyKey := (samplePrimitives "1000").loadVerifyKey
  verify key message signature :=
    decide ((key, message, signature) = ("cHI=", sampleClaims, "c2ln")) ||
    decide ((key, message, signature) =
      ("c2U=", "GET\n/a\n/b\n\n1000\nn-1", "cmVx"))

def splitCall (method path : String) : Call :=
  { sampleCall "1000" 1000 with method, path }

/-- The signature of `GET` for one path is accepted for another method and
another path. -/
theorem splitCalls_accepted :
    Digests splitPrimitives.sha256Hex ∧
    (authenticate splitPrimitives { requireSignatures := true } {}
      (splitCall "GET" "/a\n/b")).1 = .authenticated "cHI=" ∧
    (authenticate splitPrimitives { requireSignatures := true } {}
      (splitCall "GET\n/a" "/b")).1 = .authenticated "cHI=" ∧
    canonicalRequest splitPrimitives (splitCall "GET" "/a\n/b") 1000 "n-1" =
      canonicalRequest splitPrimitives (splitCall "GET\n/a" "/b") 1000 "n-1" ∧
    ¬ (SameMethod "GET" "GET\n/a" ∧ "/a\n/b" = "/b") :=
  ⟨hexOctets_digests, by decide +kernel, by decide +kernel, by decide +kernel,
    fun same => absurd same.2 (by decide)⟩

theorem canonicalRequest_inj_sample :
    (SameMethod "GET" "GET\n/a" ∧ "/a\n/b" = "/b" ∧
        (splitCall "GET" "/a\n/b").body.octets =
          (splitCall "GET\n/a" "/b").body.octets ∧
        (1000 : Int) = 1000 ∧ "n-1" = "n-1") ↔
      newlines "GET" = newlines "GET\n/a" ∧ newlines "/a\n/b" = newlines "/b" :=
  canonicalRequest_inj_iff splitPrimitives hexOctets_digests
    (splitCall "GET" "/a\n/b") (splitCall "GET\n/a" "/b") 1000 1000 "n-1" "n-1"
    (by decide +kernel)

end AcpTask.Signing
