import AcpTask.Signing.Canonical

namespace AcpTask.Signing

open Data

/-! The signer's side: a session assertion and the headers of one request. -/

/-- What PyNaCl and base64 make of a private key: the text of its public half,
and the text of a detached signature. -/
structure Scheme (SigningKey : Type) where
  publicKey : SigningKey → String
  sign : SigningKey → String → String

structure Scheme.Correct {Key SigningKey : Type} (scheme : Scheme SigningKey)
    (primitives : Primitives Key) : Prop where
  verifies : ∀ key, ∃ verifyKey,
    primitives.loadVerifyKey (scheme.publicKey key) = some verifyKey ∧
      ∀ message,
        primitives.verify verifyKey message (scheme.sign key message) = true
  publicKey_ne : ∀ key, scheme.publicKey key ≠ ""
  sign_ne : ∀ key message, scheme.sign key message ≠ ""

/-- `int(value)`. -/
def truncate (value : ℚ) : Int := value.num.tdiv value.den

structure Session (SigningKey : Type) where
  principal : SigningKey
  key : SigningKey
  issued : ℚ
  ttlSeconds : ℚ

def Session.expiresAt {SigningKey : Type} (session : Session SigningKey) :
    Int :=
  truncate session.issued + truncate session.ttlSeconds

section Signer

variable {Key SigningKey : Type} (primitives : Primitives Key)
  (scheme : Scheme SigningKey)

def Session.claims (session : Session SigningKey) : List (String × Value) :=
  [("principal_id", .str (scheme.publicKey session.principal)),
    ("session_public_key", .str (scheme.publicKey session.key)),
    ("issued_at", .int (truncate session.issued)),
    ("expires_at", .int session.expiresAt)]

/-- `build_session_assertion`, for the principal whose id is its public key. -/
def Session.assertion (session : Session SigningKey) : List (String × Value) :=
  session.claims scheme ++ [("signature", .str (scheme.sign session.principal
    (primitives.dumps (canonicalSession (session.claims scheme)))))]

def unsent (method path : String) (body : Body) : Call where
  method := method
  path := path
  body := body
  headers := []
  now := 0
  registry := .unreachable

def signRequest (key : SigningKey) (method path : String) (body : Body)
    (timestamp : Int) (nonce : String) : String :=
  scheme.sign key
    (canonicalRequest primitives (unsent method path body) timestamp nonce)

/-- `str` of an integer gives up above 4300 digits. -/
def writable (number : Int) : Bool :=
  decide ((Nat.toDigits 10 number.natAbs).length ≤ 4300)

def chosenNonce (nonce : Option String) (entropy : Vector UInt8 16) : String :=
  nonce.getD (hexOctets entropy.toList)

def buildAuthHeaders (principalId : String)
    (sessionAssertion : List (String × Value)) (sessionSigningKey : SigningKey)
    (method path : String) (body : Body) (now : ℚ) (nonce : Option String)
    (entropy : Vector UInt8 16) : Except String (List (String × String)) :=
  let timestamp := truncate now
  let chosen := chosenNonce nonce entropy
  let sessionPub :=
    (Value.lookup sessionAssertion "session_public_key").asStr?.getD ""
  if writable timestamp then
    .ok [
      ("X-AT-Principal", principalId),
      ("X-AT-Session", primitives.dumps (.dict sessionAssertion)),
      ("X-AT-Session-Pub", sessionPub),
      ("X-AT-Signature", signRequest primitives scheme sessionSigningKey method
        path body timestamp chosen),
      ("X-AT-Timestamp", toString timestamp),
      ("X-AT-Nonce", chosen)]
  else .error "ValueError"

def Session.authHeaders (session : Session SigningKey) (method path : String)
    (body : Body) (now : ℚ) (nonce : Option String)
    (entropy : Vector UInt8 16) : Except String (List (String × String)) :=
  buildAuthHeaders primitives scheme (scheme.publicKey session.principal)
    (session.assertion primitives scheme) session.key method path body now nonce
    entropy

end Signer

/-! `int` reads back what `str` wrote. -/

theorem readDigits_eq {digits : List Char} (written : digits ≠ [])
    (all : ∀ digit ∈ digits, digit.isDigit = true) (read : Nat) :
    readDigits read digits = some (Nat.ofDigitChars 10 digits read) := by
  induction digits generalizing read with
  | nil => exact absurd rfl written
  | cons digit rest induction =>
      have isDigit := all digit List.mem_cons_self
      have value : read * 10 + digitValue digit =
          10 * read + (digit.toNat - '0'.toNat) := by
        rw [digitValue, Nat.mul_comm]
      cases rest with
      | nil => simp [readDigits, isDigit, value, Nat.ofDigitChars_cons]
      | cons next =>
          have later := induction (by simp)
            (fun digit member => all digit (List.mem_cons_of_mem _ member))
          have notJoined : next ≠ '_' := by
            intro joined
            have nextDigit := all next (by simp)
            rw [joined] at nextDigit
            exact absurd nextDigit (by decide)
          rw [Nat.ofDigitChars_cons, ← later, ← value]
          conv_lhs => unfold readDigits
          simp only [isDigit, Bool.not_true, Bool.false_eq_true, if_false]
          split
          next empty => cases empty
          next joined => exact absurd (List.cons_eq_cons.mp joined).1 notJoined
          next => rfl

theorem not_space_of_decimal {number : Int} {character : Char}
    (member : character ∈ decimal number) : isSpace character = false := by
  rcases Value.decimal_digit member with digit | minus
  · rw [Char.isDigit, Bool.and_eq_true, decide_eq_true_iff,
      decide_eq_true_iff] at digit
    have low : 48 ≤ character.toNat := UInt32.le_iff_toNat_le.mp digit.1
    have high : character.toNat ≤ 57 := UInt32.le_iff_toNat_le.mp digit.2
    rw [isSpace, decide_eq_false_iff_not]
    simp only [List.mem_cons, List.not_mem_nil, or_false]
    omega
  · rw [minus]
    decide

theorem strip_decimal (number : Int) :
    (((decimal number).dropWhile isSpace).reverse.dropWhile
      isSpace).reverse = decimal number := by
  have none : ∀ characters : List Char,
      (∀ character ∈ characters, isSpace character = false) →
        characters.dropWhile isSpace = characters := by
    intro characters solid
    cases characters with
    | nil => rfl
    | cons character =>
        exact List.dropWhile_cons_of_neg
          (by simp [solid character List.mem_cons_self])
  rw [none _ fun character member => not_space_of_decimal member,
    none _ fun character member =>
      not_space_of_decimal (List.mem_reverse.mp member), List.reverse_reverse]

theorem pyInt_toString {number : Int} (bounded : writable number = true) :
    pyInt (toString number) = some number := by
  have short := of_decide_eq_true bounded
  have digits : ∀ value : Nat, ∀ digit ∈ Nat.toDigits 10 value,
      digit.isDigit = true := fun value digit member =>
    Nat.isDigit_of_mem_toDigits (by decide) (by decide) member
  have value : ∀ value : Nat, readDigits 0 (Nat.toDigits 10 value) =
      some value := fun value => by
    rw [readDigits_eq Nat.toDigits_ne_nil (digits value),
      Nat.ofDigitChars_ten_toDigits]
  unfold pyInt
  rw [toString_toList, strip_decimal]
  cases number with
  | ofNat number =>
      have few : ¬ 4300 < ((Nat.toDigits 10 number).filter
          Char.isDigit).length := by
        rw [List.filter_eq_self.mpr (digits number)]
        exact not_lt.mpr short
      rw [decimal, if_neg few]
      split
      · rename_i rest same
        have minus := digits number '-' (by rw [same]; exact List.mem_cons_self)
        exact absurd minus (by decide)
      · rename_i rest same
        have plus := digits number '+' (by rw [same]; exact List.mem_cons_self)
        exact absurd plus (by decide)
      · rw [value]
        rfl
  | negSucc number =>
      have few : ¬ 4300 < (('-' :: Nat.toDigits 10 (number + 1)).filter
          Char.isDigit).length := by
        rw [List.filter_cons_of_neg (by decide),
          List.filter_eq_self.mpr (digits (number + 1))]
        exact not_lt.mpr short
      rw [decimal, if_neg few]
      simp only [value]
      rfl

end AcpTask.Signing
