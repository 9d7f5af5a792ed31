import Mathlib.Algebra.Order.Ring.Rat
import AcpTask.Data.Value
import AcpTask.Library.Run

namespace AcpTask.Signing

open Data Library

def headerPrincipal : String := "x-at-principal"
def headerSession : String := "x-at-session"
def headerSignature : String := "x-at-signature"
def headerTimestamp : String := "x-at-timestamp"
def headerNonce : String := "x-at-nonce"

/-- `_lower_headers(headers).get(name)`: names compare without case, and the
last header of a name wins. -/
def header (headers : List (String × String)) (name : String) :
    Option String :=
  (headers.reverse.find? fun item =>
    item.1.toList.map Char.toLower == name.toList).map Prod.snd

/-- A header the chain of `and`s in `authenticate` counts as present. -/
def requiredHeader (headers : List (String × String)) (name : String) :
    Option String :=
  (header headers name).filter fun value => value != ""

def isSpace (character : Char) : Bool :=
  character.toNat ∈ [9, 10, 11, 12, 13, 28, 29, 30, 31, 32, 133, 160]

def digitValue (character : Char) : Nat := character.toNat - '0'.toNat

def readDigits (read : Nat) : List Char → Option Nat
  | [] => none
  | digit :: rest =>
      if !digit.isDigit then none
      else
        let value := read * 10 + digitValue digit
        match rest with
        | [] => some value
        | '_' :: others => readDigits value others
        | others => readDigits value others

/-- `int(text)` for the Latin-1 text of a header. -/
def pyInt (text : String) : Option Int :=
  let stripped :=
    ((text.toList.dropWhile isSpace).reverse.dropWhile isSpace).reverse
  if 4300 < (stripped.filter Char.isDigit).length then none
  else match stripped with
    | '-' :: digits => (readDigits 0 digits).map fun value => -(value : Int)
    | '+' :: digits => (readDigits 0 digits).map Int.ofNat
    | digits => (readDigits 0 digits).map Int.ofNat

/-! What the verification chain takes from PyNaCl, `hashlib` and `json`. -/

structure Primitives (Key : Type) where
  loads : String → Option Value
  base64Loads : String → Option Value
  dumps : Value → String
  sha256Hex : List UInt8 → String
  loadVerifyKey : String → Option Key
  /-- Whether a base64 signature decodes and verifies over a message. -/
  verify : Key → String → String → Bool

inductive Body where
  | absent
  | text (value : String)
  | bytes (value : List UInt8)

def Body.octets : Body → List UInt8
  | .absent => []
  | .text value => value.toUTF8.toList
  | .bytes value => value

inductive RegistryAnswer where
  | publicKey (key : Option String)
  | unreachable

structure Call where
  method : String
  path : String
  body : Body
  headers : List (String × String)
  now : ℚ
  registry : RegistryAnswer

structure AuthError where
  status : Nat
  message : String
  deriving DecidableEq

inductive Refusal where
  | rejected (error : AuthError)
  /-- An exception the authenticator does not catch. -/
  | raised (exception : String)
  deriving DecidableEq

def reject (message : String) : Refusal := .rejected { status := 401, message }

inductive Outcome where
  | passThrough
  | authenticated (principalId : String)
  | refused (refusal : Refusal)
  deriving DecidableEq

structure AuthConfig where
  requireSignatures : Bool
  skewSeconds : Int := 120
  pubkeyCacheTtl : Int := 60

structure AuthState where
  seen : List (String × ℚ) := []
  pubkeys : List (String × String × ℚ) := []

section Chain

variable {Key : Type} (primitives : Primitives Key)

def parseAssertion (raw : String) : Value :=
  match primitives.loads raw with
  | some value => value
  | none => (primitives.base64Loads raw).getD .none

structure Credentials where
  principalId : String
  signature : String
  timestamp : Int
  nonce : String
  assertion : List (String × Value)

def readCredentials (call : Call) : Except Refusal Credentials :=
  match requiredHeader call.headers headerPrincipal,
      requiredHeader call.headers headerSession,
      requiredHeader call.headers headerSignature,
      requiredHeader call.headers headerTimestamp,
      requiredHeader call.headers headerNonce with
  | some principalId, some sessionRaw, some signature, some timestampRaw,
      some nonce =>
      match pyInt timestampRaw with
      | none => .error (reject "invalid timestamp header")
      | some timestamp =>
          match parseAssertion primitives sessionRaw with
          | .dict assertion =>
              .ok { principalId, signature, timestamp, nonce, assertion }
          | _ => .error (reject "invalid session assertion encoding")
  | _, _, _, _, _ => .error (reject "missing authentication headers")

/-- `_resolve_public_key`; only a key that was found is cached. -/
def resolvePublicKey (config : AuthConfig) (state : AuthState)
    (principalId : String) (call : Call) :
    Except Refusal (Option String × AuthState) :=
  let cached := (state.pubkeys.lookup principalId).filter fun entry =>
    decide (call.now - entry.2 < config.pubkeyCacheTtl)
  match cached with
  | some (key, _) => .ok (some key, state)
  | none =>
      match call.registry with
      | .unreachable =>
          .error (reject "registry unreachable resolving principal")
      | .publicKey none => .ok (none, state)
      | .publicKey (some key) =>
          if key = "" then .ok (none, state)
          else .ok (some key, { state with
            pubkeys := (principalId, key, call.now) ::
              state.pubkeys.filter fun entry => entry.1 != principalId })

/-- `now_ts > expires_at` for a numeric expiry; anything else has expired. -/
def expired (now : ℚ) : Value → Bool
  | .int value => decide ((value : ℚ) < now)
  | .bool value => decide ((if value then 1 else 0) < now)
  | .float (.finite value _) => decide (value < now)
  | .float (.infinity negative) => negative
  | .float .nan => false
  | _ => true

def canonicalSession (assertion : List (String × Value)) : Value :=
  .dict [
    ("expires_at", Value.lookup assertion "expires_at"),
    ("issued_at", Value.lookup assertion "issued_at"),
    ("principal_id", Value.lookup assertion "principal_id"),
    ("session_public_key", Value.lookup assertion "session_public_key")]

/-- `verify_session_assertion`: the session key the assertion vouches for. -/
def verifySessionAssertion (assertion : List (String × Value))
    (publicKey : String) (now : ℚ) : Except Refusal Value :=
  let invalid := reject "session assertion invalid"
  let signature := Value.lookup assertion "signature"
  if (Value.lookup assertion "principal_id").asStr? ≠ some publicKey then
    .error invalid
  else if !signature.truthy then .error invalid
  else match primitives.loadVerifyKey publicKey, signature with
    | none, _ => .error invalid
    | some key, .str encoded =>
        if !primitives.verify key
            (primitives.dumps (canonicalSession assertion)) encoded then
          .error invalid
        else if expired now (Value.lookup assertion "expires_at") then
          .error (reject "session assertion expired")
        else .ok (Value.lookup assertion "session_public_key")
    | some _, _ => .error (.raised "AttributeError")

def canonicalRequest (call : Call) (timestamp : Int) (nonce : String) :
    String :=
  "\n".intercalate [call.method, call.path,
    primitives.sha256Hex call.body.octets, toString timestamp, nonce]

def verifyRequestSignature (sessionPublicKey : Value) (call : Call)
    (credentials : Credentials) : Except Refusal Unit :=
  match sessionPublicKey with
  | .str encoded =>
      match primitives.loadVerifyKey encoded with
      | none => .error (reject "request signature invalid")
      | some key =>
          if primitives.verify key
              (canonicalRequest primitives call credentials.timestamp
                credentials.nonce) credentials.signature then .ok ()
          else .error (reject "request signature invalid")
  | _ => .error (.raised "AttributeError")

def verifyChain (call : Call) (credentials : Credentials) :
    Option String → Except Refusal Unit
  | none => .error (reject "unknown principal or no registered public key")
  | some publicKey => do
      let sessionPublicKey ← verifySessionAssertion primitives
        credentials.assertion publicKey call.now
      verifyRequestSignature primitives sessionPublicKey call credentials

end Chain

def timestampFresh (timestamp : Int) (now : ℚ) (skewSeconds : Int) : Bool :=
  decide (|now - timestamp| ≤ skewSeconds)

def evict (skewSeconds : Int) (seen : List (String × ℚ)) (now : ℚ) :
    List (String × ℚ) :=
  seen.filter fun entry => !decide (entry.2 < now - skewSeconds)

def checkAndAdd (skewSeconds : Int) (seen : List (String × ℚ))
    (nonce : String) (now : ℚ) : Bool × List (String × ℚ) :=
  let kept := evict skewSeconds seen now
  if nonce ∈ kept.map Prod.fst then (false, kept)
  else (true, (nonce, now) :: kept)

def authenticate {Key : Type} (primitives : Primitives Key)
    (config : AuthConfig) (state : AuthState) (call : Call) :
    Outcome × AuthState :=
  if !config.requireSignatures then (.passThrough, state)
  else match readCredentials primitives call with
    | .error refusal => (.refused refusal, state)
    | .ok credentials =>
        match resolvePublicKey config state credentials.principalId call with
        | .error refusal => (.refused refusal, state)
        | .ok (publicKey, resolved) =>
            match verifyChain primitives call credentials publicKey with
            | .error refusal => (.refused refusal, resolved)
            | .ok _ =>
                if !timestampFresh credentials.timestamp call.now
                    config.skewSeconds then
                  (.refused (reject "request timestamp stale or skewed"),
                    resolved)
                else
                  let added := checkAndAdd config.skewSeconds resolved.seen
                    credentials.nonce call.now
                  (if added.1 then .authenticated credentials.principalId
                    else .refused (reject "nonce replay detected"),
                    { resolved with seen := added.2 })

def authTrace {Key : Type} (primitives : Primitives Key)
    (config : AuthConfig) (calls : List Call) : List (Call × Outcome) :=
  trace (authenticate primitives config) {} calls

end AcpTask.Signing
