import Mathlib.Tactic.Linarith
import AcpTask.Signing.RequestAuth

namespace AcpTask.Signing

open Library

structure Request where
  session : Option Data.Value
  method : String
  path : String
  body : List UInt8
  timestamp : Option Int
  nonce : Option String
  deriving DecidableEq

/-- The claims that the principal has signed, however they are spelt. -/
def Call.session {Key : Type} (primitives : Primitives Key) (call : Call) :
    Option Data.Value :=
  (requiredHeader call.headers headerSession).map fun raw =>
    match parseAssertion primitives raw with
    | .dict assertion => canonicalSession assertion
    | value => value

def Call.timestamp (call : Call) : Option Int :=
  (requiredHeader call.headers headerTimestamp).bind pyInt

def Call.nonce (call : Call) : Option String :=
  requiredHeader call.headers headerNonce

def Call.request {Key : Type} (primitives : Primitives Key) (call : Call) :
    Request where
  session := call.session primitives
  method := call.method
  path := call.path
  body := call.body.octets
  timestamp := call.timestamp
  nonce := call.nonce

/-- The call was answered with a verified principal.  The pass-through of an
authenticator that requires no signatures verifies nobody. -/
def Outcome.accepted : Outcome → Bool
  | .authenticated _ => true
  | _ => false

section Cache

variable {skewSeconds : Int} {seen : List (String × ℚ)}

theorem mem_evict {now : ℚ} {entry : String × ℚ} :
    entry ∈ evict skewSeconds seen now ↔
      entry ∈ seen ∧ now - skewSeconds ≤ entry.2 := by
  simp [evict]

theorem mem_checkAndAdd {nonce : String} {now : ℚ} {entry : String × ℚ}
    (member : entry ∈ seen) (inWindow : now - skewSeconds ≤ entry.2) :
    entry ∈ (checkAndAdd skewSeconds seen nonce now).2 := by
  have kept := mem_evict.mpr ⟨member, inWindow⟩
  unfold checkAndAdd
  dsimp only
  split
  · exact kept
  · exact List.mem_cons_of_mem _ kept

theorem mem_checkAndAdd_self {nonce : String} {now : ℚ}
    (fresh : (checkAndAdd skewSeconds seen nonce now).1 = true) :
    (nonce, now) ∈ (checkAndAdd skewSeconds seen nonce now).2 := by
  unfold checkAndAdd at fresh ⊢
  dsimp only at fresh ⊢
  split at fresh
  · cases fresh
  · rename_i absent
    rw [if_neg absent]
    exact List.mem_cons_self

theorem outside_of_checkAndAdd {nonce : String} {now recorded : ℚ}
    (member : (nonce, recorded) ∈ seen)
    (fresh : (checkAndAdd skewSeconds seen nonce now).1 = true) :
    recorded < now - skewSeconds := by
  by_contra inWindow
  have kept : (nonce, recorded) ∈ evict skewSeconds seen now :=
    mem_evict.mpr ⟨member, not_lt.mp inWindow⟩
  have taken : nonce ∈ (evict skewSeconds seen now).map Prod.fst :=
    List.mem_map.mpr ⟨_, kept, rfl⟩
  unfold checkAndAdd at fresh
  dsimp only at fresh
  rw [if_pos taken] at fresh
  cases fresh

end Cache

section Calls

variable {Key : Type} {primitives : Primitives Key} {config : AuthConfig}
  {state : AuthState} {call : Call}

theorem resolvePublicKey_seen {principalId : String} {key : Option String}
    {resolved : AuthState}
    (answer : resolvePublicKey config state principalId call =
      .ok (key, resolved)) : resolved.seen = state.seen := by
  unfold resolvePublicKey at answer
  dsimp only at answer
  split at answer
  · cases answer
    rfl
  · split at answer
    · cases answer
    · cases answer
      rfl
    · split at answer <;>
      · cases answer
        rfl

theorem readCredentials_ok {credentials : Credentials}
    (read : readCredentials primitives call = .ok credentials) :
    call.timestamp = some credentials.timestamp ∧
      call.nonce = some credentials.nonce := by
  unfold readCredentials at read
  split at read
  · rename_i timestampHeader nonceHeader
    split at read
    · cases read
    · rename_i timestampValue
      split at read
      · cases read
        exact ⟨by rw [Call.timestamp, timestampHeader]; exact timestampValue,
          nonceHeader⟩
      · cases read
  · cases read

/-- What one call does to the nonce cache: nothing, or one use of it at the
call's own time by the call's own nonce, whose answer is the call's. -/
theorem authenticate_cases (primitives : Primitives Key) (config : AuthConfig)
    (state : AuthState) (call : Call) :
    ((authenticate primitives config state call).1.accepted = false ∧
      (authenticate primitives config state call).2.seen = state.seen) ∨
    ∃ timestamp nonce,
      call.timestamp = some timestamp ∧ call.nonce = some nonce ∧
      timestampFresh timestamp call.now config.skewSeconds = true ∧
      (authenticate primitives config state call).1.accepted =
        (checkAndAdd config.skewSeconds state.seen nonce call.now).1 ∧
      (authenticate primitives config state call).2.seen =
        (checkAndAdd config.skewSeconds state.seen nonce call.now).2 := by
  unfold authenticate
  split
  · exact .inl ⟨rfl, rfl⟩
  · cases read : readCredentials primitives call with
    | error => exact .inl ⟨rfl, rfl⟩
    | ok credentials =>
        obtain ⟨timestampRead, nonceRead⟩ := readCredentials_ok read
        cases answer : resolvePublicKey config state credentials.principalId
            call with
        | error => exact .inl ⟨by simp [Outcome.accepted, answer],
            by simp [answer]⟩
        | ok pair =>
            obtain ⟨publicKey, _⟩ := pair
            have sameSeen := resolvePublicKey_seen answer
            cases chain : verifyChain primitives call credentials publicKey with
            | error =>
                exact .inl ⟨by simp [Outcome.accepted, answer, chain],
                  by simp [answer, chain, sameSeen]⟩
            | ok =>
                cases fresh : timestampFresh credentials.timestamp call.now
                    config.skewSeconds with
                | false =>
                    exact .inl ⟨by
                      simp [Outcome.accepted, answer, chain, fresh],
                      by simp [answer, chain, fresh, sameSeen]⟩
                | true =>
                    refine .inr ⟨credentials.timestamp, credentials.nonce,
                      timestampRead, nonceRead, fresh, ?_, ?_⟩
                    · simp only [answer, chain, fresh, sameSeen]
                      cases (checkAndAdd config.skewSeconds state.seen
                        credentials.nonce call.now).1 <;> rfl
                    · simp [answer, chain, fresh, sameSeen]

theorem accepted_outside_window {nonce : String} {recorded : ℚ}
    (calls : List Call)
    (clock : calls.Pairwise fun first second => first.now ≤ second.now)
    (member : (nonce, recorded) ∈ state.seen) :
    ∀ event ∈ trace (authenticate primitives config) state calls,
      event.2.accepted = true → event.1.nonce = some nonce →
        recorded < event.1.now - config.skewSeconds := by
  induction calls generalizing state with
  | nil => simp
  | cons call _ induction =>
      obtain ⟨laterClock, restClock⟩ := List.pairwise_cons.mp clock
      intro event eventMember accepted sameNonce
      by_cases inWindow : call.now - config.skewSeconds ≤ recorded
      · rcases List.mem_cons.mp eventMember with rfl | later
        · rcases authenticate_cases primitives config state call with
            ⟨refused, _⟩ | ⟨_, presented, _, nonceRead, _, answer, _⟩
          · rw [refused] at accepted
            cases accepted
          · obtain rfl := Option.some.inj (nonceRead.symm.trans sameNonce)
            exact outside_of_checkAndAdd member (answer.symm.trans accepted)
        · refine induction restClock ?_ event later accepted sameNonce
          rcases authenticate_cases primitives config state call with
            ⟨_, sameSeen⟩ | ⟨_, _, _, _, _, _, used⟩
          · rwa [sameSeen]
          · rw [used]
            exact mem_checkAndAdd member inWindow
      · have reached : call.now ≤ event.1.now := by
          rcases List.mem_cons.mp eventMember with rfl | later
          · exact le_rfl
          · exact laterClock event.1 (mem_actions_of_mem_trace later)
        linarith

theorem accepted_fresh {calls : List Call} {event : Call × Outcome}
    (member : event ∈ trace (authenticate primitives config) state calls)
    (accepted : event.2.accepted = true) {timestamp : Int}
    (read : event.1.timestamp = some timestamp) :
    event.1.now - timestamp ≤ config.skewSeconds := by
  induction calls generalizing state with
  | nil => cases member
  | cons call _ induction =>
      rcases List.mem_cons.mp member with rfl | later
      · rcases authenticate_cases primitives config state call with
          ⟨refused, _⟩ | ⟨presented, _, timestampRead, _, fresh, _, _⟩
        · rw [refused] at accepted
          cases accepted
        · obtain rfl := Option.some.inj (timestampRead.symm.trans read)
          exact le_of_abs_le (of_decide_eq_true fresh)
      · exact induction later

theorem trace_no_replay (calls : List Call)
    (clock : calls.Pairwise fun first second => first.now ≤ second.now)
    (notAhead : ∀ call ∈ calls, ∀ timestamp,
      call.timestamp = some timestamp → (timestamp : ℚ) ≤ call.now) :
    (trace (authenticate primitives config) state calls).Pairwise
      fun first second => first.2.accepted = true →
        second.2.accepted = true →
          ¬ (first.1.timestamp = second.1.timestamp ∧
            first.1.nonce = second.1.nonce) := by
  induction calls generalizing state with
  | nil => exact List.Pairwise.nil
  | cons call rest induction =>
      obtain ⟨_, restClock⟩ := List.pairwise_cons.mp clock
      refine List.pairwise_cons.mpr ⟨?_, induction restClock
        fun later member => notAhead later (List.mem_cons_of_mem _ member)⟩
      rintro event member firstAccepted secondAccepted
        ⟨sameTimestamp, sameNonce⟩
      rcases authenticate_cases primitives config state call with
        ⟨refused, _⟩ |
          ⟨timestamp, nonce, timestampRead, nonceRead, _, answer, used⟩
      · rw [refused] at firstAccepted
        cases firstAccepted
      · have recorded : (nonce, call.now) ∈
            (authenticate primitives config state call).2.seen := by
          rw [used]
          exact mem_checkAndAdd_self (answer.symm.trans firstAccepted)
        have outside := accepted_outside_window rest restClock recorded event
          member secondAccepted (sameNonce.symm.trans nonceRead)
        have behind := notAhead call List.mem_cons_self timestamp timestampRead
        have fresh := accepted_fresh member secondAccepted
          (sameTimestamp.symm.trans timestampRead)
        linarith

end Calls

/-- On a run whose clock never goes back and whose requests are not dated ahead
of it, no request is accepted twice. -/
theorem accepted_requests_distinct {Key : Type} (primitives : Primitives Key)
    (config : AuthConfig) (calls : List Call)
    (clock : calls.Pairwise fun first second => first.now ≤ second.now)
    (notAhead : ∀ call ∈ calls, ∀ timestamp,
      call.timestamp = some timestamp → (timestamp : ℚ) ≤ call.now) :
    (authTrace primitives config calls).Pairwise fun first second =>
      first.2.accepted = true → second.2.accepted = true →
        first.1.request primitives ≠ second.1.request primitives := by
  refine (trace_no_replay calls clock notAhead).imp ?_
  intro first second distinct firstAccepted secondAccepted same
  exact distinct firstAccepted secondAccepted
    ⟨congrArg Request.timestamp same, congrArg Request.nonce same⟩

/-! A session of one principal, with the one assertion and the one request its
keys have signed. -/

def sampleAssertion : String :=
  "\x7b\"expires_at\":1900,\"issued_at\":1000,\"principal_id\":\"cHI=\"," ++
    "\"session_public_key\":\"c2U=\",\"signature\":\"c2ln\"\x7d"

def sampleClaims : String :=
  "\x7b\"expires_at\":1900,\"issued_at\":1000,\"principal_id\":\"cHI=\"," ++
    "\"session_public_key\":\"c2U=\"\x7d"

def sampleBodyHash : String :=
  "e3b0c44298fc1c149afbf4c8996fb92427ae41e4649b934ca495991b7852b855"

def samplePrimitives (timestamp : String) : Primitives String where
  loads raw :=
    if raw = sampleAssertion then
      some (.dict [("expires_at", .int 1900), ("issued_at", .int 1000),
        ("principal_id", .str "cHI="), ("session_public_key", .str "c2U="),
        ("signature", .str "c2ln")])
    else none
  base64Loads _ := none
  dumps _ := sampleClaims
  sha256Hex _ := sampleBodyHash
  loadVerifyKey key := if key = "cHI=" ∨ key = "c2U=" then some key else none
  verify key message signature :=
    decide ((key, message, signature) = ("cHI=", sampleClaims, "c2ln")) ||
    decide ((key, message, signature) =
      ("c2U=", "POST\n/act\n" ++ sampleBodyHash ++ "\n" ++ timestamp ++
        "\nn-1", "cmVx"))

def sampleCall (timestamp : String) (now : ℚ) : Call where
  method := "POST"
  path := "/act"
  body := .absent
  headers := [("X-AT-Principal", "cHI="), ("X-AT-Session", sampleAssertion),
    ("X-AT-Signature", "cmVx"), ("X-AT-Timestamp", timestamp),
    ("X-AT-Nonce", "n-1")]
  now := now
  registry := .publicKey (some "cHI=")

/-- The request dated 1120 is accepted at 1000 and again at 1121, when its nonce
has been evicted and its timestamp is still fresh. -/
theorem future_dated_request_accepted_twice :
    let calls := [sampleCall "1120" 1000, sampleCall "1120" 1121]
    let primitives := samplePrimitives "1120"
    calls.Pairwise (fun first second => first.now ≤ second.now) ∧
    ¬ (authTrace primitives { requireSignatures := true }
        calls).Pairwise fun first second =>
      first.2.accepted = true → second.2.accepted = true →
        first.1.request primitives ≠ second.1.request primitives := by
  decide +kernel

/-- Dated at the time it is first presented, the request is accepted once and
refused as a replay afterwards. -/
theorem accepted_requests_distinct_sample :
    let calls := [sampleCall "1000" 1000, sampleCall "1000" 1120]
    let primitives := samplePrimitives "1000"
    let events := authTrace primitives { requireSignatures := true } calls
    events.map (fun event => event.2.accepted) = [true, false] ∧
    events.Pairwise fun first second =>
      first.2.accepted = true → second.2.accepted = true →
        first.1.request primitives ≠ second.1.request primitives := by
  refine ⟨by decide +kernel, accepted_requests_distinct _ _ _ ?_ ?_⟩
  · decide +kernel
  · have dated : ∀ call ∈ [sampleCall "1000" 1000, sampleCall "1000" 1120],
        call.timestamp = some 1000 ∧ 1000 ≤ call.now := by
      decide +kernel
    intro call member timestamp read
    obtain ⟨found, behind⟩ := dated call member
    obtain rfl := Option.some.inj (found.symm.trans read)
    exact behind

end AcpTask.Signing
