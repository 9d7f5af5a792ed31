import AcpTask.Signing.Headers

namespace AcpTask.Signing

open Data Library

variable {Key SigningKey : Type} {primitives : Primitives Key}
  {scheme : Scheme SigningKey}

/-! What the server reads back from the headers of an honest client. -/

/-- What `json` does with a session assertion: a text that is not empty, and
that reads back as the dict with its keys sorted. -/
structure ReadsBack (primitives : Primitives Key)
    (assertion : List (String × Value)) : Prop where
  written : primitives.dumps (.dict assertion) ≠ ""
  loaded : primitives.loads (primitives.dumps (.dict assertion)) =
    some (Value.sortKeys (.dict assertion))

theorem lookup_sortPairs {items : List (String × Value)} {key : String}
    {value : Value} (found : Value.get? items key = some value)
    (hashes : value.hashable = true) :
    Value.lookup (Value.sortPairs items) key = value := by
  rw [Value.lookup, Value.get?_sortPairs, found, Option.map_some,
    Value.sortKeys_of_hashable hashes, Option.getD_some]

theorem canonicalSession_assertion (session : Session SigningKey) :
    canonicalSession
        (Value.sortPairs (session.assertion primitives scheme)) =
      canonicalSession (session.claims scheme) := by
  have read : ∀ key value,
      Value.get? (session.assertion primitives scheme) key = some value →
        value.hashable = true →
          Value.lookup (Value.sortPairs (session.assertion primitives scheme))
            key = value := fun _ _ found hashes => lookup_sortPairs found hashes
  rw [canonicalSession, read "expires_at" _ rfl rfl,
    read "issued_at" _ rfl rfl, read "principal_id" _ rfl rfl,
    read "session_public_key" _ rfl rfl]
  rfl

theorem verifySessionAssertion_honest (correct : scheme.Correct primitives)
    (session : Session SigningKey) {now : ℚ} (alive : now ≤ session.expiresAt) :
    verifySessionAssertion primitives
        (Value.sortPairs (session.assertion primitives scheme))
        (scheme.publicKey session.principal) now =
      .ok (.str (scheme.publicKey session.key)) := by
  obtain ⟨_, loaded, verifies⟩ := correct.verifies session.principal
  have read : ∀ key value,
      Value.get? (session.assertion primitives scheme) key = some value →
        value.hashable = true →
          Value.lookup (Value.sortPairs (session.assertion primitives scheme))
            key = value := fun _ _ found hashes => lookup_sortPairs found hashes
  have signed := correct.sign_ne session.principal
    (primitives.dumps (canonicalSession (session.claims scheme)))
  have inTime : expired now (.int session.expiresAt) = false :=
    decide_eq_false (not_lt.mpr alive)
  rw [verifySessionAssertion]
  simp only [canonicalSession_assertion, read "principal_id" _ rfl rfl,
    read "signature" _ rfl rfl, read "expires_at" _ rfl rfl,
    read "session_public_key" _ rfl rfl, loaded]
  simp [Value.asStr?, Value.truthy, signed, verifies, inTime]

theorem canonicalRequest_unsent {call : Call} {method path : String}
    {body : Body} (sameMethod : call.method = method)
    (samePath : call.path = path) (sameOctets : call.body.octets = body.octets)
    (timestamp : Int) (nonce : String) :
    canonicalRequest primitives call timestamp nonce =
      canonicalRequest primitives (unsent method path body) timestamp
        nonce := by
  rw [canonicalRequest, canonicalRequest, sameMethod, samePath, sameOctets]
  rfl

theorem verifyRequestSignature_honest (correct : scheme.Correct primitives)
    (key : SigningKey) {call : Call} {method path : String} {body : Body}
    (sameMethod : call.method = method) (samePath : call.path = path)
    (sameOctets : call.body.octets = body.octets) {credentials : Credentials}
    (signature : credentials.signature = signRequest primitives scheme key
      method path body credentials.timestamp credentials.nonce) :
    verifyRequestSignature primitives (.str (scheme.publicKey key)) call
      credentials = .ok () := by
  obtain ⟨_, loaded, verifies⟩ := correct.verifies key
  rw [verifyRequestSignature]
  simp only [loaded, canonicalRequest_unsent sameMethod samePath sameOctets,
    signature, signRequest, verifies, if_true]

theorem chosenNonce_ne {nonce : Option String} {entropy : Vector UInt8 16}
    (named : nonce ≠ some "") : chosenNonce nonce entropy ≠ "" := by
  cases nonce with
  | some =>
      intro empty
      exact named (congrArg some empty)
  | none =>
      intro empty
      have octets : (entropy.toList.flatMap hexPair).length = 0 := by
        have texts := congrArg String.toList empty
        rw [chosenNonce, Option.getD_none, hexOctets,
          String.toList_ofList] at texts
        rw [texts]
        rfl
      have pairs : ∀ list : List UInt8,
          (list.flatMap hexPair).length = 2 * list.length := by
        intro list
        induction list with
        | nil => rfl
        | cons _ _ induction =>
            rw [List.flatMap_cons, List.length_append, induction,
              List.length_cons]
            simp only [hexPair, List.length_cons, List.length_nil]
            omega
      rw [pairs] at octets
      simp at octets

theorem requiredHeader_some {headers : List (String × String)}
    {name value : String} (found : header headers name = some value)
    (present : value ≠ "") : requiredHeader headers name = some value := by
  rw [requiredHeader, found]
  simp [present]

theorem toString_ne (number : Int) : toString number ≠ "" := by
  intro empty
  have digits := congrArg String.toList empty
  rw [toString_toList] at digits
  cases number with
  | ofNat => exact Nat.toDigits_ne_nil digits
  | negSucc => cases digits

theorem readCredentials_honest (correct : scheme.Correct primitives)
    {session : Session SigningKey}
    (json : ReadsBack primitives (session.assertion primitives scheme))
    {method path : String} {body : Body} {signedAt : ℚ}
    {nonce : Option String} {entropy : Vector UInt8 16}
    (named : nonce ≠ some "") {call : Call}
    (built : session.authHeaders primitives scheme method path body signedAt
      nonce entropy = .ok call.headers) :
    readCredentials primitives call = .ok {
      principalId := scheme.publicKey session.principal
      signature := signRequest primitives scheme session.key method path body
        (truncate signedAt) (chosenNonce nonce entropy)
      timestamp := truncate signedAt
      nonce := chosenNonce nonce entropy
      assertion := Value.sortPairs (session.assertion primitives scheme) } := by
  unfold Session.authHeaders buildAuthHeaders at built
  dsimp only at built
  split at built
  next bounded =>
    have headers := Except.ok.inj built
    have parsed : parseAssertion primitives
        (primitives.dumps (.dict (session.assertion primitives scheme))) =
          .dict (Value.sortPairs (session.assertion primitives scheme)) := by
      rw [parseAssertion, json.loaded, Value.sortKeys]
    have signed : signRequest primitives scheme session.key method path body
        (truncate signedAt) (chosenNonce nonce entropy) ≠ "" :=
      correct.sign_ne _ _
    have chosen : chosenNonce nonce entropy ≠ "" := chosenNonce_ne named
    rw [readCredentials, ← headers,
      requiredHeader_some (by simp [header, headerPrincipal])
        (correct.publicKey_ne session.principal),
      requiredHeader_some (by simp [header, headerSession]) json.written,
      requiredHeader_some (by simp [header, headerSignature]) signed,
      requiredHeader_some (by simp [header, headerTimestamp])
        (toString_ne (truncate signedAt)),
      requiredHeader_some (by simp [header, headerNonce]) chosen]
    simp only [pyInt_toString bounded, parsed]
  next => cases built

theorem verifyChain_honest (correct : scheme.Correct primitives)
    {session : Session SigningKey} {call : Call} {body : Body}
    (sameOctets : call.body.octets = body.octets)
    (alive : call.now ≤ session.expiresAt) (timestamp : Int) (nonce : String) :
    verifyChain primitives call {
      principalId := scheme.publicKey session.principal
      signature := signRequest primitives scheme session.key call.method
        call.path body timestamp nonce
      timestamp, nonce
      assertion := Value.sortPairs (session.assertion primitives scheme) }
      (some (scheme.publicKey session.principal)) = .ok () := by
  rw [verifyChain, verifySessionAssertion_honest correct session alive]
  exact verifyRequestSignature_honest correct session.key rfl rfl sameOctets rfl

structure Prepared (principalId registered nonce : String)
    (state : AuthState) : Prop where
  unused : nonce ∉ state.seen.map Prod.fst
  keyed : ∀ entry ∈ state.pubkeys, entry.1 = principalId →
    entry.2.1 = registered

section Prepared

variable {config : AuthConfig} {state : AuthState} {call : Call}
  {principalId registered nonce : String}

theorem mem_evict_fst {skewSeconds : Int} {seen : List (String × ℚ)} {now : ℚ}
    (member : nonce ∈ (evict skewSeconds seen now).map Prod.fst) :
    nonce ∈ seen.map Prod.fst := by
  obtain ⟨entry, kept, same⟩ := List.mem_map.mp member
  exact List.mem_map.mpr ⟨entry, (mem_evict.mp kept).1, same⟩

theorem checkAndAdd_fresh {skewSeconds : Int} {seen : List (String × ℚ)}
    {now : ℚ} (unused : nonce ∉ seen.map Prod.fst) :
    (checkAndAdd skewSeconds seen nonce now).1 = true := by
  unfold checkAndAdd
  dsimp only
  rw [if_neg fun member => unused (mem_evict_fst member)]

theorem checkAndAdd_unused {skewSeconds : Int} {seen : List (String × ℚ)}
    {other : String} {now : ℚ} (unused : nonce ∉ seen.map Prod.fst)
    (differ : other ≠ nonce) :
    nonce ∉ (checkAndAdd skewSeconds seen other now).2.map Prod.fst := by
  have kept : nonce ∉ (evict skewSeconds seen now).map Prod.fst :=
    fun member => unused (mem_evict_fst member)
  unfold checkAndAdd
  dsimp only
  split
  · exact kept
  · rw [List.map_cons, List.mem_cons]
    intro member
    rcases member with same | member
    · exact differ same.symm
    · exact kept member

theorem resolvePublicKey_pubkeys {key : Option String} {resolved : AuthState}
    (answer : resolvePublicKey config state principalId call =
      .ok (key, resolved)) :
    ∀ entry ∈ resolved.pubkeys, entry ∈ state.pubkeys ∨
      (entry.1 = principalId ∧
        call.registry = .publicKey (some entry.2.1)) := by
  intro entry member
  unfold resolvePublicKey at answer
  dsimp only at answer
  split at answer
  · cases answer
    exact .inl member
  · split at answer
    · cases answer
    · cases answer
      exact .inl member
    · rename_i asked
      split at answer
      · cases answer
        exact .inl member
      · cases answer
        rcases List.mem_cons.mp member with rfl | older
        · exact .inr ⟨rfl, asked⟩
        · exact .inl (List.mem_of_mem_filter older)

theorem readCredentials_principal {credentials : Credentials}
    (read : readCredentials primitives call = .ok credentials) :
    requiredHeader call.headers headerPrincipal =
      some credentials.principalId := by
  unfold readCredentials at read
  split at read
  · rename_i principalHeader _ _ _ _
    split at read
    · cases read
    · split at read
      · cases read
        exact principalHeader
      · cases read
  · cases read

theorem authenticate_pubkeys :
    ∀ entry ∈ (authenticate primitives config state call).2.pubkeys,
      entry ∈ state.pubkeys ∨
        (requiredHeader call.headers headerPrincipal = some entry.1 ∧
          call.registry = .publicKey (some entry.2.1)) := by
  intro entry member
  unfold authenticate at member
  split at member
  · exact .inl member
  · cases read : readCredentials primitives call with
    | error =>
        rw [read] at member
        exact .inl member
    | ok credentials =>
        rw [read] at member
        dsimp only at member
        cases answer : resolvePublicKey config state credentials.principalId
            call with
        | error =>
            rw [answer] at member
            exact .inl member
        | ok pair =>
            obtain ⟨_, resolved⟩ := pair
            have cached : entry ∈ resolved.pubkeys := by
              rw [answer] at member
              dsimp only at member
              split at member
              · exact member
              · split at member <;> exact member
            refine (resolvePublicKey_pubkeys answer entry cached).imp_right ?_
            intro asked
            exact ⟨asked.1 ▸ readCredentials_principal read, asked.2⟩

theorem Prepared.step (prepared : Prepared principalId registered nonce state)
    (differ : call.nonce ≠ some nonce)
    (answers : requiredHeader call.headers headerPrincipal = some principalId →
      ∀ key, call.registry = .publicKey (some key) → key = registered) :
    Prepared principalId registered nonce
      (authenticate primitives config state call).2 where
  unused := by
    rcases authenticate_cases primitives config state call with
      ⟨-, same⟩ | ⟨_, other, -, otherNonce, -, -, used⟩
    · rw [same]
      exact prepared.unused
    · rw [used]
      apply checkAndAdd_unused prepared.unused
      intro same
      exact differ (same ▸ otherNonce)
  keyed := by
    intro entry member own
    rcases authenticate_pubkeys entry member with older | asked
    · exact prepared.keyed entry older own
    · exact answers (own ▸ asked.1) entry.2.1 asked.2

def stateAfter (primitives : Primitives Key) (config : AuthConfig)
    (calls : List Call) : AuthState :=
  run (fun state call => (authenticate primitives config state call).2) {} calls

theorem prepared_stateAfter {calls : List Call}
    (differ : ∀ call ∈ calls, call.nonce ≠ some nonce)
    (answers : ∀ call ∈ calls,
      requiredHeader call.headers headerPrincipal = some principalId →
        ∀ key, call.registry = .publicKey (some key) → key = registered) :
    Prepared principalId registered nonce
      (stateAfter primitives config calls) := by
  apply run_invariant_of_mem (fun state call =>
    (authenticate primitives config state call).2)
    (Prepared principalId registered nonce)
  · intro state call member prepared
    exact prepared.step (differ call member) (answers call member)
  · exact ⟨List.not_mem_nil, fun entry member => absurd member List.not_mem_nil⟩

theorem resolvePublicKey_prepared
    (prepared : Prepared principalId registered nonce state)
    (present : registered ≠ "")
    (answers : call.registry = .publicKey (some registered)) :
    ∃ resolved, resolvePublicKey config state principalId call =
      .ok (some registered, resolved) ∧ resolved.seen = state.seen := by
  unfold resolvePublicKey
  cases cached : (state.pubkeys.lookup principalId).filter fun entry =>
      decide (call.now - entry.2 < config.pubkeyCacheTtl) with
  | none =>
      simp only [answers, if_neg present]
      exact ⟨_, rfl, rfl⟩
  | some entry =>
      have held := (Option.filter_eq_some_iff.mp cached).1
      obtain ⟨_, _, pubkeys, -⟩ := List.lookup_eq_some_iff.mp held
      have same : entry.1 = registered := prepared.keyed (principalId, entry)
        (by rw [pubkeys]; simp) rfl
      obtain ⟨key, instant⟩ := entry
      obtain rfl := same
      exact ⟨state, rfl, rfl⟩

end Prepared

/-- The headers of a session are taken by the server, inside the two windows,
for a nonce that no earlier call presented. -/
theorem honest_request_accepted {Key SigningKey : Type}
    (primitives : Primitives Key) (scheme : Scheme SigningKey)
    (correct : scheme.Correct primitives) (session : Session SigningKey)
    (json : ReadsBack primitives (session.assertion primitives scheme))
    (body : Body) (signedAt : ℚ) (nonce : Option String)
    (entropy : Vector UInt8 16) (named : nonce ≠ some "") (call : Call)
    (built : session.authHeaders primitives scheme call.method call.path body
      signedAt nonce entropy = .ok call.headers)
    (sameOctets : call.body.octets = body.octets)
    (answers : call.registry =
      .publicKey (some (scheme.publicKey session.principal)))
    (config : AuthConfig) (earlier : List Call)
    (unused : ∀ other ∈ earlier, other.nonce ≠ some (chosenNonce nonce entropy))
    (registered : ∀ other ∈ earlier,
      requiredHeader other.headers headerPrincipal =
          some (scheme.publicKey session.principal) →
        ∀ key, other.registry = .publicKey (some key) →
          key = scheme.publicKey session.principal)
    (inSkew : |call.now - truncate signedAt| ≤ config.skewSeconds)
    (alive : call.now ≤ session.expiresAt) :
    (authenticate primitives config (stateAfter primitives config earlier)
      call).1 =
      if config.requireSignatures then
        .authenticated (scheme.publicKey session.principal)
      else .passThrough := by
  cases required : config.requireSignatures with
  | false => simp [authenticate, required]
  | true =>
      have prepared : Prepared (scheme.publicKey session.principal)
          (scheme.publicKey session.principal) (chosenNonce nonce entropy)
          (stateAfter primitives config earlier) :=
        prepared_stateAfter unused registered
      obtain ⟨resolved, answer, sameSeen⟩ := @resolvePublicKey_prepared config _
        call _ _ _ prepared (correct.publicKey_ne session.principal) answers
      have read := readCredentials_honest correct json named built
      have fresh : timestampFresh (truncate signedAt) call.now
          config.skewSeconds = true := decide_eq_true inSkew
      have taken : (checkAndAdd config.skewSeconds resolved.seen
          (chosenNonce nonce entropy) call.now).1 = true := by
        rw [sameSeen]
        exact checkAndAdd_fresh prepared.unused
      rw [authenticate, read]
      simp [required, answer, verifyChain_honest correct sameOctets alive,
        fresh, taken]

def sampleScheme : Scheme String where
  publicKey key := "pk:" ++ key
  sign key message := "pk:" ++ key ++ message

def sampleSession : Session String where
  principal := "principal"
  key := "session"
  issued := 1000
  ttlSeconds := 900

def signerPrimitives : Primitives String where
  loads _ := none
  base64Loads _ := none
  dumps value := (Value.dumps value).getD ""
  sha256Hex := hexOctets
  loadVerifyKey := some
  verify key message signature := decide (signature = key ++ message)

/-- A server whose `json` knows the text of one assertion. -/
def reading (primitives : Primitives Key)
    (assertion : List (String × Value)) : Primitives Key :=
  { primitives with
    loads := fun text =>
      if text = primitives.dumps (.dict assertion) then
        some (Value.sortKeys (.dict assertion))
      else none }

theorem readsBack_reading {assertion : List (String × Value)}
    (written : primitives.dumps (.dict assertion) ≠ "") :
    ReadsBack (reading primitives assertion) assertion :=
  ⟨written, if_pos rfl⟩

theorem assertion_reading (session : Session SigningKey)
    (primitives : Primitives Key) (scheme : Scheme SigningKey)
    (assertion : List (String × Value)) :
    session.assertion (reading primitives assertion) scheme =
      session.assertion primitives scheme := rfl

def serverPrimitives : Primitives String :=
  reading signerPrimitives
    (sampleSession.assertion signerPrimitives sampleScheme)

theorem sampleScheme_correct : sampleScheme.Correct serverPrimitives where
  verifies key := ⟨"pk:" ++ key, rfl, fun _ => decide_eq_true rfl⟩
  publicKey_ne key := by simp [sampleScheme]
  sign_ne key message := by simp [sampleScheme]

theorem sampleSession_written : signerPrimitives.dumps
    (.dict (sampleSession.assertion signerPrimitives sampleScheme)) ≠ "" := by
  decide +kernel

theorem sampleSession_readsBack : ReadsBack serverPrimitives
    (sampleSession.assertion serverPrimitives sampleScheme) := by
  have same : sampleSession.assertion serverPrimitives sampleScheme =
      sampleSession.assertion signerPrimitives sampleScheme :=
    assertion_reading sampleSession signerPrimitives sampleScheme _
  rw [same]
  exact readsBack_reading sampleSession_written

def honestHeaders (nonce : Option String) : List (String × String) :=
  match sampleSession.authHeaders serverPrimitives sampleScheme "POST" "/act"
      .absent 1000 nonce (Vector.replicate 16 0) with
  | .ok headers => headers
  | .error _ => []

def honestCall (nonce : Option String) (now : ℚ) : Call where
  method := "POST"
  path := "/act"
  body := .bytes []
  headers := honestHeaders nonce
  now := now
  registry := .publicKey (some "pk:principal")

theorem honestHeaders_built (nonce : Option String) :
    sampleSession.authHeaders serverPrimitives sampleScheme "POST" "/act"
      .absent 1000 nonce (Vector.replicate 16 0) =
        .ok (honestHeaders nonce) := rfl

/-- An empty body and no nonce of its own, presented as late as it may be, after
a call of someone else. -/
theorem honest_request_accepted_sample :
    (authenticate serverPrimitives { requireSignatures := true }
      (stateAfter serverPrimitives { requireSignatures := true }
        [sampleCall "1000" 1000]) (honestCall none 1120)).1 =
      .authenticated "pk:principal" :=
  honest_request_accepted serverPrimitives sampleScheme sampleScheme_correct
    sampleSession sampleSession_readsBack .absent 1000 none
    (Vector.replicate 16 0) (by decide) (honestCall none 1120)
    (honestHeaders_built none) rfl rfl { requireSignatures := true }
    [sampleCall "1000" 1000] (by decide +kernel)
    (fun other member claimed => by
      obtain rfl := List.mem_singleton.mp member
      exact absurd claimed (by decide +kernel))
    (by decide +kernel) (by decide +kernel)

/-- A nonce that is the empty text is signed, and counts as missing. -/
theorem empty_nonce_refused :
    sampleSession.authHeaders serverPrimitives sampleScheme "POST" "/act"
        .absent 1000 (some "") (Vector.replicate 16 0) =
      .ok (honestCall (some "") 1000).headers ∧
    (authenticate serverPrimitives { requireSignatures := true } {}
      (honestCall (some "") 1000)).1 =
      .refused (reject "missing authentication headers") :=
  ⟨honestHeaders_built (some ""), by decide +kernel⟩

end AcpTask.Signing
