import AcpTask.Data.Legible
import AcpTask.Library.Transaction

namespace AcpTask.Orchestrator

open Data Library
open Data.Value (get? lookup AllPairs)

/-! Execution attestations: what the broker signs of an execution, and what is
accepted as signed by it. -/

inductive AttestationError where
  | invalid (message : String)
  /-- Any other exception. -/
  | raised

structure Scheme (Key : Type) where
  sha256 : String → String
  publicKey : Key → String
  sign : Key → String → String
  /-- The key and the signature decode, and the signature is the message's. -/
  verify : String → String → String → Bool

def signedFields : List String :=
  ["attestation_id", "task_id", "user_principal_id", "agent_principal_id",
    "credential_id", "capability_id", "approved_payload_hash",
    "provider_receipt", "idempotency_key", "executed_at", "outcome",
    "broker_key_id", "material_hashes"]

def requiredFields : List String := signedFields ++ ["signature"]

def receiptFields : List String :=
  ["provider", "capability_id", "provider_id", "provider_account_hash",
    "provider_timestamp", "team_id", "channel_id", "message_ts", "file_id",
    "reaction"]

/-- `{key: items[key] for key in keys if key in items}`. -/
def pick (items : List (String × Value)) (keys : List String) :
    List (String × Value) :=
  keys.filterMap fun key => (get? items key).map fun value => (key, value)

def canonicalBytes (attestation : List (String × Value)) : Option String :=
  (Value.dict (signedFields.map fun key => (key, lookup attestation key))).dumps

def isName : Value → Bool
  | .str text => text != ""
  | _ => false

def itemsOf : Value → List (String × Value)
  | .dict items => items
  | _ => []

def emails (attendees : List Value) : List String :=
  (attendees.filterMap fun item =>
    (lookup (itemsOf item) "email").asStr?).mergeSort (· ≤ ·)

def materialProjection (capabilityId : Value) (payload : Value) :
    List (String × Value) :=
  let payload := itemsOf payload
  if capabilityId.isText "calendar.create" then
    let event := itemsOf (lookup payload "event")
    let projection := pick event ["summary", "start", "end"]
    match lookup event "attendees" with
    | .list attendees =>
        projection ++ [("attendees", .list ((emails attendees).map .str))]
    | _ => projection
  else if capabilityId.isText "gmail.send" then pick payload ["raw"]
  else if capabilityId.isText "drive.upload" then
    pick payload ["name", "mime_type"]
  else if capabilityId.isText "slack.message.send" ||
      capabilityId.isText "slack.thread.reply" then
    pick payload ["channel_id", "thread_ts", "text"]
  else if capabilityId.isText "slack.reaction.add" then
    pick payload ["channel_id", "message_ts", "reaction"]
  else if capabilityId.isText "slack.file.upload" then
    pick payload ["channel_id", "filename", "content_hash"]
  else []

def requireNamed (receipt : List (String × Value)) (field : String) :
    Except AttestationError Unit :=
  require (isName (lookup receipt field))
    (.invalid ("provider receipt is missing " ++ field))

def filteredReceipt : Value → Except AttestationError (List (String × Value))
  | .dict items => do
      let filtered := pick items receiptFields
      requireNamed filtered "provider"
      requireNamed filtered "capability_id"
      requireNamed filtered "provider_id"
      pure filtered
  | _ => .error (.invalid "provider receipt must be an object")

/-- What an execution is attested with; `executedAt` is what `int` makes of the
time it is given or of the clock's. -/
structure AttestedExecution where
  taskId : Value
  userPrincipalId : Value
  agentPrincipalId : Value
  credentialId : Value
  capabilityId : Value
  approvedPayloadHash : Value
  providerReceipt : Value
  idempotencyKey : Value
  outcome : Value
  approvedPayload : Value
  executedAt : Option Int

structure ExecutionAttestor (Key : Type) where
  brokerKeyId : String
  signingKey : Key
  named : brokerKeyId ≠ ""

def isSha256 : Value → Bool
  | .str text => text.length == 64 && text.toList.all fun character =>
      "0123456789abcdef".toList.contains character
  | _ => false

section Scheme

variable {Key : Type} (scheme : Scheme Key)

def hash (value : Value) : Except AttestationError String :=
  match value.dumps with
  | some text => .ok (scheme.sha256 text)
  | none => .error .raised

def materialHashes (capabilityId payload : Value) :
    Except AttestationError (List (String × Value)) :=
  (materialProjection capabilityId payload).mapM fun item => do
    pure (item.1, .str (← hash scheme item.2))

def ExecutionAttestor.attested (attestor : ExecutionAttestor Key)
    (execution : AttestedExecution) (identity : String)
    (receipt : List (String × Value)) (executedAt : Int)
    (hashes : List (String × Value)) : List (String × Value) :=
  [("attestation_id", .str ("attestation-" ++ identity)),
    ("task_id", execution.taskId),
    ("user_principal_id", execution.userPrincipalId),
    ("agent_principal_id", execution.agentPrincipalId),
    ("credential_id", execution.credentialId),
    ("capability_id", execution.capabilityId),
    ("approved_payload_hash", execution.approvedPayloadHash),
    ("provider_receipt", .dict receipt),
    ("idempotency_key", execution.idempotencyKey),
    ("executed_at", .int executedAt),
    ("outcome", execution.outcome),
    ("broker_key_id", .str attestor.brokerKeyId),
    ("material_hashes", .dict hashes)]

def ExecutionAttestor.create (attestor : ExecutionAttestor Key)
    (execution : AttestedExecution) :
    Except AttestationError (List (String × Value)) := do
  require ([execution.taskId, execution.userPrincipalId,
      execution.agentPrincipalId, execution.credentialId,
      execution.capabilityId, execution.approvedPayloadHash,
      execution.idempotencyKey, execution.outcome].all isName)
    (.invalid "all execution binding fields are required")
  require (isSha256 execution.approvedPayloadHash)
    (.invalid "approved payload hash must be sha256")
  let receipt ← filteredReceipt execution.providerReceipt
  require (lookup receipt "capability_id" == execution.capabilityId)
    (.invalid "receipt capability does not match execution")
  let some executedAt := execution.executedAt | .error .raised
  let identity ← hash scheme (.dict
    [("idempotency_key", execution.idempotencyKey),
      ("provider_receipt", .dict receipt)])
  let hashes ← materialHashes scheme execution.capabilityId
    execution.approvedPayload.orEmpty
  let attestation :=
    attestor.attested execution identity receipt executedAt hashes
  let some message := canonicalBytes attestation | .error .raised
  pure (attestation ++
    [("signature", .str (scheme.sign attestor.signingKey message))])

/-- `brokerKeys` answers a key id, or raises. -/
def verifyExecutionAttestation (brokerKeys : Value → Option Value) :
    Value → Except AttestationError Unit
  | .dict items => do
      require (items.all (fun item => requiredFields.contains item.1) &&
          requiredFields.all fun field => (get? items field).isSome)
        (.invalid "execution attestation shape is invalid")
      let some known := brokerKeys (lookup items "broker_key_id")
        | .error .raised
      let .str publicKey := known
        | .error (.invalid "broker signing key is unknown")
      require (publicKey != "") (.invalid "broker signing key is unknown")
      let _ ← filteredReceipt (lookup items "provider_receipt")
      let .dict _ := lookup items "material_hashes"
        | .error (.invalid "material_hashes must be an object")
      let .str signature := lookup items "signature"
        | .error (.invalid "execution attestation signature is invalid")
      let some message := canonicalBytes items
        | .error (.invalid "execution attestation signature is invalid")
      require (scheme.verify publicKey message signature)
        (.invalid "execution attestation signature is invalid")
  | _ => .error (.invalid "execution attestation shape is invalid")

variable {scheme} {items : List (String × Value)}

theorem get?_filterMap (read : String → Option Value) (keys : List String)
    (key : String) :
    get? (keys.filterMap fun key => (read key).map fun value => (key, value))
      key = if key ∈ keys then read key else none := by
  induction keys with
  | nil => rfl
  | cons first keys induction =>
      rw [List.filterMap_cons]
      cases found : read first with
      | none =>
          refine induction.trans ?_
          by_cases same : key = first
          · subst same
            simp [found]
          · simp [same]
      | some value =>
          refine (Value.get?_cons first value _ key).trans ?_
          rw [induction]
          by_cases same : key = first
          · subst same
            by_cases later : key ∈ keys <;> simp [found, later]
          · simp [same, Ne.symm same]

theorem lookup_pick {keys : List String} {key : String} (member : key ∈ keys) :
    lookup (pick items keys) key = lookup items key := by
  rw [lookup, pick, get?_filterMap, if_pos member, lookup]

theorem lookup_map {keys : List String} {key : String} (member : key ∈ keys) :
    lookup (keys.map fun key => (key, lookup items key)) key =
      lookup items key := by
  have listed := get?_filterMap (fun key => some (lookup items key)) keys key
  rw [if_pos member] at listed
  simp only [Option.map_some, List.filterMap_eq_map'] at listed
  rw [lookup, listed, Option.getD_some]

theorem filteredReceipt_eq_ok {filtered : List (String × Value)} :
    filteredReceipt (.dict items) = .ok filtered ↔
      filtered = pick items receiptFields ∧
        ∀ field ∈ ["provider", "capability_id", "provider_id"],
          isName (lookup filtered field) = true := by
  simp only [filteredReceipt, requireNamed, bind_eq_ok, require_eq_ok,
    pure_eq_ok, List.forall_mem_cons]
  constructor
  · rintro ⟨_, provider, _, capability, _, named, rfl⟩
    exact ⟨rfl, provider, capability, named, by simp⟩
  · rintro ⟨rfl, provider, capability, named, _⟩
    exact ⟨(), provider, (), capability, (), named, rfl⟩

theorem filteredReceipt_again {receipt : Value}
    {filtered : List (String × Value)}
    (accepted : filteredReceipt receipt = .ok filtered) :
    filteredReceipt (.dict filtered) = .ok (pick filtered receiptFields) := by
  cases receipt with
  | dict =>
      obtain ⟨_, named⟩ := filteredReceipt_eq_ok.mp accepted
      refine filteredReceipt_eq_ok.mpr ⟨rfl, fun field member => ?_⟩
      have kept : field ∈ receiptFields := by
        revert field
        decide
      rw [lookup_pick kept]
      exact named field member
  | _ => cases accepted

theorem canonicalBytes_append (items : List (String × Value)) (value : Value) :
    canonicalBytes (items ++ [("signature", value)]) = canonicalBytes items := by
  unfold canonicalBytes
  congr 2
  refine List.map_congr_left fun key member => ?_
  have other : "signature" ≠ key := by
    rintro rfl
    revert member
    decide
  rw [lookup, lookup, Value.get?_append, Value.get?_cons, if_neg other]
  rfl

theorem materialHashes_text {capabilityId payload : Value}
    {hashes : List (String × Value)}
    (hashed : materialHashes scheme capabilityId payload = .ok hashes) :
    ∀ item ∈ hashes, ∃ text, item.2 = .str text := by
  intro item member
  obtain ⟨_, _, read⟩ := (mem_mapM_iff hashed).mp member
  obtain ⟨text, _, same⟩ := bind_eq_ok.mp read
  cases same
  exact ⟨text, rfl⟩

theorem create_ok {attestor : ExecutionAttestor Key}
    {execution : AttestedExecution}
    {attestation : List (String × Value)}
    (created : attestor.create scheme execution = .ok attestation) :
    ∃ identity receipt executedAt hashes message,
      filteredReceipt execution.providerReceipt = .ok receipt ∧
      (∀ item ∈ hashes, ∃ text, item.2 = .str text) ∧
      canonicalBytes attestation = some message ∧
      attestation =
        attestor.attested execution identity receipt executedAt hashes ++
          [("signature", .str (scheme.sign attestor.signingKey message))] := by
  obtain ⟨_, _, created⟩ := bind_eq_ok.mp created
  obtain ⟨_, _, created⟩ := bind_eq_ok.mp created
  obtain ⟨receipt, filtered, created⟩ := bind_eq_ok.mp created
  obtain ⟨_, _, created⟩ := bind_eq_ok.mp created
  split at created
  · rename_i executedAt _
    obtain ⟨identity, _, created⟩ := bind_eq_ok.mp created
    obtain ⟨hashes, hashed, created⟩ := bind_eq_ok.mp created
    dsimp only at created
    split at created
    · rename_i message serialized
      cases created
      exact ⟨identity, receipt, executedAt, hashes, message, filtered,
        materialHashes_text hashed, (canonicalBytes_append ..).trans serialized,
        rfl⟩
    · cases created
  · cases created

theorem verify_created {attestor : ExecutionAttestor Key}
    {execution : AttestedExecution} {attestation : List (String × Value)}
    {brokerKeys : Value → Option Value}
    (named : scheme.publicKey attestor.signingKey ≠ "")
    (verifies : ∀ message, scheme.verify (scheme.publicKey attestor.signingKey)
      message (scheme.sign attestor.signingKey message) = true)
    (created : attestor.create scheme execution = .ok attestation)
    (known : brokerKeys (.str attestor.brokerKeyId) =
      some (.str (scheme.publicKey attestor.signingKey))) :
    verifyExecutionAttestation scheme brokerKeys (.dict attestation) =
      .ok () := by
  obtain ⟨_, receipt, _, hashes, message, filtered, _, bytes,
    same⟩ := create_ok created
  have shape : (attestation.all (fun item => requiredFields.contains item.1) &&
      requiredFields.all fun field => (get? attestation field).isSome) =
        true := by
    rw [same]
    rfl
  have keyId : lookup attestation "broker_key_id" =
      .str attestor.brokerKeyId := by
    rw [same]
    rfl
  have given : lookup attestation "provider_receipt" = .dict receipt := by
    rw [same]
    rfl
  have hashed : lookup attestation "material_hashes" = .dict hashes := by
    rw [same]
    rfl
  have signed : lookup attestation "signature" =
      .str (scheme.sign attestor.signingKey message) := by
    rw [same]
    rfl
  refine bind_eq_ok.mpr ⟨(), require_eq_ok.mpr shape, ?_⟩
  simp [keyId, known, given, hashed, signed, bytes,
    filteredReceipt_again filtered, named, verifies, require, bind, Except.bind]

theorem verify_ok {attestation : Value} {brokerKeys : Value → Option Value}
    (accepted : verifyExecutionAttestation scheme brokerKeys attestation =
      .ok ()) :
    ∃ items publicKey message signature, attestation = .dict items ∧
      (∀ item ∈ items, item.1 ∈ requiredFields) ∧
      lookup items "signature" = .str signature ∧
      canonicalBytes items = some message ∧
      brokerKeys (lookup items "broker_key_id") = some (.str publicKey) ∧
      scheme.verify publicKey message signature = true := by
  cases attestation with
  | dict items =>
      obtain ⟨_, shape, accepted⟩ := bind_eq_ok.mp accepted
      rw [require_eq_ok, Bool.and_eq_true, List.all_eq_true] at shape
      split at accepted
      · rename_i known
        split at accepted
        · obtain ⟨_, _, accepted⟩ := bind_eq_ok.mp accepted
          obtain ⟨_, _, accepted⟩ := bind_eq_ok.mp accepted
          split at accepted
          · split at accepted
            · rename_i signed
              split at accepted
              · rename_i serialized
                exact ⟨items, _, _, _, rfl,
                  fun item member => by simpa using shape.1 item member, signed,
                  serialized, known, require_eq_ok.mp accepted⟩
              · cases accepted
            · cases accepted
          · cases accepted
        · cases accepted
      · cases accepted
  | _ => cases accepted

section Genuine

variable {read : String → Option ℚ}

theorem sortKeys_of_canonicalBytes {other : List (String × Value)}
    (genuine : AllPairs (Value.GenuineLeaf read) items)
    (alike : AllPairs (Value.GenuineLeaf read) other) {message : String}
    (bytes : canonicalBytes items = some message)
    (same : canonicalBytes other = some message) {field : String}
    (signed : field ∈ signedFields) :
    (lookup items field).sortKeys = (lookup other field).sortKeys := by
  have whole : ∀ {items : List (String × Value)},
      AllPairs (Value.GenuineLeaf read) items → (Value.dict
        (signedFields.map fun key => (key, lookup items key))).Genuine read := by
    intro items genuine
    refine Value.allPairs_iff.mpr fun item member => ?_
    obtain ⟨key, _, rfl⟩ := List.mem_map.mp member
    exact Value.all_lookup trivial genuine key
  have equal := Value.lookup_of_sortKeys_eq
    (Value.sortKeys_of_dumps_eq (whole genuine) (whole alike) bytes same) field
  rwa [lookup_map signed, lookup_map signed] at equal

def AttestedExecution.Genuine (read : String → Option ℚ)
    (execution : AttestedExecution) :
    Prop :=
  ∀ value ∈ [execution.taskId, execution.userPrincipalId,
      execution.agentPrincipalId, execution.credentialId,
      execution.capabilityId, execution.approvedPayloadHash,
      execution.providerReceipt, execution.idempotencyKey, execution.outcome],
    value.Genuine read

theorem pick_genuine (genuine : AllPairs (Value.GenuineLeaf read) items)
    (keys : List String) :
    AllPairs (Value.GenuineLeaf read) (pick items keys) := by
  refine Value.allPairs_iff.mpr fun item member => ?_
  obtain ⟨key, _, found⟩ := List.mem_filterMap.mp member
  obtain ⟨_, present, rfl⟩ := Option.map_eq_some_iff.mp found
  have listed := Value.all_lookup trivial genuine key
  rwa [lookup, present] at listed

theorem filteredReceipt_genuine {receipt : Value}
    {filtered : List (String × Value)} (genuine : receipt.Genuine read)
    (accepted : filteredReceipt receipt = .ok filtered) :
    AllPairs (Value.GenuineLeaf read) filtered := by
  cases receipt with
  | dict =>
      obtain ⟨rfl, _⟩ := filteredReceipt_eq_ok.mp accepted
      exact pick_genuine genuine _
  | _ => cases accepted

theorem create_genuine {attestor : ExecutionAttestor Key}
    {execution : AttestedExecution} {attestation : List (String × Value)}
    (genuine : execution.Genuine read)
    (created : attestor.create scheme execution = .ok attestation) :
    AllPairs (Value.GenuineLeaf read) attestation := by
  obtain ⟨_, _, _, hashes, _, filtered, texts, _,
    rfl⟩ := create_ok created
  have given := filteredReceipt_genuine (genuine _ (by simp)) filtered
  have hashed : AllPairs (Value.GenuineLeaf read) hashes := by
    refine Value.allPairs_iff.mpr fun item member => ?_
    obtain ⟨_, same⟩ := texts item member
    rw [same]
    trivial
  exact ⟨trivial, genuine _ (by simp), genuine _ (by simp),
    genuine _ (by simp), genuine _ (by simp), genuine _ (by simp),
    genuine _ (by simp), given, genuine _ (by simp), trivial,
    genuine _ (by simp), trivial, hashed, trivial, trivial⟩

/-- What the signature verifies for under the key, the holder of the key signed
as the attestation of an execution. -/
def Unforged (scheme : Scheme Key)
    (issued : List (ExecutionAttestor Key × AttestedExecution))
    (publicKey signature : String) :
    Prop :=
  ∀ message, scheme.verify publicKey message signature = true →
    ∃ attestor execution attestation, (attestor, execution) ∈ issued ∧
      attestor.create scheme execution = .ok attestation ∧
      scheme.publicKey attestor.signingKey = publicKey ∧
      canonicalBytes attestation = some message

theorem attestations_bind_every_field :
    (∀ (attestor : ExecutionAttestor Key) execution attestation brokerKeys,
      scheme.publicKey attestor.signingKey ≠ "" →
      (∀ message, scheme.verify (scheme.publicKey attestor.signingKey)
        message (scheme.sign attestor.signingKey message) = true) →
      attestor.create scheme execution = .ok attestation →
      brokerKeys (.str attestor.brokerKeyId) =
        some (.str (scheme.publicKey attestor.signingKey)) →
      verifyExecutionAttestation scheme brokerKeys (.dict attestation) =
        .ok ()) ∧
    (∀ issued items brokerKeys,
      (∀ attestor execution, (attestor, execution) ∈ issued →
        execution.Genuine read) →
      (Value.dict items).Genuine read →
      (∀ publicKey signature,
        brokerKeys (lookup items "broker_key_id") = some (.str publicKey) →
        lookup items "signature" = .str signature →
        Unforged scheme issued publicKey signature) →
      verifyExecutionAttestation scheme brokerKeys (.dict items) = .ok () →
      ∃ attestor execution attestation, (attestor, execution) ∈ issued ∧
        attestor.create scheme execution = .ok attestation ∧
        brokerKeys (.str attestor.brokerKeyId) =
          some (.str (scheme.publicKey attestor.signingKey)) ∧
        (∀ item ∈ items, item.1 ∈ requiredFields) ∧
        ∀ field ∈ signedFields,
          (lookup items field).sortKeys = (lookup attestation field).sortKeys) ∧
    ∀ first second : Value, first.Genuine read → second.Genuine read →
      ∀ text, first.dumps = some text → second.dumps = some text →
        first.sortKeys = second.sortKeys := by
  refine ⟨fun _ _ _ _ named verifies created known =>
    verify_created named verifies created known, ?_,
    fun _ _ genuine alike _ dumped again =>
      Value.sortKeys_of_dumps_eq genuine alike dumped again⟩
  intro issued items brokerKeys executions genuine unforged accepted
  obtain ⟨_, publicKey, message, signature, same, shape, present, bytes, known,
    verified⟩ := verify_ok accepted
  cases same
  obtain ⟨attestor, execution, attestation, member, created, holds, signed⟩ :=
    unforged publicKey signature known present message verified
  have equal : ∀ field ∈ signedFields,
      (lookup items field).sortKeys = (lookup attestation field).sortKeys :=
    fun field => sortKeys_of_canonicalBytes genuine
      (create_genuine (executions _ _ member) created) bytes signed
  refine ⟨attestor, execution, attestation, member, created, ?_, shape, equal⟩
  have named := equal "broker_key_id" (by decide)
  obtain ⟨_, _, _, _, _, _, _, _, made⟩ := create_ok created
  have keyId : lookup attestation "broker_key_id" =
      .str attestor.brokerKeyId := by
    rw [made]
    rfl
  rw [keyId, Value.sortKeys, Value.sortKeys_eq_str_iff] at named
  rw [← named, holds]
  exact known

end Genuine

end Scheme

def sampleScheme : Scheme Unit where
  sha256 := id
  publicKey _ := "key"
  sign _ := id
  verify publicKey message signature :=
    publicKey == "key" && message == signature

def sampleAttestor : ExecutionAttestor Unit := ⟨"broker", (), by decide⟩

def sampleExecution : AttestedExecution where
  taskId := .str "task"
  userPrincipalId := .str "user"
  agentPrincipalId := .str "agent"
  credentialId := .str "credential"
  capabilityId := .str "gmail.send"
  approvedPayloadHash := .str (String.ofList (List.replicate 64 'a'))
  providerReceipt := .dict [("provider", .str "google"),
    ("capability_id", .str "gmail.send"), ("provider_id", .str "1")]
  idempotencyKey := .str "once"
  outcome := .str "completed"
  approvedPayload := .dict [("raw", .str "hello")]
  executedAt := some 0

def sampleKeys (keyId : Value) : Option Value :=
  if keyId.isText "broker" then some (.str "key") else some .none

theorem attestations_bind_every_field_sample :
    ∃ attestation,
      sampleAttestor.create sampleScheme sampleExecution = .ok attestation ∧
      verifyExecutionAttestation sampleScheme sampleKeys (.dict attestation) =
        .ok () ∧
      ∃ attestor execution produced,
        (attestor, execution) ∈ [(sampleAttestor, sampleExecution)] ∧
        attestor.create sampleScheme execution = .ok produced ∧
        sampleKeys (.str attestor.brokerKeyId) =
          some (.str (sampleScheme.publicKey attestor.signingKey)) ∧
        (∀ item ∈ attestation, item.1 ∈ requiredFields) ∧
        ∀ field ∈ signedFields, (lookup attestation field).sortKeys =
          (lookup produced field).sortKeys := by
  have ends : (sampleAttestor.create sampleScheme
      sampleExecution).toOption.isSome = true := by decide +kernel
  cases created : sampleAttestor.create sampleScheme sampleExecution with
  | error =>
      rw [created] at ends
      cases ends
  | ok attestation =>
      have genuine : sampleExecution.Genuine fun _ => none := by
        simp [AttestedExecution.Genuine, sampleExecution, Value.Genuine,
          Value.All,
          AllPairs, Value.GenuineLeaf]
      obtain ⟨accepts, binds, _⟩ :=
        @attestations_bind_every_field _ sampleScheme fun _ => none
      have accepted := accepts sampleAttestor sampleExecution attestation
        sampleKeys (by decide) (fun message => by simp [sampleScheme]) created
        rfl
      obtain ⟨_, _, _, _, message, _, _, bytes, same⟩ := create_ok created
      refine ⟨attestation, rfl, accepted, ?_⟩
      refine binds _ attestation _ (fun _ _ member => ?_)
        (create_genuine genuine created) ?_ accepted
      · cases List.mem_singleton.mp member
        exact genuine
      · intro publicKey signature _ present signed verifies
        have own : lookup attestation "signature" = .str message := by
          rw [same]
          rfl
        cases own.symm.trans present
        simp only [sampleScheme, Bool.and_eq_true, beq_iff_eq] at verifies
        exact ⟨_, _, _, List.mem_singleton.mpr rfl, created,
          verifies.1.symm, verifies.2 ▸ bytes⟩

end AcpTask.Orchestrator
