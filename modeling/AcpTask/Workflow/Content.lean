import AcpTask.Data.Json
import AcpTask.Workflow.Calls

namespace AcpTask.Workflow

open Data Library

/-! The content columns of a step under content encryption.  A row holds in
`input` and `output` the JSON that its columns hold. -/

structure ContentContext where
  tenantId : String
  workflowRevisionId : String
  stepId : String
  field : String

def ContentContext.value (context : ContentContext) : Value :=
  .dict [("purpose", .str "workflow-content"),
    ("tenant_id", .str context.tenantId),
    ("workflow_revision_id", .str context.workflowRevisionId),
    ("step_id", .str context.stepId), ("field", .str context.field)]

def Step.contentContext (row : Step) (field : String) : ContentContext :=
  ⟨row.tenantId, row.workflowRevisionId, row.stepId, field⟩

structure Ciphertext where
  ciphertext : String
  nonce : String
  wrappedDataKey : String
  kmsKeyId : String
  kmsKeyVersion : String

/-- `ManagedOAuthAuthError`, or what KMS raised. -/
inductive ContentError where
  | authError (message : String)
  | kmsError (message : String)

/-- KMS, SecretBox and base64.  A seed stands for the data key and the nonce
that are drawn. -/
structure ContentCrypto where
  encrypt : Nat → Value → ContentContext → Except ContentError Ciphertext
  decrypt : Ciphertext → ContentContext → Except ContentError Value
  decodes : String → Bool

namespace ContentCrypto

variable (crypto : ContentCrypto)

def envelope (context : ContentContext) (sealed : Ciphertext) :
    List (String × Value) :=
  [("version", .int 1), ("algorithm", .str "XSalsa20-Poly1305"),
    ("encryption_context", context.value),
    ("ciphertext", .str sealed.ciphertext), ("nonce", .str sealed.nonce),
    ("wrapped_data_key", .str sealed.wrappedDataKey),
    ("kms_key_id", .str sealed.kmsKeyId),
    ("kms_key_version", .str sealed.kmsKeyVersion)]

def sealValue (seed : Nat) (value : Value) (context : ContentContext) :
    Except ContentError Value := do
  let sealed ← crypto.encrypt seed value context
  pure (.dict (envelope context sealed))

def envelopeFields : List String :=
  ["encryption_context", "ciphertext", "nonce", "wrapped_data_key",
    "kms_key_id", "kms_key_version"]

/-- `decode_field` takes a text. -/
def decodesField (value : Value) : Bool := value.asStr?.any crypto.decodes

/-- `validate_managed_oauth_envelope`. -/
def validate (items : List (String × Value)) : Except ContentError Unit := do
  require ((Value.lookup items "version").equals (.int 1))
    (.authError "unsupported managed OAuth envelope")
  envelopeFields.forM fun field =>
    require (Value.lookup items field).truthy
      (.authError ("managed OAuth envelope missing " ++ field))
  require ((Value.lookup items "encryption_context").item? "").isSome
    (.authError "managed OAuth encryption context must be an object")
  ["ciphertext", "nonce", "wrapped_data_key"].forM fun field =>
    require (crypto.decodesField (Value.lookup items field))
      (.authError ("managed OAuth envelope has invalid " ++ field))

def ciphertextOf (items : List (String × Value)) : Option Ciphertext := do
  let ciphertext ← (Value.lookup items "ciphertext").asStr?
  let nonce ← (Value.lookup items "nonce").asStr?
  let wrappedDataKey ← (Value.lookup items "wrapped_data_key").asStr?
  let kmsKeyId ← (Value.lookup items "kms_key_id").asStr?
  let kmsKeyVersion ← (Value.lookup items "kms_key_version").asStr?
  pure ⟨ciphertext, nonce, wrappedDataKey, kmsKeyId, kmsKeyVersion⟩

/-- `WorkflowContentCrypto.open`. -/
def openEnvelope (envelope : Value) (context : ContentContext) :
    Except ContentError Value :=
  match envelope with
  | .dict items => do
      crypto.validate items
      require (context.value.equals (Value.lookup items "encryption_context"))
        (.authError "managed OAuth encryption context does not match")
      match ciphertextOf items with
      | some sealed => crypto.decrypt sealed context
      | none => .error (.kmsError "invalid key reference")
  | _ => .error (.authError "unsupported managed OAuth envelope")

/-- What is sealed opens under its own context, as `json` writes it. -/
structure Lawful : Prop where
  decrypts : ∀ {seed value context sealed},
    crypto.encrypt seed value context = .ok sealed →
      crypto.decrypt sealed context = .ok value.sortKeys
  decodes : ∀ {seed value context sealed},
    crypto.encrypt seed value context = .ok sealed →
      crypto.decodes sealed.ciphertext = true ∧
      crypto.decodes sealed.nonce = true ∧
      crypto.decodes sealed.wrappedDataKey = true
  present : ∀ {seed value context sealed},
    crypto.encrypt seed value context = .ok sealed →
      sealed.ciphertext ≠ "" ∧ sealed.nonce ≠ "" ∧
      sealed.wrappedDataKey ≠ "" ∧ sealed.kmsKeyId ≠ "" ∧
      sealed.kmsKeyVersion ≠ ""

variable {crypto}

theorem openEnvelope_empty (context : ContentContext) :
    crypto.openEnvelope (.dict []) context =
      .error (.authError "unsupported managed OAuth envelope") := by
  simp [openEnvelope, validate, Value.lookup, Value.get?, Value.equals,
    Value.number?, require, bind, Except.bind]

theorem equals_contentContext (context : ContentContext) :
    context.value.equals context.value = true := by
  simp [ContentContext.value, Value.equals, Value.dictEquals, Value.number?]

variable {context : ContentContext} {value : Value}

theorem lookup_envelope {sealed : Ciphertext} {name : String}
    (found : Value.get? (envelope context sealed) name = some value) :
    Value.lookup (envelope context sealed) name = value := by
  rw [Value.lookup, found, Option.getD_some]

theorem ciphertextOf_envelope (context : ContentContext)
    (sealed : Ciphertext) :
    ciphertextOf (envelope context sealed) = some sealed := by
  rfl

theorem validate_envelope (lawful : crypto.Lawful) {seed : Nat}
    {sealed : Ciphertext}
    (encrypted : crypto.encrypt seed value context = .ok sealed) :
    crypto.validate (envelope context sealed) = .ok () := by
  obtain ⟨ciphertext, nonce, wrapped, keyId, keyVersion⟩ :=
    lawful.present encrypted
  obtain ⟨first, second, third⟩ := lawful.decodes encrypted
  have read : ∀ name value,
      Value.get? (envelope context sealed) name = some value →
        Value.lookup (envelope context sealed) name = value :=
    fun _ _ found => lookup_envelope found
  have text : ∀ written : String, written ≠ "" →
      (Value.str written).truthy = true := fun _ written => by
    simpa [Value.truthy] using written
  refine bind_eq_ok.mpr ⟨(), require_eq_ok.mpr rfl,
    bind_eq_ok.mpr ⟨(), forM_eq_ok.mpr ?_,
      bind_eq_ok.mpr ⟨(), require_eq_ok.mpr rfl, forM_eq_ok.mpr ?_⟩⟩⟩
  · simp only [envelopeFields, List.forall_mem_cons, require_eq_ok,
      read "encryption_context" _ rfl, read "ciphertext" _ rfl,
      read "nonce" _ rfl, read "wrapped_data_key" _ rfl,
      read "kms_key_id" _ rfl, read "kms_key_version" _ rfl]
    exact ⟨rfl, text _ ciphertext, text _ nonce, text _ wrapped, text _ keyId,
      text _ keyVersion, fun _ member => absurd member List.not_mem_nil⟩
  · simp only [List.forall_mem_cons, require_eq_ok, read "ciphertext" _ rfl,
      read "nonce" _ rfl, read "wrapped_data_key" _ rfl]
    exact ⟨first, second, third, fun _ member => absurd member List.not_mem_nil⟩

theorem openEnvelope_seal (lawful : crypto.Lawful) {seed : Nat} {stored : Value}
    (sealing : crypto.sealValue seed value context = .ok stored) :
    crypto.openEnvelope stored context = .ok value.sortKeys := by
  obtain ⟨sealed, encrypted, same⟩ := bind_eq_ok.mp sealing
  cases same
  simp only [openEnvelope, validate_envelope lawful encrypted,
    lookup_envelope (rfl : Value.get? (envelope context sealed)
      "encryption_context" = some context.value), equals_contentContext,
    ciphertextOf_envelope, lawful.decrypts encrypted]
  rfl

theorem seal_ne_empty {seed : Nat} {stored : Value}
    (sealing : crypto.sealValue seed value context = .ok stored) :
    stored ≠ .dict [] ∧ stored.truthy = true := by
  obtain ⟨_, -, same⟩ := bind_eq_ok.mp sealing
  cases same
  exact ⟨(fun same => by cases same), rfl⟩

end ContentCrypto

def encodeContent (crypto : Option ContentCrypto) (seed : Nat) (value : Value)
    (context : ContentContext) : Except ContentError Value :=
  match crypto with
  | some crypto => crypto.sealValue seed value context
  | none => .ok value

def RepositoryCall.encode (crypto : Option ContentCrypto)
    (seeds : String → Nat) :
    RepositoryCall → Except ContentError RepositoryCall
  | .createRevision target planGraphHash plan now contentTtlSeconds => do
      let stored ← plan.mapM fun planned => do
        let input ← encodeContent crypto (seeds planned.stepId) planned.input
          ⟨target.tenantId, target.workflowRevisionId, planned.stepId, "input"⟩
        pure { planned with input }
      pure (.createRevision target planGraphHash stored now contentTtlSeconds)
  | .persistCompletion key tenantId attempt result now missed => do
      let output ← encodeContent crypto (seeds key.2) result.output.orEmpty
        ⟨tenantId, key.1, key.2, "output"⟩
      pure (.persistCompletion key tenantId attempt { result with output } now
        missed)
  | .applyReconciliation key tenantId attempt result missed =>
      if result.executionStatus = .completed then do
        let output ← encodeContent crypto (seeds key.2)
          (result.output.getD result.receipt).orEmpty
          ⟨tenantId, key.1, key.2, "output"⟩
        pure (.applyReconciliation key tenantId attempt
          { result with output := some output } missed)
      else .ok (.applyReconciliation key tenantId attempt result missed)
  | call => .ok call

def contentStep (backend : Backend) (digests : Digests)
    (crypto : Option ContentCrypto) (store : WorkflowStore)
    (call : RepositoryCall × (String → Nat)) : WorkflowStore :=
  match call.1.encode crypto call.2 with
  | .ok stored => repositoryStep backend digests store stored
  | .error _ => store

def contentRun (backend : Backend) (digests : Digests)
    (crypto : Option ContentCrypto)
    (calls : List (RepositoryCall × (String → Nat))) : WorkflowStore :=
  run (contentStep backend digests crypto) WorkflowStore.empty calls

def isEmptyDict : Value → Bool
  | .dict items => items.isEmpty
  | _ => false

/-- `_decode_content` of SQLite knows what a purge leaves, `_pg_decode` does
not. -/
def decodeContent (backend : Backend) (crypto : Option ContentCrypto)
    (raw : Option Value) (context : ContentContext) :
    Except ContentError Value :=
  match raw, crypto with
  | none, _ => .ok (.dict [])
  | some stored, none => .ok stored
  | some stored, some crypto =>
      if decide (backend = .sqlite) && isEmptyDict stored then .ok (.dict [])
      else crypto.openEnvelope stored context

def decodeStep (backend : Backend) (crypto : Option ContentCrypto)
    (row : Step) : Except ContentError Step := do
  let input ← decodeContent backend crypto (some row.input)
    (row.contentContext "input")
  let output ← decodeContent backend crypto row.output
    (row.contentContext "output")
  pure { row with input, output := some output }

def revisionRows (backend : Backend) (store : WorkflowStore)
    (target : Target) : List Step :=
  match backend with
  | .sqlite => store.steps.rows.filter fun row =>
      row.workflowRevisionId == target.workflowRevisionId
  | .postgres => (store.steps.rows.filter fun row =>
      row.workflowRevisionId == target.workflowRevisionId &&
        row.tenantId == target.tenantId).mergeSort fun left right =>
          decide (left.stepId ≤ right.stepId)

def revisionRow (store : WorkflowStore) (target : Target) : Option Revision :=
  (store.revisions.find? target.workflowRevisionId).filter fun row =>
    row.workflowRunId == target.workflowRunId && row.tenantId == target.tenantId

def readRevision (backend : Backend) (crypto : Option ContentCrypto)
    (store : WorkflowStore) (target : Target) :
    Except ContentError (Option (Revision × List Step)) :=
  match revisionRow store target with
  | none => .ok none
  | some revision => do
      let steps ← (revisionRows backend store target).mapM
        (decodeStep backend crypto)
      pure (some (revision, steps))

end AcpTask.Workflow
