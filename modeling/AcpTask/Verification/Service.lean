import AcpTask.Library.Run
import AcpTask.Verification.Terraform

namespace AcpTask.Verification

open Data Library
open Data.Value (get? lookup)

/-! The verification of evidence, and the reputation that it changes. -/

inductive SchemaName where
  | evidence
  | session
  | principal

inductive Verdict where
  | verified
  | rejected
  deriving DecidableEq

abbrev Bytes := List UInt8
abbrev Items := List (String × Value)

structure Verifier where
  library : StandardLibrary
  /-- `_schema_error` of the schema's validator. -/
  schemaError : SchemaName → Value → Option String
  /-- `datetime.fromisoformat(text)`, in UTC where no zone is named. -/
  fromIsoFormat : String → Option Int
  /-- `base64.b64decode(text, validate=strict)`. -/
  decode : Bool → Value → Option Bytes
  /-- `json.dumps(value, ensure_ascii=ascii, …).encode("utf-8")`. -/
  encode : Bool → Value → Option Bytes
  /-- `VerifyKey(key).verify(message, signature)`. -/
  signs : Bytes → Bytes → Bytes → Bool
  /-- `broker_keys.get(key_id)`. -/
  brokerKeys : Value → Value
  /-- There is a receipt verifier for the provider. -/
  verifiesReceipts : Value → Bool
  /-- The database stores the text. -/
  storesText : String → Bool
  verifierPrincipalId : String

structure VerificationResult where
  resultId : Nat
  evidenceId : String
  principalId : String
  verdict : Verdict
  reasoning : Value
  verifiedAt : Int

structure ReputationRecord where
  tasksVerified : Nat := 0
  tasksRejected : Nat := 0

structure PortfolioEntry where
  subjectPrincipalId : String
  capabilityId : String
  evidenceId : String
  verifiedAt : Int

structure Issue where
  principalId : String
  capabilityId : String
  evidenceId : String
  deriving DecidableEq

structure Service where
  results : String → Option VerificationResult
  reputation : String → String → ReputationRecord
  portfolio : List PortfolioEntry
  revoked : List String
  /-- How many results have been made. -/
  made : Nat
  /-- What was issued, newest first. -/
  issued : List Issue

structure ReceiptCheck where
  verdict : Value
  reasoning : Value

/-- A request, the time it is served at, and what a receipt verifier answers
to it, if it does not raise. -/
structure Submission where
  payload : Value
  now : Int
  check : Option ReceiptCheck

inductive Reply where
  /-- 403, 409 or 422. -/
  | refused (status : Nat) (error : String)
  | unverified (reasoning : Value)
  | issued (result : VerificationResult)
  /-- An exception. -/
  | raised

inductive Halt where
  | refused (status : Nat) (error : String)
  /-- The submitter of the evidence is revoked. -/
  | revokedKey (evidenceId : String)
  | unverified (reasoning : Value)
  | raised

structure Intake where
  principalId : String
  capabilityId : String
  evidenceId : String
  verdict : Verdict
  reasoning : Value
  execution : Bool

section Checks

variable (verifier : Verifier) (service : Service)

/-- `store.is_revoked(*values)`. -/
def isRevoked : List Value → Except Halt Bool
  | [] => .ok false
  | value :: values =>
      match value with
      | .none => isRevoked values
      | .str text =>
          if service.revoked.contains text then .ok true
          else isRevoked values
      | other => if other.hashable then isRevoked values else .error .raised

def textOf (items : Items) (key : String) : Except Halt String :=
  match lookup items key with
  | .str text => .ok text
  | _ => .error .raised

def checkSchema (schema : SchemaName) (items : Items)
    (label : String) : Except Halt Unit :=
  match verifier.schemaError schema (.dict items) with
  | some message => .error (.refused 422 (label ++ message))
  | none => .ok ()

def canonicalSessionClaims (session : Items) : Option Bytes :=
  verifier.encode true (.dict [
    ("session_id", lookup session "session_id"),
    ("principal_id", lookup session "principal_id"),
    ("expires_at", lookup session "expires_at")])

def verifySessionSignature (session principal : Items) :
    Except String Unit :=
  match verifier.decode true (lookup principal "public_key"),
      verifier.decode true (lookup session "principal_signature"),
      canonicalSessionClaims verifier session with
  | some publicKey, some signature, some claims =>
      if publicKey.length ≠ 32 then .error "public key is not 32 bytes"
      else if signature.length ≠ 64 then .error "signature is not 64 bytes"
      else if verifier.signs publicKey claims signature then .ok ()
      else .error "principal_signature does not verify against public_key"
  | _, _, _ => .error "malformed key or signature encoding"

def parseRfc3339 (value : Value) : Option Int :=
  match value with
  | .str text => verifier.fromIsoFormat (String.ofList
      (text.toList.flatMap fun character =>
        if character = 'Z' then "+00:00".toList else [character]))
  | _ => none

def terraformCapabilityId : String := "terraform.generate"

def decideVerdict (evidence : Items) (capabilityId : String) :
    Verdict × String :=
  if !(lookup evidence "schema_valid").truthy then
    (.rejected, "evidence reports schema_valid=false")
  else if !(lookup evidence "tests_passed").truthy then
    (.rejected, "evidence reports tests_passed=false")
  else if capabilityId = terraformCapabilityId then
    match ((lookup evidence "extensions").orEmpty.item?
        "terraform_hcl").getD .none with
    | .none => (.rejected, "capability " ++ terraformCapabilityId ++
        " requires extensions.terraform_hcl")
    | hcl =>
        match validateTerraformSyntax verifier.library hcl with
        | .error reason =>
            (.rejected, "terraform syntax check failed: " ++ reason)
        | .ok () => (.verified,
            "schema_valid and tests_passed asserted; " ++
              "terraform syntax check passed")
  else (.verified, "schema_valid and tests_passed asserted; no " ++
    "task-specific check registered for capability " ++ capabilityId)

def objectUnder (payload : Items) (name : String) : Except Halt Items :=
  match lookup payload name with
  | .dict items => .ok items
  | _ => .error (.refused 422 ("missing or non-object '" ++ name ++ "'"))

def screenEvidence (payload : Items) (now : Int) : Except Halt Intake := do
  let evidence ← objectUnder payload "evidence"
  let session ← objectUnder payload "session"
  let principal ← objectUnder payload "principal"
  let revoked ← isRevoked service [lookup principal "principal_id",
    lookup principal "public_key", lookup session "principal_id"]
  require (!revoked) (.revokedKey (verifier.library.str
    ((lookup evidence "evidence_id").orElse (.str "unknown"))))
  checkSchema verifier .principal principal "invalid principal: "
  checkSchema verifier .session session "invalid session: "
  require (lookup session "principal_id" == lookup principal "principal_id")
    (.refused 422 "session principal_id does not match principal")
  let some expiresAt := parseRfc3339 verifier (lookup session "expires_at")
    | .error (.refused 422 "invalid session: unparseable expires_at")
  require (decide (now < expiresAt)) (.refused 422 "invalid session: expired")
  (verifySessionSignature verifier session principal).mapError fun reason =>
    Halt.refused 422 ("invalid session link: " ++ reason)
  checkSchema verifier .evidence evidence "invalid evidence: "
  require (lookup evidence "session_id" == lookup session "session_id")
    (.refused 422 "evidence session_id does not match session")
  let principalId ← textOf principal "principal_id"
  let capabilityId ← textOf evidence "capability_id"
  let evidenceId ← textOf evidence "evidence_id"
  let (verdict, reasoning) := decideVerdict verifier evidence capabilityId
  return {
    principalId, capabilityId, evidenceId, verdict
    reasoning := .str reasoning
    execution := false }

def requiredFields : List String :=
  ["attestation_id", "task_id", "user_principal_id", "agent_principal_id",
    "credential_id", "capability_id", "approved_payload_hash",
    "provider_receipt", "idempotency_key", "executed_at", "outcome",
    "broker_key_id", "material_hashes", "signature"]

/-- `_filtered_receipt` raises nothing. -/
def filtersReceipt (receipt : Value) : Bool :=
  match receipt with
  | .dict items => ["provider", "capability_id", "provider_id"].all
      fun field => match lookup items field with
        | .str text => text != ""
        | _ => false
  | _ => false

/-- `verify_execution_attestation` raises nothing. -/
def verifyExecutionAttestation (attestation : Items) : Bool :=
  let shaped := requiredFields.all (fun field =>
      (get? attestation field).isSome) &&
    attestation.all fun item => requiredFields.contains item.1
  let message := verifier.encode false (.dict (attestation.filter
    fun item => item.1 != "signature"))
  match verifier.brokerKeys (lookup attestation "broker_key_id") with
  | .str publicKey => shaped && publicKey != "" &&
      filtersReceipt (lookup attestation "provider_receipt") &&
      (match lookup attestation "material_hashes" with
        | .dict _ => true
        | _ => false) &&
      (match verifier.decode false (.str publicKey),
          verifier.decode true (lookup attestation "signature"), message with
        | some key, some signature, some message =>
            verifier.signs key message signature
        | _, _, _ => false)
  | _ => false

def screenExecution (evidence : Items) (check : Option ReceiptCheck) :
    Except Halt Intake := do
  checkSchema verifier .evidence evidence "invalid evidence: "
  let .dict attestation := lookup evidence "execution_attestation"
    | .error .raised
  require (verifyExecutionAttestation verifier attestation)
    (.refused 422 "invalid broker execution attestation")
  let revoked ← isRevoked service [lookup attestation "agent_principal_id",
    lookup attestation "user_principal_id",
    lookup attestation "broker_key_id"]
  require (!revoked) (.refused 403 "revoked execution principal or broker key")
  let evidenceId ← textOf evidence "evidence_id"
  require (evidenceId == (← textOf attestation "attestation_id") &&
      lookup evidence "capability_id" == lookup attestation "capability_id" &&
      lookup attestation "outcome" == .str "succeeded")
    (.refused 422 "evidence does not match execution attestation")
  require (service.results evidenceId).isNone
    (.refused 409 "execution attestation was already submitted")
  let principalId ← textOf attestation "agent_principal_id"
  let capabilityId ← textOf attestation "capability_id"
  let provider := ((lookup attestation "provider_receipt").item?
    "provider").getD .none
  require (verifier.verifiesReceipts provider) (.unverified (.str
    ("no receipt verifier is configured for " ++
      verifier.library.str provider)))
  let some check := check | .error .raised
  let reasoning := check.reasoning.orElse (.str "receipt verification failed")
  let intake verdict : Intake :=
    { principalId, capabilityId, evidenceId, verdict, reasoning
      execution := true }
  match check.verdict with
  | .str "verified" => return intake .verified
  | .str "rejected" => return intake .rejected
  | .str "unverified" => .error (.unverified reasoning)
  | _ => .error (.unverified (.str
      "receipt verifier returned no authoritative verdict"))

def screen (submission : Submission) : Except Halt Intake :=
  match submission.payload with
  | .dict payload =>
      match lookup payload "evidence" with
      | .dict evidence =>
          if (get? evidence "execution_attestation").isSome then
            screenExecution verifier service evidence submission.check
          else screenEvidence verifier service payload submission.now
      | _ => screenEvidence verifier service payload submission.now
  | _ => .error (.refused 422 "request body must be a JSON object")

end Checks

namespace Service

/-- `_make_result`, and `store.put_result`. -/
def putResult (service : Service) (verifier : Verifier) (evidenceId : String)
    (verdict : Verdict) (reasoning : Value) (now : Int) :
    VerificationResult × Service :=
  let result : VerificationResult := {
    resultId := service.made
    evidenceId
    principalId := verifier.verifierPrincipalId
    verdict
    reasoning
    verifiedAt := now }
  (result, { service with
    results := Function.update service.results evidenceId (some result)
    made := service.made + 1 })

/-- The greatest `integer`. -/
def maxInteger : Nat := 2147483647

def counted (record : ReputationRecord) (verdict : Verdict) :
    ReputationRecord :=
  match verdict with
  | .verified => { record with tasksVerified := record.tasksVerified + 1 }
  | .rejected => { record with tasksRejected := record.tasksRejected + 1 }

def records (service : Service) (verifier : Verifier)
    (principalId capabilityId : String) (verdict : Verdict) : Bool :=
  let record := counted (service.reputation principalId capabilityId) verdict
  verifier.storesText principalId && verifier.storesText capabilityId &&
    decide (record.tasksVerified ≤ maxInteger) &&
    decide (record.tasksRejected ≤ maxInteger)

/-- `store.record_verdict`, where the database takes it. -/
def recordVerdict (service : Service) (principalId capabilityId : String)
    (verdict : Verdict) : Service :=
  { service with
    reputation := Function.update service.reputation principalId
      (Function.update (service.reputation principalId) capabilityId
        (counted (service.reputation principalId capabilityId) verdict)) }

/-- `store.add_portfolio_entry`; an entry for the evidence stays. -/
def addPortfolioEntry (service : Service) (entry : PortfolioEntry) : Service :=
  if service.portfolio.any fun row => row.evidenceId == entry.evidenceId then
    service
  else { service with portfolio := service.portfolio ++ [entry] }

end Service

section Process

variable (verifier : Verifier) (service : Service)

def issue (intake : Intake) (now : Int) : Reply × Service :=
  let (result, put) := service.putResult verifier intake.evidenceId
    intake.verdict intake.reasoning now
  let stored := { put with
    issued := ⟨intake.principalId, intake.capabilityId, intake.evidenceId⟩ ::
      put.issued }
  if intake.execution && intake.verdict != .verified then
    (.issued result, stored)
  else if stored.records verifier intake.principalId intake.capabilityId
      intake.verdict then
    let recorded := stored.recordVerdict intake.principalId
      intake.capabilityId intake.verdict
    if intake.verdict = .verified then
      if verifier.storesText intake.evidenceId then
        (.issued result, recorded.addPortfolioEntry {
          subjectPrincipalId := intake.principalId
          capabilityId := intake.capabilityId
          evidenceId := intake.evidenceId
          verifiedAt := now })
      else (.raised, recorded)
    else (.issued result, recorded)
  else (.raised, stored)

def revokedReasoning : String :=
  "revoked key: the submitting Principal's key or id is on the " ++
    "revocation list"

def processEvidence (submission : Submission) : Reply × Service :=
  match screen verifier service submission with
  | .ok intake => issue verifier service intake submission.now
  | .error (.refused status error) => (.refused status error, service)
  | .error (.revokedKey evidenceId) =>
      (.refused 403 "revoked key", (service.putResult verifier evidenceId
        .rejected (.str revokedReasoning) submission.now).2)
  | .error (.unverified reasoning) => (.unverified reasoning, service)
  | .error .raised => (.raised, service)

end Process

inductive ServiceAction where
  | submit (submission : Submission)
  | revoke (entry : String)

def serviceStep (verifier : Verifier) (service : Service) :
    ServiceAction → Service
  | .submit submission => (processEvidence verifier service submission).2
  | .revoke entry => { service with
      revoked := if service.revoked.contains entry then service.revoked
        else service.revoked ++ [entry] }

end AcpTask.Verification
