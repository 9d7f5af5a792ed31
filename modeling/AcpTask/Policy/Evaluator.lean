import Mathlib.Data.List.Sort
import AcpTask.Data.Json
import AcpTask.Data.Sets
import AcpTask.Library.Transaction

namespace AcpTask.Policy

open Data Library
open Data.Value (get? lookup)

/-! The fail-closed decision on one dynamic binding, and the hash it is known
by. -/

structure Runtime where
  /-- `hashlib.sha256(text.encode("utf-8")).hexdigest()`. -/
  sha256 : String → String
  /-- `int(text)`. -/
  int : String → Option Int
  /-- `float(text)`. -/
  float : String → Option ℚ

def Runtime.hash (runtime : Runtime) (value : Value) : Option String :=
  value.dumps.map runtime.sha256

inductive Effect where
  | read
  | write
  deriving DecidableEq

def Effect.text : Effect → String
  | .read => "read"
  | .write => "write"

inductive AuthorityProfile where
  | bot
  | user
  | enterpriseAdmin
  | account

def AuthorityProfile.text : AuthorityProfile → String
  | .bot => "bot"
  | .user => "user"
  | .enterpriseAdmin => "enterprise_admin"
  | .account => "account"

structure TrustedCapabilityDefinition where
  capabilityId : String
  version : String
  provider : String
  inputSchema : Value
  outputSchema : Value
  requiredScopes : List String
  effect : Effect
  risk : String
  retryPolicy : String
  previewFields : List String
  verifier : Option String
  authorityProfile : AuthorityProfile := .bot

def TrustedCapabilityDefinition.projection
    (definition : TrustedCapabilityDefinition) : Value :=
  .dict [
    ("capability_id", .str definition.capabilityId),
    ("version", .str definition.version),
    ("provider", .str definition.provider),
    ("input_schema", definition.inputSchema),
    ("output_schema", definition.outputSchema),
    ("required_scopes", .list
      ((definition.requiredScopes.dedup.insertionSort (· ≤ ·)).map .str)),
    ("effect", .str definition.effect.text),
    ("risk", .str definition.risk),
    ("retry_policy", .str definition.retryPolicy),
    ("preview_fields", .list (definition.previewFields.map .str)),
    ("verifier", match definition.verifier with
      | some verifier => .str verifier
      | none => .none)]

def descriptorHash (runtime : Runtime)
    (definition : TrustedCapabilityDefinition) : Option String :=
  runtime.hash definition.projection

structure PolicyEvaluator where
  definitions : List TrustedCapabilityDefinition
  rolloutVersion : String
  version : String := "policy-v3"

def PolicyEvaluator.definition? (evaluator : PolicyEvaluator)
    (capabilityId version : String) : Option TrustedCapabilityDefinition :=
  evaluator.definitions.reverse.find? fun definition =>
    definition.capabilityId == capabilityId && definition.version == version

/-- `self._definitions.get((capability_id, capability_version))`; a list or a
dict in the key raises. -/
def PolicyEvaluator.lookupDefinition (evaluator : PolicyEvaluator)
    (capabilityId version : Value) :
    Option (Option TrustedCapabilityDefinition) :=
  if capabilityId.hashable && version.hashable then
    match capabilityId, version with
    | .str capabilityId, .str version =>
        some (evaluator.definition? capabilityId version)
    | _, _ => some none
  else none

abbrev Items := List (String × Value)

def mapping : Value → Items
  | .dict items => items
  | _ => []

/-- `items.get(key, default)`. -/
def lookupOr (items : Items) (key : String) (default : Value) : Value :=
  (get? items key).getD default

/-- `left == right`; the order of dict items does not count. -/
def same (left right : Value) : Bool :=
  Value.equals left.sortKeys right.sortKeys

inductive Refusal where
  | denied (reason : String)
  | raised

/-- `if not condition: return reason`. -/
def demand (condition : Bool) (reason : String) : Except Refusal Unit :=
  require condition (.denied reason)

def computed {α : Type} : Option α → Except Refusal α
  | some value => .ok value
  | none => .error .raised

/-- `int(value)`, whose `TypeError` and `ValueError` are caught. -/
def toInt (runtime : Runtime) (reason : String) : Value → Except Refusal Int
  | .bool value => .ok (if value then 1 else 0)
  | .int value => .ok value
  | .float (.finite value _) => .ok (value.num.tdiv value.den)
  | .float (.infinity _) => .error .raised
  | .str text =>
      match runtime.int text with
      | some value => .ok value
      | none => .error (.denied reason)
  | _ => .error (.denied reason)

structure Evaluation where
  binding : Items
  snapshot : Items
  live : Items
  now : Value

namespace Evaluation

def profile (evaluation : Evaluation) : Value :=
  lookupOr evaluation.binding "authority_profile" (.str "bot")

def snapshotProfile (evaluation : Evaluation) : Value :=
  lookupOr evaluation.snapshot "authority_profile" (.str "bot")

def liveProfile (evaluation : Evaluation) : Value :=
  lookupOr evaluation.live "authority_profile" (.str "bot")

/-- `sorted(set(live.get("granted_scopes") or ()))`. -/
def effectiveScopes (evaluation : Evaluation) : Option (List Value) :=
  (lookup evaluation.live "granted_scopes").sortedSet?

/-- `sorted(set(binding.get("bound_scopes") or ()))`. -/
def boundScopes (evaluation : Evaluation) : Option (List Value) :=
  (lookup evaluation.binding "bound_scopes").sortedSet?

def normalized (evaluation : Evaluation) (rolloutVersion : String)
    (boundScopes effectiveScopes : List Value) : Items :=
  let binding := evaluation.binding
  [("tenant_id", lookup binding "tenant_id"),
    ("principal_id", lookup binding "user_principal_id"),
    ("connection_id", lookup binding "connection_id"),
    ("authority_profile", evaluation.profile),
    ("authority_profile_id", lookup binding "authority_profile_id"),
    ("slack_subject_id", lookup binding "slack_subject_id"),
    ("provider_account_id", lookup binding "provider_account_id"),
    ("bound_scopes", .list boundScopes),
    ("capability_id", lookup binding "capability_id"),
    ("capability_version", lookup binding "capability_version"),
    ("descriptor_snapshot_hash", lookup binding "descriptor_snapshot_hash"),
    ("effect", lookup binding "effect"),
    ("credential_id", lookup binding "credential_id"),
    ("credential_version", lookup binding "credential_version"),
    ("effective_scopes", .list effectiveScopes),
    ("rollout_version", .str rolloutVersion),
    ("plan_graph_hash", lookup binding "plan_graph_hash"),
    ("workflow_revision_id", lookup binding "workflow_revision_id"),
    ("step_id", lookup binding "step_id"),
    ("attempt", lookup binding "attempt"),
    ("approval_payload_hash", lookup binding "approval_payload_hash"),
    ("approval_expires_at", lookup binding "approval_expires_at"),
    ("slack_connect", lookupOr binding "slack_connect" (.bool false)),
    ("data_egress", lookupOr binding "data_egress" (.bool false))]

def personalAuthority (evaluation : Evaluation) : Except Refusal Unit := do
  let binding := evaluation.binding
  let profileId := lookup binding "authority_profile_id"
  demand (profileId.truthy && (lookup binding "slack_subject_id").truthy)
    "personal_authority_unbound"
  match lookup binding "authority_authorization" with
  | .dict authorization =>
      demand (same (lookup authorization "authority_profile_id") profileId)
        "personal_authority_mismatch"
      demand (lookup authorization "allowed" == .bool true)
        "personal_authority_denied"
      demand ((lookup authorization "reason").isText "requester_is_subject" ||
          (lookup authorization "reason").isText "delegated")
        "personal_authority_denied"
  | _ => .error (.denied "personal_authority_unproven")

def accountAuthority (evaluation : Evaluation) : Except Refusal Unit := do
  let accountId := lookup evaluation.binding "provider_account_id"
  demand accountId.truthy "account_authority_unbound"
  demand (same accountId (lookup evaluation.snapshot "provider_account_id"))
    "account_authority_mismatch"
  demand (same accountId (lookup evaluation.live "provider_account_id"))
    "account_authority_mismatch"
  demand ((lookup evaluation.live "account_status").isText "verified")
    "account_authority_unverified"

def requiredFields : List String :=
  ["tenant_id", "user_principal_id", "connection_id", "capability_id",
    "capability_version", "descriptor_snapshot_hash", "effect",
    "credential_id", "credential_version", "plan_graph_hash",
    "workflow_revision_id", "step_id", "attempt"]

/-- `value in (None, "")`. -/
def blank : Value → Bool
  | .none => true
  | .str text => text == ""
  | _ => false

def complete (evaluation : Evaluation) : Except Refusal Unit := do
  demand (requiredFields.all fun field =>
      !blank (lookup evaluation.binding field))
    "incomplete_dynamic_binding"
  demand (!evaluation.snapshot.isEmpty && !evaluation.live.isEmpty)
    "connection_snapshot_missing"

/-- The binding, its snapshot and the live connection are of one tenant, one
connection and one authority, which the definition asks for. -/
def authority (evaluation : Evaluation)
    (definition : TrustedCapabilityDefinition) : Except Refusal Unit := do
  let tenantId := lookup evaluation.binding "tenant_id"
  let connectionId := lookup evaluation.binding "connection_id"
  let profile := evaluation.profile
  demand (same tenantId (lookup evaluation.snapshot "tenant_id"))
    "tenant_mismatch"
  demand (same tenantId (lookup evaluation.live "tenant_id")) "tenant_mismatch"
  demand (same connectionId (lookup evaluation.snapshot "connection_id"))
    "connection_mismatch"
  demand (same connectionId (lookup evaluation.live "connection_id"))
    "connection_mismatch"
  demand (same profile evaluation.snapshotProfile &&
      same profile evaluation.liveProfile)
    "authority_profile_mismatch"
  demand (!profile.isText "enterprise_admin") "enterprise_authority_unavailable"
  demand (profile.isText "bot" || profile.isText "user" ||
      profile.isText "account")
    "unsupported_authority_profile"
  demand (profile.isText definition.authorityProfile.text)
    "authority_profile_not_permitted"
  if profile.isText "user" then evaluation.personalAuthority
  if profile.isText "account" then evaluation.accountAuthority

def capability (runtime : Runtime) (rolloutVersion : String)
    (evaluation : Evaluation) (definition : TrustedCapabilityDefinition) :
    Except Refusal Unit := do
  let binding := evaluation.binding
  demand ((lookup evaluation.snapshot "health").isText "healthy" &&
      (lookup evaluation.live "status").isText "connected")
    "connection_unhealthy"
  demand ((lookup evaluation.snapshot "rollout_version").isText rolloutVersion)
    "rollout_drift"
  demand (same (lookup evaluation.snapshot "capability_id")
      (lookup binding "capability_id"))
    "capability_mismatch"
  demand (same (lookup evaluation.snapshot "capability_version")
      (lookup binding "capability_version"))
    "capability_mismatch"
  let enabled ← computed (lookup evaluation.live "enabled_capabilities").setOf?
  demand (Value.contains enabled (lookup binding "capability_id"))
    "capability_mismatch"
  demand ((lookup binding "effect").isText definition.effect.text)
    "capability_mismatch"
  let descriptor ← computed (descriptorHash runtime definition)
  demand ((lookup binding "descriptor_snapshot_hash").isText descriptor)
    "descriptor_mismatch"

def credential (runtime : Runtime) (evaluation : Evaluation) :
    Except Refusal Unit := do
  let versionOf := fun items =>
    toInt runtime "credential_mismatch" (lookup items "credential_version")
  let version ← versionOf evaluation.binding
  let snapshotVersion ← versionOf evaluation.snapshot
  let liveVersion ← versionOf evaluation.live
  demand (decide (0 < version) && version == snapshotVersion &&
      snapshotVersion == liveVersion)
    "credential_mismatch"
  demand (same (lookup evaluation.binding "credential_id")
      (lookup evaluation.live "credential_id"))
    "credential_mismatch"

def scopes (evaluation : Evaluation) (definition : TrustedCapabilityDefinition)
    (effectiveScopes : List Value) : Except Refusal Unit := do
  let snapshotScopes ←
    computed (lookup evaluation.snapshot "effective_scopes").setOf?
  demand (definition.requiredScopes.all fun scope =>
      Value.contains snapshotScopes (.str scope))
    "missing_required_scopes"
  demand (definition.requiredScopes.all fun scope =>
      Value.contains effectiveScopes (.str scope))
    "missing_required_scopes"
  let bound ← computed (lookup evaluation.binding "bound_scopes").setOf?
  demand (!(evaluation.profile.isText "account" &&
      definition.effect == .write && bound.isEmpty))
    "bound_authority_missing"
  demand (bound.all (Value.contains snapshotScopes) &&
      bound.all (Value.contains effectiveScopes))
    "missing_bound_authority"

def approval (runtime : Runtime) (evaluation : Evaluation) :
    Except Refusal Unit := do
  let approved := lookup evaluation.binding "approval_payload_hash"
  demand approved.truthy "approval_binding_missing"
  demand (same approved (lookup evaluation.binding "payload_hash"))
    "approval_binding_mismatch"
  let expiresAt ← toInt runtime "approval_binding_missing"
    (lookup evaluation.binding "approval_expires_at")
  let now ← toInt runtime "approval_binding_missing" evaluation.now
  demand (decide (now ≤ expiresAt)) "approval_expired"

/-- `_denial_reason`: returns when there is none. -/
def permitted (runtime : Runtime) (rolloutVersion : String)
    (evaluation : Evaluation)
    (definition? : Option TrustedCapabilityDefinition)
    (effectiveScopes : List Value) : Except Refusal Unit := do
  evaluation.complete
  match definition? with
  | none => .error (.denied "capability_unavailable")
  | some definition =>
      evaluation.authority definition
      evaluation.capability runtime rolloutVersion definition
      evaluation.credential runtime
      evaluation.scopes definition effectiveScopes
      demand (lookup evaluation.binding "slack_connect" == .bool false)
        "slack_connect_denied"
      demand (lookup evaluation.binding "data_egress" == .bool false)
        "data_egress_denied"
      if definition.effect = .write then evaluation.approval runtime

end Evaluation

structure Decision where
  allowed : Bool
  reason : String
  version : String
  inputHash : String
  decisionHash : String

def decided (allowed : Bool) (reason version inputHash : String) : Items :=
  [("allowed", .bool allowed), ("reason", .str reason),
    ("version", .str version), ("input_hash", .str inputHash)]

/-- `None`, or the reason of a denial. -/
def denialReason : Except Refusal Unit → Option (Option String)
  | .ok () => some none
  | .error (.denied reason) => some (some reason)
  | .error .raised => none

def PolicyEvaluator.evaluate (runtime : Runtime) (evaluator : PolicyEvaluator)
    (evaluation : Evaluation) : Option Decision := do
  let definition? ← evaluator.lookupDefinition
    (lookup evaluation.binding "capability_id")
    (lookup evaluation.binding "capability_version")
  let effectiveScopes ← evaluation.effectiveScopes
  let boundScopes ← evaluation.boundScopes
  let inputHash ← runtime.hash (.dict
    (evaluation.normalized evaluator.rolloutVersion boundScopes
      effectiveScopes))
  let reason? ← denialReason (evaluation.permitted runtime
    evaluator.rolloutVersion definition? effectiveScopes)
  let allowed := reason?.isNone
  let reason := reason?.getD "allowed"
  let decisionHash ← runtime.hash
    (.dict (decided allowed reason evaluator.version inputHash))
  return ⟨allowed, reason, evaluator.version, inputHash, decisionHash⟩

end AcpTask.Policy
