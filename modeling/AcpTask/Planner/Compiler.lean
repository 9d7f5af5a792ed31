import AcpTask.Library.Dependencies
import AcpTask.Planner.Schemas
import AcpTask.Policy.Evaluator

namespace AcpTask.Planner

open Data Library
open Data.Value (get? lookup)
open Policy (TrustedCapabilityDefinition Effect descriptorHash)

/-! `PlanCompiler.compile`. -/

/-- What the compiler takes from the standard library and from `jsonschema`. -/
structure Runtime extends Policy.Runtime where
  lower : String → String
  /-- `character.isdigit()`. -/
  isDigit : Char → Bool
  /-- `jsonschema.validate(instance, schema)`: whether it accepts the instance;
  nothing where it raises anything but a `ValidationError`. -/
  validates : Value → Value → Option Bool

structure ConnectionCapabilitySnapshot where
  connectionId : String
  tenantId : String
  capabilityId : String
  capabilityVersion : String
  credentialVersion : Int
  effectiveScopes : List String
  health : String
  rolloutVersion : String

/-- `WorkflowPlanStep`. -/
structure PlanStep where
  stepId : String
  capabilityId : String
  capabilityVersion : String
  connectionId : Option String := none
  descriptorSnapshotHash : String
  input : Items := []
  dependsOn : List String := []
  agentOfferId : Option String := none

/-- `WorkflowPlanDraft`. -/
structure PlanDraft where
  tenantId : String
  goal : String
  steps : List PlanStep
  blockers : List Value := []

structure ValidatedStep where
  stepId : String
  capabilityId : String
  capabilityVersion : String
  connectionId : Option String
  descriptorSnapshotHash : String
  credentialVersion : Int
  input : Value
  dependsOn : List String
  effect : Effect
  risk : String
  retryPolicy : String
  provider : String
  agentOfferId : Option String

def textOrNone : Option String → Value
  | some text => .str text
  | none => .none

def ValidatedStep.toValue (step : ValidatedStep) : Value :=
  .dict [
    ("step_id", .str step.stepId),
    ("capability_id", .str step.capabilityId),
    ("capability_version", .str step.capabilityVersion),
    ("connection_id", textOrNone step.connectionId),
    ("descriptor_snapshot_hash", .str step.descriptorSnapshotHash),
    ("credential_version", .int step.credentialVersion),
    ("input", step.input),
    ("depends_on", .list (step.dependsOn.map .str)),
    ("effect", .str step.effect.text),
    ("risk", .str step.risk),
    ("retry_policy", .str step.retryPolicy),
    ("provider", .str step.provider),
    ("agent_offer_id", textOrNone step.agentOfferId)]

/-- `if not condition: raise PlanRejected(reason)`. -/
def demand (condition : Prop) [Decidable condition] (reason : String) :
    Except PlanError Unit :=
  require (decide condition) (.rejected reason)

@[simp] theorem demand_eq_ok {condition : Prop} [Decidable condition]
    {reason : String} {done : Unit} :
    demand condition reason = .ok done ↔ condition := by
  simp [demand]

def orElse {Found : Type} (found : Option Found) (error : PlanError) :
    Except PlanError Found :=
  match found with
  | some value => .ok value
  | none => .error error

@[simp] theorem orElse_eq_ok {Found : Type} {found : Option Found}
    {error : PlanError} {value : Found} :
    orElse found error = .ok value ↔ found = some value := by
  cases found <;> simp [orElse]

def dependencies (steps : List ValidatedStep) (stepId : String) :
    List String :=
  steps.flatMap fun step => if step.stepId = stepId then step.dependsOn else []

/-- `outgoing[dependency]`. -/
def outgoing (steps : List ValidatedStep) (dependency : String) :
    List String :=
  steps.flatMap fun step =>
    (step.dependsOn.filter (· = dependency)).map fun _ => step.stepId

def checkDependencies (steps : List ValidatedStep) : Except PlanError Unit :=
  steps.forM fun step => step.dependsOn.forM fun dependency =>
    demand (dependency ∈ steps.map ValidatedStep.stepId ∧
        dependency ≠ step.stepId)
      "dependency is unknown or self-referential"

def unplaced (steps : List ValidatedStep) : Kahn String where
  indegree stepId := (dependencies steps stepId).length
  ready := ascending
    ((steps.map ValidatedStep.stepId).dedup.filter fun stepId =>
      dependencies steps stepId = [])
  order := []

/-- `_topological_order`: the loop ends within one round for each id. -/
def topologicalOrder (steps : List ValidatedStep) :
    Except PlanError (List String) := do
  checkDependencies steps
  let order := ((unplaced steps).drain (outgoing steps)
    (steps.map ValidatedStep.stepId).dedup.length).order
  demand (order.length = steps.length) "plan dependency graph is cyclic"
  return order

mutual
def referencesWithPaths (path : List String) :
    Value → List (List String × String)
  | .dict items =>
      match reference? items with
      | some reference => [(path, reference)]
      | none => referencesInPairs path items
  | .list items => referencesInItems path 0 items
  | _ => []

def referencesInItems (path : List String) (index : Nat) :
    List Value → List (List String × String)
  | [] => []
  | item :: items =>
      referencesWithPaths (path ++ [toString index]) item ++
        referencesInItems path (index + 1) items

def referencesInPairs (path : List String) :
    Items → List (List String × String)
  | [] => []
  | (key, item) :: items =>
      referencesWithPaths (path ++ [key]) item ++ referencesInPairs path items
end

def references (value : Value) : List String :=
  (referencesWithPaths [] value).map Prod.snd

/-- `by_id[step_id]`. -/
def byId (steps : List ValidatedStep) (stepId : String) :
    Except PlanError ValidatedStep :=
  orElse (steps.reverse.find? fun step => step.stepId == stepId) .raised

/-- `_ancestors`; the loop takes each listed id once. -/
def ancestors (steps : List ValidatedStep) (step : ValidatedStep) :
    Except PlanError (List String) :=
  gather (fun stepId => ValidatedStep.dependsOn <$> byId steps stepId) .running
    (step.dependsOn.length +
      (steps.map fun step => step.dependsOn.length).sum) [] step.dependsOn

def declaration : Value :=
  .dict [
    ("type", .str "object"),
    ("required", .list [.str "$ref"]),
    ("properties", .dict [("$ref", .dict [("type", .str "string")])]),
    ("additionalProperties", .bool false)]

mutual
def allowDeclaredReferences (allowSelf : Bool) : Value → Value
  | .dict items =>
      let transformed := Value.dict (allowInItems allowSelf items)
      if allowSelf then .dict [("anyOf", .list [transformed, declaration])]
      else transformed
  | .list items => .list items
  | .none => .none
  | .bool value => .bool value
  | .int value => .int value
  | .float value => .float value
  | .str text => .str text
  | .object className => .object className

def allowInItems (allowSelf : Bool) : Items → Items
  | [] => []
  | (key, value) :: items =>
      (key,
        if key = "properties" then allowInProperties value
        else if key = "items" then allowDeclaredReferences true value
        else if key ∈ ["oneOf", "anyOf", "allOf"] then
          allowInMembers allowSelf value
        else value) :: allowInItems allowSelf items

def allowInProperties : Value → Value
  | .dict properties => .dict (allowInEach properties)
  | value => value

def allowInEach : Items → Items
  | [] => []
  | (name, child) :: children =>
      (name, allowDeclaredReferences true child) :: allowInEach children

def allowInMembers (allowSelf : Bool) : Value → Value
  | .list values => .list (allowInAll allowSelf values)
  | value => value

def allowInAll (allowSelf : Bool) : List Value → List Value
  | [] => []
  | value :: values =>
      allowDeclaredReferences allowSelf value :: allowInAll allowSelf values
end

structure PlanCompiler where
  definitions : List TrustedCapabilityDefinition
  snapshots : List ConnectionCapabilitySnapshot
  rolloutVersion : String

namespace PlanCompiler

variable (compiler : PlanCompiler) (runtime : Runtime)

/-- `self.definitions.get((capability_id, version))`. -/
def definition? (capabilityId version : String) :
    Option TrustedCapabilityDefinition :=
  compiler.definitions.reverse.find? fun definition =>
    definition.capabilityId == capabilityId && definition.version == version

def snapshot? (capabilityId version : String) (connectionId : Option String) :
    Option ConnectionCapabilitySnapshot :=
  compiler.snapshots.reverse.find? fun snapshot =>
    snapshot.capabilityId == capabilityId &&
      snapshot.capabilityVersion == version &&
      some snapshot.connectionId == connectionId

/-- `self.definitions[(capability_id, version)]`. -/
def definition (step : ValidatedStep) :
    Except PlanError TrustedCapabilityDefinition :=
  orElse (compiler.definition? step.capabilityId step.capabilityVersion) .raised

def recipientFields : List String :=
  ["to", "recipient", "recipients", "attendee", "attendees"]

def validateReference (steps : List ValidatedStep) (step : ValidatedStep)
    (known path : List String) (reference : String) :
    Except PlanError Unit := do
  let parts := pieces reference
  let origin := parts.headD ""
  demand (3 ≤ parts.length ∧ origin ∈ known ∧
    parts.getD 1 "" ∈ ["output", "receipt"]) "output reference is invalid"
  let source ← byId steps origin
  demand (¬ (step.provider = "google" ∧
      path.any (fun part => recipientFields.contains (runtime.lower part))))
    "dynamic identities require an explicit confirmed recipient"
  let sourceDefinition ← compiler.definition source
  let destinationDefinition ← compiler.definition step
  let sourceSchemas := schemasAtPath runtime.isDigit false
    sourceDefinition.outputSchema (parts.drop 2)
  demand (sourceSchemas ≠ []) "undeclared source output path"
  let destinationSchemas := schemasAtPath runtime.isDigit true
    destinationDefinition.inputSchema path
  demand (destinationSchemas ≠ []) "undeclared destination input path"
  demand (schemasAreCompatible sourceSchemas destinationSchemas = true)
    "incompatible reference type"

def authorizedSnapshot (tenantId : String) (step : PlanStep)
    (definition : TrustedCapabilityDefinition) :
    Except PlanError ConnectionCapabilitySnapshot := do
  let snapshot ← orElse (compiler.snapshot? step.capabilityId
      step.capabilityVersion step.connectionId)
    (.rejected "connection is not authorized for this tenant")
  demand (snapshot.tenantId = tenantId)
    "connection is not authorized for this tenant"
  demand (snapshot.health = "healthy" ∧
      snapshot.rolloutVersion = compiler.rolloutVersion ∧
      definition.requiredScopes ⊆ snapshot.effectiveScopes)
    "connection capability snapshot is stale"
  return snapshot

def refersInPreview (definition : TrustedCapabilityDefinition)
    (input : Value) : Bool :=
  (referencesWithPaths [] input).any fun reference =>
    reference.1.head?.any definition.previewFields.contains

/-- `jsonschema.validate`. -/
def validateInput (step : PlanStep) (definition : TrustedCapabilityDefinition)
    (input : Value) : Except PlanError Unit := do
  let accepted ← orElse (runtime.validates input
    (allowDeclaredReferences false definition.inputSchema)) .raised
  demand (accepted = true) ("input schema rejected step " ++ step.stepId)

def validateStep (tenantId : String) (step : PlanStep) :
    Except PlanError (ValidatedStep × List Disclosure) := do
  let definition ← orElse
    (compiler.definition? step.capabilityId step.capabilityVersion)
    (.rejected "capability is not catalogued")
  let hash ← orElse (descriptorHash runtime.toRuntime definition) .raised
  demand (step.descriptorSnapshotHash = hash) "descriptor snapshot is stale"
  let snapshot ← compiler.authorizedSnapshot tenantId step definition
  let (safeInput, disclosures) ← authorizeDataFlow definition.provider
    step.stepId (.dict step.input)
  demand (¬ (definition.provider = "twilio" ∧ definition.effect = .write ∧
      refersInPreview definition safeInput = true))
    "Twilio write preview fields must be literal"
  validateInput runtime step definition safeInput
  return ({
    stepId := step.stepId
    capabilityId := step.capabilityId
    capabilityVersion := step.capabilityVersion
    connectionId := step.connectionId
    descriptorSnapshotHash := step.descriptorSnapshotHash
    credentialVersion := snapshot.credentialVersion
    input := safeInput
    dependsOn := ascending step.dependsOn.dedup
    effect := definition.effect
    risk := definition.risk
    retryPolicy := definition.retryPolicy
    provider := definition.provider
    agentOfferId := step.agentOfferId }, disclosures)

def validateSteps (tenantId : String) (seen : List String) :
    List PlanStep → Except PlanError (List ValidatedStep × List Disclosure)
  | [] => return ([], [])
  | step :: steps => do
      demand (step.stepId ∉ seen) "step identifiers must be unique"
      let (validated, disclosures) ←
        compiler.validateStep runtime tenantId step
      let (others, nested) ←
        validateSteps tenantId (step.stepId :: seen) steps
      return (validated :: others, disclosures ++ nested)

def validateReferences (steps : List ValidatedStep) : Except PlanError Unit :=
  steps.forM fun step => do
    let known ← ancestors steps step
    (referencesWithPaths [] step.input).forM fun (path, reference) =>
      compiler.validateReference runtime steps step known path reference

def referenceDisclosure (steps : List ValidatedStep) (step : ValidatedStep)
    (reference : String) : Except PlanError (List Disclosure) := do
  let source ← byId steps ((pieces reference).headD "")
  if source.provider = step.provider then return []
  else do
    demand (¬ (source.agentOfferId.any (· ≠ "") ∨
        step.agentOfferId.any (· ≠ "")))
      "provider-to-agent data flow requires an explicit trusted policy"
    return [{
      stepId := step.stepId
      source := .str source.provider
      destination := step.provider
      classification := .str "provider_data"
      sourceStepId := some source.stepId
      reference := some reference }]

def referenceDisclosures (steps : List ValidatedStep) :
    Except PlanError (List Disclosure) := do
  let disclosures ← steps.mapM fun step =>
    (references step.input).mapM (referenceDisclosure steps step)
  return disclosures.flatten.flatten

end PlanCompiler

structure CompiledPlan where
  tenantId : String
  goal : String
  steps : List ValidatedStep
  planGraphHash : String
  capabilitySnapshotHash : String
  disclosures : List Disclosure
  blockers : List Value

def graphMaterial (tenantId goal : String) (steps : List ValidatedStep) :
    Value :=
  .dict [
    ("tenant_id", .str tenantId),
    ("goal", .str goal),
    ("steps", .list (steps.map ValidatedStep.toValue))]

def capabilityMaterial (steps : List ValidatedStep) : Value :=
  .list (steps.map fun step => .dict [
    ("connection_id", textOrNone step.connectionId),
    ("capability_id", .str step.capabilityId),
    ("capability_version", .str step.capabilityVersion),
    ("descriptor_snapshot_hash", .str step.descriptorSnapshotHash),
    ("credential_version", .int step.credentialVersion)])

/-- `_hash`. -/
def Runtime.hashed (runtime : Runtime) (value : Value) :
    Except PlanError String :=
  orElse (runtime.toRuntime.hash value) .raised

/-- `next(item for item in validated if item["step_id"] == step_id)`. -/
def stepOf (steps : List ValidatedStep) (stepId : String) :
    Except PlanError ValidatedStep :=
  orElse (steps.find? fun step => step.stepId == stepId) .raised

def PlanDraft.shape (draft : PlanDraft) : Except PlanError Unit := do
  demand (draft.tenantId ≠ "") "tenant binding is required"
  demand (draft.steps.length ≠ 0) "plan has no steps"
  demand (draft.steps.length ≤ 10) "plan exceeds the ten steps limit"

def PlanCompiler.compile (compiler : PlanCompiler) (runtime : Runtime)
    (draft : PlanDraft) : Except PlanError CompiledPlan := do
  draft.shape
  let (validated, disclosures) ←
    compiler.validateSteps runtime draft.tenantId [] draft.steps
  let order ← topologicalOrder validated
  let ordered ← order.mapM (stepOf validated)
  compiler.validateReferences runtime ordered
  let crossed ← PlanCompiler.referenceDisclosures ordered
  let planGraphHash ←
    runtime.hashed (graphMaterial draft.tenantId draft.goal ordered)
  let capabilitySnapshotHash ← runtime.hashed (capabilityMaterial ordered)
  return {
    tenantId := draft.tenantId
    goal := draft.goal
    steps := ordered
    planGraphHash, capabilitySnapshotHash
    disclosures := disclosures ++ crossed
    blockers := draft.blockers }

end AcpTask.Planner
