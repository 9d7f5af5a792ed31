import AcpTask.Data.Value
import Mathlib.Data.List.Sort

namespace AcpTask.ControlPlane

open Data

inductive Effect where
  | read
  | write
  deriving DecidableEq

structure ControlDecision where
  allowed : Bool
  reason : Option String := none
  deriving DecidableEq

def ControlDecision.allow : ControlDecision := ⟨true, none⟩

def reasonPrefix : String := "control_plane:"

def emergencyStop : String := reasonPrefix ++ "emergency_stop"
def familyDisabled : String := reasonPrefix ++ "family_disabled"
def senderDisabled : String := reasonPrefix ++ "sender_disabled"
def unavailable : String := reasonPrefix ++ "unavailable"

def denied (reason : String) : ControlDecision := ⟨false, some reason⟩

def deniedFor (reason detail : String) : ControlDecision :=
  denied (reason ++ ":" ++ detail)

structure ControlPlaneState where
  emergencyStop : Bool := false
  families : List (String × Bool) := []
  senders : List (String × Bool) := []
  deriving DecidableEq

/-- `switches.get(name) is True`. -/
def switchedOn (switches : List (String × Bool)) (name : String) : Bool :=
  switches.reverse.lookup name == some true

def ControlPlaneState.familyEnabled (state : ControlPlaneState)
    (family : String) : Bool :=
  switchedOn state.families family

def ControlPlaneState.senderEnabled (state : ControlPlaneState)
    (senderId : Value) : Bool :=
  match senderId with
  | .str name => switchedOn state.senders name
  | _ => false

/-- The gate, with its cache; a store or a resolver that gives nothing has
raised, or has no answer. -/
structure TenantControlPlane where
  store : Option (Value → Option ControlPlaneState)
  familyResolver : Option (Value → Option (List String))
  effectResolver : Option (Value → Option String)
  cacheSeconds : ℚ := 1
  cache : List (Value × ℚ × ControlPlaneState) := []

/-- `sorted(names)`. -/
def sorted (names : List String) : List String :=
  names.insertionSort fun left right => ¬ right < left

namespace TenantControlPlane

variable (plane : TenantControlPlane)

def cached? (now : ℚ) (tenantId : Value) : Option ControlPlaneState :=
  match plane.cache.find? fun entry => entry.1.equals tenantId with
  | some (_, readAt, state) =>
      if now - readAt < plane.cacheSeconds then some state else none
  | none => none

def forget (tenantId : Value) : TenantControlPlane :=
  { plane with
    cache := plane.cache.filter fun entry => !entry.1.equals tenantId }

def remember (now : ℚ) (tenantId : Value) (state : ControlPlaneState) :
    TenantControlPlane :=
  { plane with
    cache := (tenantId, now, state) :: (plane.forget tenantId).cache }

/-- The state to judge by, if the store can answer; nothing at all when the
tenant cannot be looked up. -/
def state (now : ℚ) (tenantId : Value) :
    Option (Option ControlPlaneState) × TenantControlPlane :=
  match plane.store with
  | none => (some none, plane)
  | some store =>
      if !tenantId.truthy then (some none, plane)
      else if !tenantId.hashable then (none, plane)
      else match plane.cached? now tenantId with
        | some state => (some (some state), plane)
        | none =>
            match store tenantId with
            | none => (some none, plane.forget tenantId)
            | some state =>
                (some (some state), plane.remember now tenantId state)

def familiesFor (capabilityId : Value) : List String :=
  match plane.familyResolver with
  | none => []
  | some resolve =>
      if capabilityId.truthy then (resolve capabilityId).getD [] else []

def effectOf? (text : String) : Option Effect :=
  if text = "read" then some .read
  else if text = "write" then some .write
  else none

def cataloguedEffect (capabilityId : Value) : Effect :=
  match plane.effectResolver with
  | none => .write
  | some resolve =>
      if capabilityId.truthy then
        ((resolve capabilityId).bind effectOf?).getD .write
      else .write

def effectFor (capabilityId fallback : Value) : Effect :=
  match fallback.asStr?.bind effectOf? with
  | some effect => effect
  | none => plane.cataloguedEffect capabilityId

def judgeFamilies (state : ControlPlaneState) (families : List String) :
    ControlDecision :=
  if !families.isEmpty && !families.any state.familyEnabled then
    deniedFor familyDisabled ((sorted families).headD "")
  else .allow

/-- The gate's answer on the state it read; nothing when the sender cannot be
looked up. -/
def judge (library : StandardLibrary) (consulted : Option ControlPlaneState)
    (effect : Effect) (purpose senderId : Value) (families : List String) :
    Option ControlDecision :=
  match consulted with
  | none =>
      if effect = .write ∨ purpose.isText "inbound" then
        some (denied unavailable)
      else some .allow
  | some state =>
      if state.emergencyStop ∧
          (purpose.isText "inbound" ∨ effect = .write) then
        some (denied emergencyStop)
      else if effect ≠ .write then some .allow
      else if senderId = .none then some (judgeFamilies state families)
      else if !senderId.hashable then none
      else if !state.senderEnabled senderId then
        some (deniedFor senderDisabled (library.str senderId))
      else some (judgeFamilies state families)

def decide (library : StandardLibrary) (now : ℚ)
    (tenantId capabilityId effect purpose : Value) (family : Option String)
    (senderId : Value) : Option ControlDecision × TenantControlPlane :=
  if purpose.isText "recovery" then (some .allow, plane)
  else
    let consulted := plane.state now tenantId
    let families := match family with
      | some name =>
          if name = "" then plane.familiesFor capabilityId else [name]
      | none => plane.familiesFor capabilityId
    (consulted.1.bind fun state =>
      judge library state (plane.effectFor capabilityId effect) purpose
        senderId families, consulted.2)

def fields : Value → List (String × Value)
  | .dict items => items
  | _ => []

def decideBinding (library : StandardLibrary) (now : ℚ) (binding : Value) :
    Option ControlDecision × TenantControlPlane :=
  let items := fields binding
  plane.decide library now (Value.lookup items "tenant_id")
    (Value.lookup items "capability_id") (Value.lookup items "effect")
    ((Value.lookup items "control_plane_purpose").orElse (.str "dispatch")) none
    (Value.lookup items "sender_id")

end TenantControlPlane

/-! The builder every service composes the gate with. -/

structure Operation where
  familyFlag : String
  capabilityRecipe : List String

structure Definition where
  capabilityId : String
  effect : String

def capabilityFamilyResolver (operations : List Operation) :
    Value → Option (List String)
  | .str capabilityId =>
      some (sorted ((operations.filter fun operation =>
        operation.capabilityRecipe.contains capabilityId).map
          Operation.familyFlag).dedup)
  | value => if value.hashable then some [] else none

def capabilityEffectResolver (definitions : List Definition) :
    Value → Option String
  | .str capabilityId =>
      (definitions.reverse.find? fun definition =>
        definition.capabilityId == capabilityId).map Definition.effect
  | _ => none

def buildTenantControlPlane (store : Option (Value → Option ControlPlaneState))
    (definitions : List Definition)
    (operationRegistry : Option (List Operation)) : TenantControlPlane where
  store := store
  familyResolver := operationRegistry.map capabilityFamilyResolver
  effectResolver := some (capabilityEffectResolver definitions)

end AcpTask.ControlPlane
