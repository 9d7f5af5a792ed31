import Mathlib.Logic.Embedding.Basic
import AcpTask.Library.Run
import AcpTask.Library.Table
import AcpTask.Library.Transaction

namespace AcpTask.Slack

open Library

/-! A compound request: a group of effects that are answered and dispatched one
by one. -/

inductive Decision where
  | approve
  | reject
  | correct
  | cancel
  | succeeded
  | failed
  | dispatched
  deriving DecidableEq

inductive EffectStatus where
  | blocked
  | awaitingApproval
  | approved
  | rejected
  | cancelled
  | succeeded
  | failed
  | dispatched
  deriving DecidableEq

/-- `_DECISIONS`. -/
def Decision.status : Decision → EffectStatus
  | .approve => .approved
  | .reject => .rejected
  | .correct => .awaitingApproval
  | .cancel => .cancelled
  | .succeeded => .succeeded
  | .failed => .failed
  | .dispatched => .dispatched

def EffectStatus.terminal : EffectStatus → Bool
  | .succeeded | .failed | .rejected | .cancelled => true
  | _ => false

def EffectStatus.completed : EffectStatus → Bool
  | .succeeded => true
  | _ => false

inductive EffectKind where
  | read
  | write
  deriving DecidableEq

structure Effect where
  effectId : String
  capabilityId : String
  effectKind : EffectKind
  dependsOn : List String
  status : EffectStatus
  deriving DecidableEq

abbrev EffectTable := Table Effect Effect.effectId

structure EffectGroup where
  groupId : String
  conversationId : String
  effects : EffectTable

inductive GroupError where
  | valueError (message : String)
  | keyError (message : String)

def readSuffixes : List String :=
  [".read", ".list", ".search", ".messages", ".permalink"]

def effectKind (capabilityId : String) : EffectKind :=
  if readSuffixes.any fun suffix =>
      suffix.toList.isSuffixOf capabilityId.toList then .read
  else .write

structure Dependency where
  operationIndex : Option Int
  dependsOnIndex : Option Int

/-- The effects an operation waits for, of the `count` there are. -/
def declared (effectIds : ℕ ↪ String) (count : Nat)
    (dependencies : List Dependency) (index : Nat) : List String :=
  dependencies.filterMap fun edge =>
    match edge.operationIndex, edge.dependsOnIndex with
    | some target, some source =>
        if target = index ∧ 0 ≤ source ∧ source < count then
          some (effectIds source.toNat)
        else none
    | _, _ => none

def plannedEffect (effectIds : ℕ ↪ String) (count : Nat)
    (dependencies : List Dependency) (operation : String × Nat) : Effect :=
  let dependsOn := declared effectIds count dependencies operation.2
  { effectId := effectIds operation.2
    capabilityId := operation.1
    effectKind := effectKind operation.1
    dependsOn
    status := if dependsOn.isEmpty then .awaitingApproval else .blocked }

def readsFirst (named : List String) : List (String × Nat) :=
  let reads := fun operation : String × Nat =>
    decide (effectKind operation.1 = .read)
  named.zipIdx.filter reads ++ named.zipIdx.filter fun operation =>
    !reads operation

theorem readsFirst_perm (named : List String) :
    (readsFirst named).Perm named.zipIdx :=
  List.filter_append_perm _ _

/-- `effect_ids` are the fresh identifiers of the effects, by their index. -/
def plannedEffects (effectIds : ℕ ↪ String) (named : List String)
    (dependencies : List Dependency) : EffectTable where
  rows := (readsFirst named).map
    (plannedEffect effectIds named.length dependencies)
  primaryKey := by
    have ids : ((readsFirst named).map
        (plannedEffect effectIds named.length dependencies)).map
          Effect.effectId =
        ((readsFirst named).map Prod.snd).map effectIds := by
      rw [List.map_map, List.map_map]
      rfl
    rw [ids]
    refine List.Nodup.map effectIds.injective ?_
    refine ((readsFirst_perm named).map Prod.snd).nodup_iff.mpr ?_
    rw [List.zipIdx_map_snd]
    exact List.nodup_range'

def buildEffectGroup (effectIds : ℕ ↪ String)
    (groupId conversationId : String) (operations : List (Option String))
    (dependencies : List Dependency) : Except GroupError EffectGroup := do
  require (conversationId != "")
    (.valueError "an effect group belongs to a conversation")
  let named := operations.filterMap fun operation =>
    operation.filter fun operationId => operationId != ""
  pure ⟨groupId, conversationId, plannedEffects effectIds named dependencies⟩

def EffectGroup.find? (group : EffectGroup) (effectId : String) :
    Option Effect :=
  group.effects.find? effectId

def EffectGroup.owedNothing (group : EffectGroup) (effect : Effect) : Bool :=
  effect.dependsOn.all fun needed =>
    (group.find? needed).any fun other => other.status.completed

def unblockDependents (group : EffectGroup) : EffectGroup :=
  { group with
    effects := group.effects.updateWhere
      (fun effect => effect.status == .blocked && group.owedNothing effect)
      (fun effect => { effect with status := .awaitingApproval })
      (fun _ => rfl) }

def assignStatus (group : EffectGroup) (effectId : String)
    (status : EffectStatus) : EffectGroup :=
  { group with
    effects := group.effects.updateWhere
      (fun effect => decide (effect.effectId = effectId))
      (fun effect => { effect with status }) (fun _ => rfl) }

def decided (group : EffectGroup) (effectId : String) (decision : Decision) :
    EffectGroup :=
  let target := assignStatus group effectId decision.status
  if decision.status.completed then unblockDependents target else target

def applyEffectDecision (group : EffectGroup) (effectId : String)
    (decision : Decision) : Except GroupError EffectGroup := do
  require (group.find? effectId).isSome
    (.keyError "effect is not part of this group")
  pure (decided group effectId decision)

def dispatchableEffects (group : EffectGroup) : List Effect :=
  group.effects.rows.filter fun effect =>
    effect.status == .approved && group.owedNothing effect

structure GroupOutcome where
  completed : Nat
  total : Nat
  terminal : Bool

def groupOutcome (group : EffectGroup) : GroupOutcome where
  completed := group.effects.rows.countP fun effect => effect.status.completed
  total := group.effects.rows.length
  terminal := group.effects.rows.all fun effect => effect.status.terminal

/-! Dispatching, in a world of which only `dispatchOne` knows what it is. -/

/-- How `_dispatch_one_effect` ends: an exception that the loop takes is a
refusal. -/
inductive DispatchAnswer where
  | done
  | refused
  | raised

inductive EffectEvent where
  | decided (effectId : String) (decision : Decision)
  | dispatched (effectId : String)
  deriving DecidableEq

structure GroupRun (World : Type) where
  world : World
  group : EffectGroup
  events : List EffectEvent

section Dispatch

variable {World : Type} (dispatchOne : World → Effect → DispatchAnswer × World)

/-- The loop of `dispatch_approved_effects`, and whether an exception got out
of it. -/
def dispatchEffects : List Effect → GroupRun World → Bool × GroupRun World
  | [], state => (false, state)
  | effect :: rest, state =>
      let answered := dispatchOne state.world effect
      match answered.1 with
      | .done => dispatchEffects rest {
          world := answered.2
          group := decided state.group effect.effectId .dispatched
          events := .dispatched effect.effectId :: state.events }
      | .refused => dispatchEffects rest { state with
          world := answered.2
          group := decided state.group effect.effectId .failed }
      | .raised => (true, { state with world := answered.2 })

/-- The group is stored behind the loop: an exception leaves the stored one as
it was. -/
def dispatchApprovedEffects (state : GroupRun World) : GroupRun World :=
  let looped :=
    dispatchEffects dispatchOne (dispatchableEffects state.group) state
  if looped.1 then { looped.2 with group := state.group } else looped.2

inductive GroupAction (World : Type) where
  | decide (effectId : String) (decision : Decision)
  | dispatch
  | elapse (world : World)

def groupStep (state : GroupRun World) : GroupAction World → GroupRun World
  | .decide effectId decision =>
      match applyEffectDecision state.group effectId decision with
      | .ok group => { state with
          group, events := .decided effectId decision :: state.events }
      | .error _ => state
  | .dispatch => dispatchApprovedEffects dispatchOne state
  | .elapse world => { state with world }

def groupRun (world : World) (group : EffectGroup)
    (actions : List (GroupAction World)) : GroupRun World :=
  run (groupStep dispatchOne) ⟨world, group, []⟩ actions

end Dispatch

def isOperation (operation : Option String) : Bool :=
  operation.any fun operationId => operationId != ""

def Declares (dependencies : List Dependency) (target source : Int) : Prop :=
  ∃ edge ∈ dependencies, edge.operationIndex = some target ∧
    edge.dependsOnIndex = some source

section Dependencies

variable {effectIds : ℕ ↪ String} {operations : List (Option String)}
  {dependencies : List Dependency} {index target source : Nat}

def effectNames : ℕ ↪ String where
  toFun index := String.ofList (List.replicate index 'e')
  inj' first second same := by simpa using congrArg String.length same

end Dependencies

end AcpTask.Slack
