import AcpTask.Data.Legible
import AcpTask.Policy.Evaluator

namespace AcpTask.Policy

open Data Library
open Data.Value (get? lookup All AllItems AllPairs GenuineLeaf)

variable {runtime : Runtime} {evaluator : PolicyEvaluator}
  {evaluation : Evaluation} {decision : Decision}

@[simp] theorem demand_eq_ok {condition : Bool} {reason : String} {done : Unit} :
    demand condition reason = .ok done ↔ condition = true :=
  require_eq_ok

@[simp] theorem computed_eq_ok {α : Type} {result : Option α} {value : α} :
    computed result = .ok value ↔ result = some value := by
  cases result <;> simp [computed]

@[simp] theorem denialReason_eq_none_iff {result : Except Refusal Unit} :
    denialReason result = some none ↔ result = .ok () := by
  rcases result with (_ | _) | _ <;> simp [denialReason]

theorem evaluate_eq_some
    (evaluated : evaluator.evaluate runtime evaluation = some decision) :
    ∃ definition? effectiveScopes boundScopes reason?,
      evaluator.lookupDefinition (lookup evaluation.binding "capability_id")
        (lookup evaluation.binding "capability_version") = some definition? ∧
      evaluation.effectiveScopes = some effectiveScopes ∧
      evaluation.boundScopes = some boundScopes ∧
      runtime.hash (.dict (evaluation.normalized evaluator.rolloutVersion
        boundScopes effectiveScopes)) = some decision.inputHash ∧
      denialReason (evaluation.permitted runtime evaluator.rolloutVersion
        definition? effectiveScopes) = some reason? ∧
      decision.allowed = reason?.isNone ∧
      decision.reason = reason?.getD "allowed" ∧
      decision.version = evaluator.version ∧
      runtime.hash (.dict (decided decision.allowed decision.reason
        evaluator.version decision.inputHash)) =
          some decision.decisionHash := by
  unfold PolicyEvaluator.evaluate at evaluated
  simp only [Option.bind_eq_bind, Option.bind_eq_some_iff, Option.pure_def,
    Option.some.injEq] at evaluated
  obtain ⟨definition?, found, effective, scopedTo, bound, boundTo, _,
    hashed, reason?, judged, _, signed, rfl⟩ := evaluated
  exact ⟨definition?, effective, bound, reason?, found, scopedTo, boundTo,
    hashed, judged, rfl, rfl, rfl, signed⟩

theorem permitted_of_allowed
    (evaluated : evaluator.evaluate runtime evaluation = some decision)
    (allowed : decision.allowed = true) :
    ∃ definition effectiveScopes,
      evaluator.lookupDefinition (lookup evaluation.binding "capability_id")
        (lookup evaluation.binding "capability_version") =
          some (some definition) ∧
      evaluation.effectiveScopes = some effectiveScopes ∧
      evaluation.permitted runtime evaluator.rolloutVersion (some definition)
        effectiveScopes = .ok () := by
  obtain ⟨definition?, effective, _, _, found, scopedTo, _, _, judged,
    same, _⟩ := evaluate_eq_some evaluated
  rw [allowed, eq_comm, Option.isNone_iff_eq_none] at same
  subst same
  rw [denialReason_eq_none_iff] at judged
  cases definition? with
  | none =>
      simp only [Evaluation.permitted, bind_eq_ok] at judged
      obtain ⟨_, _, impossible⟩ := judged
      cases impossible
  | some definition => exact ⟨definition, effective, found, scopedTo, judged⟩

theorem decision_eq_of_allowed {first second : Evaluation}
    (binding : first.binding = second.binding)
    (live : first.live = second.live) {decision later : Decision}
    (evaluated : evaluator.evaluate runtime first = some decision)
    (evaluatedLater : evaluator.evaluate runtime second = some later)
    (allowed : decision.allowed = true) (allowedLater : later.allowed = true) :
    decision = later := by
  obtain ⟨_, _, _, _, _, effective, bound, hashed, _, same, reason,
    _, signed⟩ := evaluate_eq_some evaluated
  obtain ⟨_, _, _, _, _, effectiveLater, boundLater, hashedLater, _,
    sameLater, reasonLater, _, signedLater⟩ :=
      evaluate_eq_some evaluatedLater
  rw [allowed, eq_comm, Option.isNone_iff_eq_none] at same
  rw [allowedLater, eq_comm, Option.isNone_iff_eq_none] at sameLater
  subst same sameLater
  unfold Evaluation.effectiveScopes at effective effectiveLater
  unfold Evaluation.boundScopes at bound boundLater
  rw [live, effectiveLater, Option.some.injEq] at effective
  rw [binding, boundLater, Option.some.injEq] at bound
  unfold Evaluation.normalized Evaluation.profile at hashed hashedLater
  rw [binding, effective.symm, bound.symm, hashedLater, Option.some.injEq]
    at hashed
  rw [allowed, reason, ← hashed] at signed
  rw [allowedLater, reasonLater, signed, Option.some.injEq] at signedLater
  cases decision
  cases later
  simp_all

structure Permits (runtime : Runtime) (rolloutVersion : String)
    (evaluation : Evaluation) (definition : TrustedCapabilityDefinition)
    (effectiveScopes : List Value) : Prop where
  complete : evaluation.complete = .ok ()
  authority : evaluation.authority definition = .ok ()
  capability : evaluation.capability runtime rolloutVersion definition = .ok ()
  credential : evaluation.credential runtime = .ok ()
  scopes : evaluation.scopes definition effectiveScopes = .ok ()
  slackConnect : lookup evaluation.binding "slack_connect" = .bool false
  dataEgress : lookup evaluation.binding "data_egress" = .bool false
  approval : definition.effect = .write → evaluation.approval runtime = .ok ()

variable {definition : TrustedCapabilityDefinition}
  {effectiveScopes : List Value}

theorem permitted_iff {rolloutVersion : String} :
    evaluation.permitted runtime rolloutVersion (some definition)
        effectiveScopes = .ok () ↔
      Permits runtime rolloutVersion evaluation definition effectiveScopes := by
  simp only [Evaluation.permitted, bind_eq_ok, demand_eq_ok, beq_iff_eq]
  constructor
  · rintro ⟨_, complete, _, authority, _, capability, _, credential, _,
      scopes, _, slackConnect, _, dataEgress, approval⟩
    refine ⟨complete, authority, capability, credential, scopes, slackConnect,
      dataEgress, fun write => ?_⟩
    rw [if_pos write] at approval
    exact approval
  · rintro ⟨complete, authority, capability, credential, scopes, slackConnect,
      dataEgress, approval⟩
    refine ⟨(), complete, (), authority, (), capability, (), credential, (),
      scopes, (), slackConnect, (), dataEgress, ?_⟩
    split
    · rename_i write
      exact approval write
    · rfl

def Evaluation.Genuine (read : String → Option ℚ) (evaluation : Evaluation) :
    Prop :=
  (Value.dict evaluation.binding).Genuine read ∧
    (Value.dict evaluation.live).Genuine read

def Same (left right : Value) : Prop := left.sortKeys = right.sortKeys

theorem hash_inj (injective : Function.Injective runtime.sha256)
    {first second : Value} (firstGenuine : first.Genuine runtime.float)
    (secondGenuine : second.Genuine runtime.float) {digest : String}
    (hashed : runtime.hash first = some digest)
    (alsoHashed : runtime.hash second = some digest) : Same first second := by
  obtain ⟨_, dumped, rfl⟩ := Option.map_eq_some_iff.mp hashed
  obtain ⟨_, alsoDumped, same⟩ := Option.map_eq_some_iff.mp alsoHashed
  rw [injective same] at alsoDumped
  exact Value.sortKeys_of_dumps_eq firstGenuine secondGenuine dumped alsoDumped

variable {read : String → Option ℚ}

theorem lookupOr_genuine {items : Items}
    (genuine : (Value.dict items).Genuine read) (key : String) {default : Value}
    (plain : default.Genuine read) :
    (lookupOr items key default).Genuine read := by
  unfold lookupOr
  cases found : get? items key with
  | none => exact plain
  | some value =>
      have looked : lookup items key = value := by simp [lookup, found]
      rw [Option.getD_some, ← looked]
      exact Value.all_lookup trivial genuine key

theorem sortedSet?_genuine {value : Value} (genuine : value.Genuine read)
    {sorted : List Value} (sorts : value.sortedSet? = some sorted) :
    (Value.list sorted).Genuine read := by
  obtain ⟨_, listed, inside⟩ := Value.mem_sortedSet? sorts
  have each := Value.all_listOr? (fun _ => trivial) genuine listed
  exact Value.allItems_iff.mpr fun item member =>
    Value.allItems_iff.mp each item (inside item member).1

theorem normalized_genuine (genuine : evaluation.Genuine read)
    (rolloutVersion : String) {boundScopes : List Value}
    (bound : evaluation.boundScopes = some boundScopes)
    (effective : evaluation.effectiveScopes = some effectiveScopes) :
    (Value.dict (evaluation.normalized rolloutVersion boundScopes
      effectiveScopes)).Genuine read := by
  have looked : ∀ key, (lookup evaluation.binding key).Genuine read :=
    Value.all_lookup trivial genuine.1
  have chosen : ∀ key default, default.Genuine read →
      (lookupOr evaluation.binding key default).Genuine read :=
    fun key _ plain => lookupOr_genuine genuine.1 key plain
  have boundGenuine := sortedSet?_genuine (looked "bound_scopes") bound
  have effectiveGenuine := sortedSet?_genuine
    (Value.all_lookup trivial genuine.2 "granted_scopes") effective
  refine Value.allPairs_iff.mpr fun item member => ?_
  simp only [Evaluation.normalized, List.mem_cons, List.not_mem_nil, or_false]
    at member
  rcases member with rfl | rfl | rfl | rfl | rfl | rfl | rfl | rfl | rfl | rfl |
    rfl | rfl | rfl | rfl | rfl | rfl | rfl | rfl | rfl | rfl | rfl | rfl |
    rfl | rfl
  all_goals first
    | exact looked _
    | exact boundGenuine
    | exact effectiveGenuine
    | exact chosen _ _ trivial
    | trivial

def boundFields : List String :=
  ["tenant_id", "user_principal_id", "connection_id", "authority_profile_id",
    "slack_subject_id", "provider_account_id", "capability_id",
    "capability_version", "descriptor_snapshot_hash", "effect",
    "credential_id", "credential_version", "plan_graph_hash",
    "workflow_revision_id", "step_id", "attempt", "approval_payload_hash",
    "approval_expires_at"]

structure SameAuthority (first second : Evaluation) : Prop where
  fields : ∀ field ∈ boundFields,
    Same (lookup first.binding field) (lookup second.binding field)
  profile : Same first.profile second.profile
  boundScopes : ∃ scopes, first.boundScopes = some scopes ∧
    second.boundScopes = some scopes
  effectiveScopes : ∃ scopes, first.effectiveScopes = some scopes ∧
    second.effectiveScopes = some scopes
  payloadHash : (lookup first.binding "effect").isText "write" = true →
    same (lookup first.binding "payload_hash")
      (lookup second.binding "payload_hash") = true

theorem sameList {first second : List Value}
    (hashed : ∀ item ∈ first, item.hashable = true)
    (alsoHashed : ∀ item ∈ second, item.hashable = true)
    (lists : Same (.list first) (.list second)) : first = second := by
  unfold Same at lists
  rw [Value.sortKeys, Value.sortKeys,
    Value.sortKeysItems_of_hashable hashed,
    Value.sortKeysItems_of_hashable alsoHashed] at lists
  exact Value.list.inj lists

theorem sortedSet?_hashable {value : Value} {sorted : List Value}
    (sorts : value.sortedSet? = some sorted) :
    ∀ item ∈ sorted, item.hashable = true := by
  obtain ⟨_, _, inside⟩ := Value.mem_sortedSet? sorts
  exact fun item member => (inside item member).2

theorem decided_inj {allowed other : Bool}
    {reason reasonToo version versionToo inputHash inputHashToo : String}
    (decisions : Same (.dict (decided allowed reason version inputHash))
      (.dict (decided other reasonToo versionToo inputHashToo))) :
    inputHash = inputHashToo := by
  have items := Value.lookup_of_sortKeys_eq decisions "input_hash"
  change Value.sortKeys (.str inputHash) =
    Value.sortKeys (.str inputHashToo) at items
  rw [Value.sortKeys, Value.sortKeys] at items
  exact Value.str.inj items

theorem Permits.payload {rolloutVersion : String}
    (permits : Permits runtime rolloutVersion evaluation definition
      effectiveScopes)
    (write : (lookup evaluation.binding "effect").isText "write" = true) :
    same (lookup evaluation.binding "approval_payload_hash")
      (lookup evaluation.binding "payload_hash") = true := by
  have capability := permits.capability
  simp only [Evaluation.capability, bind_eq_ok, demand_eq_ok] at capability
  obtain ⟨_, _, _, _, _, _, _, _, _, _, _, _, _, effect, _⟩ := capability
  rw [Value.isText_iff] at write effect
  have writes : definition.effect = .write := by
    rw [write] at effect
    cases own : definition.effect with
    | write => rfl
    | read =>
        rw [own] at effect
        exact absurd effect (by decide)
  have approved := permits.approval writes
  simp only [Evaluation.approval, bind_eq_ok, demand_eq_ok] at approved
  obtain ⟨_, _, _, payload, _⟩ := approved
  exact payload

theorem sameAuthority_of_decisionHash
    (injective : Function.Injective runtime.sha256)
    {firstEvaluator secondEvaluator : PolicyEvaluator}
    {first second : Evaluation} (firstGenuine : first.Genuine runtime.float)
    (secondGenuine : second.Genuine runtime.float)
    {firstDecision secondDecision : Decision}
    (evaluated : firstEvaluator.evaluate runtime first = some firstDecision)
    (alsoEvaluated :
      secondEvaluator.evaluate runtime second = some secondDecision)
    (allowed : firstDecision.allowed = true)
    (alsoAllowed : secondDecision.allowed = true)
    (sameHash : firstDecision.decisionHash = secondDecision.decisionHash) :
    SameAuthority first second := by
  obtain ⟨_, _, _, _, permitted⟩ := permitted_of_allowed evaluated allowed
  obtain ⟨_, _, _, _, alsoPermitted⟩ :=
    permitted_of_allowed alsoEvaluated alsoAllowed
  obtain ⟨_, firstScopes, firstBound, _, _, firstEffective, firstBoundTo,
    firstHashed, _, _, _, _, firstSigned⟩ := evaluate_eq_some evaluated
  obtain ⟨_, _, _, _, _, secondEffective, secondBoundTo,
    secondHashed, _, _, _, _, secondSigned⟩ := evaluate_eq_some alsoEvaluated
  have decisions := hash_inj injective (by simp [Value.All, Value.AllPairs,
    decided, GenuineLeaf]) (by simp [Value.All, Value.AllPairs, decided,
    GenuineLeaf]) firstSigned (sameHash ▸ secondSigned)
  have inputs := decided_inj decisions
  have normalized := hash_inj injective
    (normalized_genuine firstGenuine _ firstBoundTo firstEffective)
    (normalized_genuine secondGenuine _ secondBoundTo secondEffective)
    firstHashed (inputs ▸ secondHashed)
  have item := Value.lookup_of_sortKeys_eq normalized
  have fields : ∀ field ∈ boundFields,
      Same (lookup first.binding field) (lookup second.binding field) := by
    intro field member
    simp only [boundFields, List.mem_cons, List.not_mem_nil, or_false] at member
    rcases member with rfl | rfl | rfl | rfl | rfl | rfl | rfl | rfl | rfl |
      rfl | rfl | rfl | rfl | rfl | rfl | rfl | rfl | rfl
    · exact item "tenant_id"
    · exact item "principal_id"
    · exact item "connection_id"
    · exact item "authority_profile_id"
    · exact item "slack_subject_id"
    · exact item "provider_account_id"
    · exact item "capability_id"
    · exact item "capability_version"
    · exact item "descriptor_snapshot_hash"
    · exact item "effect"
    · exact item "credential_id"
    · exact item "credential_version"
    · exact item "plan_graph_hash"
    · exact item "workflow_revision_id"
    · exact item "step_id"
    · exact item "attempt"
    · exact item "approval_payload_hash"
    · exact item "approval_expires_at"
  refine ⟨fields, item "authority_profile", ?_, ?_, ?_⟩
  · have lists := sameList (sortedSet?_hashable firstBoundTo)
      (sortedSet?_hashable secondBoundTo) (item "bound_scopes")
    exact ⟨firstBound, firstBoundTo, lists ▸ secondBoundTo⟩
  · have lists := sameList (sortedSet?_hashable firstEffective)
      (sortedSet?_hashable secondEffective) (item "effective_scopes")
    exact ⟨firstScopes, firstEffective, lists ▸ secondEffective⟩
  · intro write
    have effects := fields "effect" (by decide)
    have alsoWrite :
        (lookup second.binding "effect").isText "write" = true := by
      rw [Value.isText_iff] at write ⊢
      unfold Same at effects
      rw [write, eq_comm, Value.sortKeys, Value.sortKeys_eq_str_iff] at effects
      exact effects
    have payload := (permitted_iff.mp permitted).payload write
    have alsoPayload := (permitted_iff.mp alsoPermitted).payload alsoWrite
    have approvals := fields "approval_payload_hash" (by decide)
    unfold same at payload alsoPayload ⊢
    unfold Same at approvals
    rw [← approvals] at alsoPayload
    exact Value.equals_of_equals (Value.equals_symm payload)
      (Value.equals_symm alsoPayload)

end AcpTask.Policy
