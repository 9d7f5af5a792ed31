import AcpTask.Policy.Binding

namespace AcpTask.Policy

open Data Library
open Data.Value (get? lookup)

def Narrows (narrower wider : Value) : Prop :=
  ∀ fewer items, narrower.listOr? = some fewer →
    wider.listOr? = some items → fewer ⊆ items

/-- The evaluations differ in the live scopes and capabilities only, of which
the one has no more than the other. -/
structure Shrinks (narrower wider : Evaluation) : Prop where
  binding : narrower.binding = wider.binding
  snapshot : narrower.snapshot = wider.snapshot
  now : narrower.now = wider.now
  live : ∀ key, key ≠ "granted_scopes" → key ≠ "enabled_capabilities" →
    get? narrower.live key = get? wider.live key
  granted : Narrows (lookup narrower.live "granted_scopes")
    (lookup wider.live "granted_scopes")
  enabled : Narrows (lookup narrower.live "enabled_capabilities")
    (lookup wider.live "enabled_capabilities")

variable {fewer items : List Value}

theorem contains_of_subset (subset : fewer ⊆ items) {value : Value}
    (inside : Value.contains fewer value = true) :
    Value.contains items value = true := by
  obtain ⟨item, member, equal⟩ := Value.contains_iff.mp inside
  exact Value.contains_iff.mpr ⟨item, subset member, equal⟩

/-- Of a set or a sorted set, what counts is the list it is made of. -/
theorem Narrows.contains {narrower wider : Value}
    (narrows : Narrows narrower wider)
    (narrow : ∃ few, narrower.listOr? = some few ∧
      ∀ value, Value.contains fewer value = Value.contains few value)
    (wide : ∃ all, wider.listOr? = some all ∧
      ∀ value, Value.contains items value = Value.contains all value)
    {value : Value} (inside : Value.contains fewer value = true) :
    Value.contains items value = true := by
  obtain ⟨few, fewListed, fewSame⟩ := narrow
  obtain ⟨all, allListed, allSame⟩ := wide
  rw [fewSame] at inside
  rw [allSame]
  exact contains_of_subset (narrows few all fewListed allListed) inside

namespace Shrinks

variable {narrower wider : Evaluation}

section Shrinks

variable (shrinks : Shrinks narrower wider)

include shrinks

theorem lookup_live (key : String)
    (notGranted : key ≠ "granted_scopes" := by decide)
    (notEnabled : key ≠ "enabled_capabilities" := by decide) :
    lookup narrower.live key = lookup wider.live key := by
  unfold lookup
  rw [shrinks.live key notGranted notEnabled]

theorem profile :
    narrower.profile = wider.profile := by
  unfold Evaluation.profile
  rw [shrinks.binding]

theorem liveProfile :
    narrower.liveProfile = wider.liveProfile := by
  unfold Evaluation.liveProfile lookupOr
  rw [shrinks.live _ (by decide) (by decide)]

theorem authority (definition : TrustedCapabilityDefinition) :
    narrower.authority definition = wider.authority definition := by
  have personal : narrower.personalAuthority = wider.personalAuthority := by
    unfold Evaluation.personalAuthority
    rw [shrinks.binding]
  have account : narrower.accountAuthority = wider.accountAuthority := by
    unfold Evaluation.accountAuthority
    rw [shrinks.binding, shrinks.snapshot,
      shrinks.lookup_live "provider_account_id",
      shrinks.lookup_live "account_status"]
  have snapshotProfile : narrower.snapshotProfile = wider.snapshotProfile := by
    unfold Evaluation.snapshotProfile
    rw [shrinks.snapshot]
  unfold Evaluation.authority
  rw [personal, account, shrinks.profile, shrinks.liveProfile,
    snapshotProfile, shrinks.binding, shrinks.snapshot,
    shrinks.lookup_live "tenant_id",
    shrinks.lookup_live "connection_id"]

theorem credential (runtime : Runtime) :
    narrower.credential runtime = wider.credential runtime := by
  unfold Evaluation.credential
  dsimp only
  rw [shrinks.binding, shrinks.snapshot,
    shrinks.lookup_live "credential_version",
    shrinks.lookup_live "credential_id"]

theorem approval (runtime : Runtime) :
    narrower.approval runtime = wider.approval runtime := by
  unfold Evaluation.approval
  rw [shrinks.binding, shrinks.now]

end Shrinks

variable {rolloutVersion : String} {definition : TrustedCapabilityDefinition}

section Shrinks2

variable (shrinks : Shrinks narrower wider)

include shrinks

theorem live_ne_nil {runtime : Runtime}
    (capable : narrower.capability runtime rolloutVersion definition = .ok ()) :
    wider.live ≠ [] := by
  intro none
  simp only [Evaluation.capability, bind_eq_ok, demand_eq_ok,
    Bool.and_eq_true] at capable
  obtain ⟨_, ⟨_, connected⟩, _⟩ := capable
  rw [shrinks.lookup_live "status", none, Value.isText_iff] at connected
  cases connected

theorem complete (some_ : wider.live ≠ [])
    (complete : narrower.complete = .ok ()) : wider.complete = .ok () := by
  simp only [Evaluation.complete, bind_eq_ok, demand_eq_ok, shrinks.binding,
    shrinks.snapshot, Bool.and_eq_true] at complete ⊢
  obtain ⟨done, fields, snapshot, _⟩ := complete
  exact ⟨done, fields, snapshot, by simpa using some_⟩

theorem capability {runtime : Runtime}
    (capable : narrower.capability runtime rolloutVersion definition = .ok ()) :
    wider.capability runtime rolloutVersion definition = .ok () ∨
      wider.capability runtime rolloutVersion definition = .error .raised := by
  simp only [Evaluation.capability, bind_eq_ok, demand_eq_ok, computed_eq_ok,
    shrinks.binding, shrinks.snapshot, shrinks.lookup_live "status"]
    at capable
  obtain ⟨_, healthy, _, rollout, _, id, _, version, enabled, narrow, _,
    inside, _, effect, descriptor, hashed, matched⟩ := capable
  cases wide : (lookup wider.live "enabled_capabilities").setOf? with
  | none =>
      refine .inr ?_
      simp only [Evaluation.capability, demand, require, computed, healthy,
        rollout, id, version, wide]
      rfl
  | some items =>
      refine .inl ?_
      simp only [Evaluation.capability, bind_eq_ok, demand_eq_ok,
        computed_eq_ok]
      exact ⟨(), healthy, (), rollout, (), id, (), version, items, wide, (),
        shrinks.enabled.contains (Value.contains_setOf? narrow)
          (Value.contains_setOf? wide) inside, (), effect, descriptor,
        hashed, matched⟩

theorem scopes {fewer items : List Value}
    (narrow : narrower.effectiveScopes = some fewer)
    (wide : wider.effectiveScopes = some items)
    (enough : narrower.scopes definition fewer = .ok ()) :
    wider.scopes definition items = .ok () := by
  have more : ∀ scope, Value.contains fewer scope = true →
      Value.contains items scope = true :=
    fun _ => shrinks.granted.contains
      (Value.contains_sortedSet? narrow) (Value.contains_sortedSet? wide)
  simp only [Evaluation.scopes, bind_eq_ok, demand_eq_ok, computed_eq_ok,
    shrinks.binding, shrinks.snapshot, shrinks.profile, Bool.and_eq_true,
    List.all_eq_true] at enough ⊢
  obtain ⟨snapshot, read, _, required, _, granted, bound, bounded, _, named,
    held, alsoHeld⟩ := enough
  exact ⟨snapshot, read, (), required, (),
    fun scope member => more _ (granted scope member), bound, bounded, (),
    named, held, fun scope member => more _ (alsoHeld scope member)⟩

theorem permitted {runtime : Runtime} {fewer items : List Value}
    (narrow : narrower.effectiveScopes = some fewer)
    (wide : wider.effectiveScopes = some items)
    (permits : Permits runtime rolloutVersion narrower definition fewer) :
    wider.permitted runtime rolloutVersion (some definition) items = .ok () ∨
      wider.permitted runtime rolloutVersion (some definition) items =
        .error .raised := by
  have complete := shrinks.complete (shrinks.live_ne_nil permits.capability)
    permits.complete
  have authority := (shrinks.authority definition).symm.trans permits.authority
  rcases shrinks.capability permits.capability with capable | raised
  · refine .inl (permitted_iff.mpr ⟨complete, authority, capable, ?_, ?_, ?_,
      ?_, ?_⟩)
    · exact (shrinks.credential runtime).symm.trans permits.credential
    · exact shrinks.scopes narrow wide permits.scopes
    · rw [← shrinks.binding]
      exact permits.slackConnect
    · rw [← shrinks.binding]
      exact permits.dataEgress
    · intro write
      exact (shrinks.approval runtime).symm.trans (permits.approval write)
  · refine .inr ?_
    simp only [Evaluation.permitted, complete, authority, raised]
    rfl

end Shrinks2

end Shrinks

theorem denied_of_shrinks {runtime : Runtime} {evaluator : PolicyEvaluator}
    {narrower wider : Evaluation} (shrinks : Shrinks narrower wider)
    {decision later : Decision}
    (evaluated : evaluator.evaluate runtime wider = some decision)
    (denied : decision.allowed = false)
    (evaluatedLater : evaluator.evaluate runtime narrower = some later) :
    later.allowed = false := by
  rw [Bool.eq_false_iff]
  intro allowed
  obtain ⟨_, _, found, narrow, permitted⟩ :=
    permitted_of_allowed evaluatedLater allowed
  obtain ⟨_, _, _, _, foundToo, wide, _, _, judged, same,
    _, _⟩ := evaluate_eq_some evaluated
  rw [← shrinks.binding, found, Option.some.injEq] at foundToo
  subst foundToo
  rcases shrinks.permitted narrow wide (permitted_iff.mp permitted) with
    allows | raised
  · rw [denialReason_eq_none_iff.mpr allows, Option.some.injEq] at judged
    rw [← judged, denied] at same
    cases same
  · rw [raised] at judged
    cases judged

/-- Two allowed decisions with one hash are of one authority over one effect,
and losing authority turns no denial into an allowance. -/
theorem decisions_bind_authority {runtime : Runtime}
    (injective : Function.Injective runtime.sha256) :
    (∀ (firstEvaluator secondEvaluator : PolicyEvaluator)
      (first second : Evaluation) (firstDecision secondDecision : Decision),
      first.Genuine runtime.float → second.Genuine runtime.float →
      firstEvaluator.evaluate runtime first = some firstDecision →
      secondEvaluator.evaluate runtime second = some secondDecision →
      firstDecision.allowed = true → secondDecision.allowed = true →
      firstDecision.decisionHash = secondDecision.decisionHash →
      SameAuthority first second) ∧
    ∀ (evaluator : PolicyEvaluator) (narrower wider : Evaluation)
      (decision later : Decision), Shrinks narrower wider →
      evaluator.evaluate runtime wider = some decision →
      decision.allowed = false →
      evaluator.evaluate runtime narrower = some later →
      later.allowed = false :=
  ⟨fun _ _ _ _ _ _ genuine genuineToo evaluated evaluatedToo allowed
      allowedToo sameHash =>
    sameAuthority_of_decisionHash injective genuine genuineToo evaluated
      evaluatedToo allowed allowedToo sameHash,
    fun _ _ _ _ _ shrinks evaluated denied evaluatedLater =>
      denied_of_shrinks shrinks evaluated denied evaluatedLater⟩

def plainRuntime : Runtime := ⟨id, fun _ => none, fun _ => none⟩

def postMessage : TrustedCapabilityDefinition where
  capabilityId := "slack.post"
  version := "1"
  provider := "slack"
  inputSchema := .dict []
  outputSchema := .dict []
  requiredScopes := ["chat:write"]
  effect := .write
  risk := "low"
  retryPolicy := "none"
  previewFields := ["text"]
  verifier := none

def plainEvaluator : PolicyEvaluator := ⟨[postMessage], "rollout", "policy-v3"⟩

def plainBinding : Items :=
  [("tenant_id", .str "tenant"), ("user_principal_id", .str "principal"),
    ("connection_id", .str "connection"), ("capability_id", .str "slack.post"),
    ("capability_version", .str "1"),
    ("descriptor_snapshot_hash", .str
      ((descriptorHash plainRuntime postMessage).getD "")),
    ("effect", .str "write"), ("credential_id", .str "credential"),
    ("credential_version", .int 1), ("plan_graph_hash", .str "graph"),
    ("workflow_revision_id", .str "revision"), ("step_id", .str "step"),
    ("attempt", .int 1), ("approval_payload_hash", .str "payload"),
    ("approval_expires_at", .int 100), ("payload_hash", .str "payload"),
    ("slack_connect", .bool false), ("data_egress", .bool false)]

def plainSnapshot : Items :=
  [("tenant_id", .str "tenant"), ("connection_id", .str "connection"),
    ("capability_id", .str "slack.post"), ("capability_version", .str "1"),
    ("credential_version", .int 1),
    ("effective_scopes", .list [.str "chat:write"]),
    ("health", .str "healthy"), ("rollout_version", .str "rollout")]

def plainLive (grantedScopes : List String) : Items :=
  [("tenant_id", .str "tenant"), ("connection_id", .str "connection"),
    ("status", .str "connected"), ("credential_id", .str "credential"),
    ("credential_version", .int 1),
    ("granted_scopes", .list (grantedScopes.map .str)),
    ("enabled_capabilities", .list [.str "slack.post"])]

def plainEvaluation (grantedScopes : List String) (now : Int) :
    Evaluation where
  binding := plainBinding
  snapshot := plainSnapshot
  live := plainLive grantedScopes
  now := .int now

def plainAnswer (grantedScopes : List String) (now : Int) : Option Decision :=
  plainEvaluator.evaluate plainRuntime (plainEvaluation grantedScopes now)

theorem plainEvaluation_genuine (grantedScopes : List String) (now : Int) :
    (plainEvaluation grantedScopes now).Genuine plainRuntime.float := by
  constructor
  · simp [plainEvaluation, plainBinding, Value.All, Value.AllPairs,
      Value.GenuineLeaf]
  · simp only [plainEvaluation, plainLive, Value.All, Value.AllPairs,
      Value.GenuineLeaf, Value.allItems_iff, Value.AllItems, true_and,
      and_true]
    intro item member
    obtain ⟨_, _, rfl⟩ := List.mem_map.mp member
    trivial

theorem plainEvaluation_shrinks {fewer items : List String}
    (subset : fewer ⊆ items) (now : Int) :
    Shrinks (plainEvaluation fewer now) (plainEvaluation items now) where
  binding := rfl
  snapshot := rfl
  now := rfl
  live := by
    intro key notGranted _
    simp [plainEvaluation, plainLive, Value.get?_cons, notGranted.symm]
  granted := by
    change Narrows (.list (fewer.map .str)) (.list (items.map .str))
    intro few all fewListed allListed
    rw [Value.listOr?_list, Option.some.injEq] at fewListed allListed
    subst fewListed allListed
    exact List.map_subset _ subset
  enabled := by
    change Narrows (.list [.str "slack.post"]) (.list [.str "slack.post"])
    intro few all fewListed allListed
    rw [fewListed, Option.some.injEq] at allListed
    rw [allListed]
    exact List.Subset.refl _

theorem decisions_bind_plain :
    SameAuthority (plainEvaluation ["chat:write"] 5)
      (plainEvaluation ["chat:write"] 6) ∧
    (plainAnswer [] 5).map Decision.allowed = some false := by
  have binds := @decisions_bind_authority plainRuntime Function.injective_id
  constructor
  · have allows : (plainAnswer ["chat:write"] 5).map Decision.allowed =
        some true := by decide +kernel
    have allowsToo : (plainAnswer ["chat:write"] 6).map Decision.allowed =
        some true := by decide +kernel
    obtain ⟨first, evaluated, allowed⟩ := Option.map_eq_some_iff.mp allows
    obtain ⟨second, evaluatedToo, allowedToo⟩ :=
      Option.map_eq_some_iff.mp allowsToo
    exact binds.1 plainEvaluator plainEvaluator
      (plainEvaluation ["chat:write"] 5) (plainEvaluation ["chat:write"] 6)
      first second (plainEvaluation_genuine _ 5) (plainEvaluation_genuine _ 6)
      evaluated evaluatedToo allowed allowedToo
      (congrArg Decision.decisionHash (decision_eq_of_allowed rfl rfl evaluated
        evaluatedToo allowed allowedToo))
  · have wide : (plainAnswer ["chat:read"] 5).map Decision.allowed =
        some false := by decide +kernel
    have narrow : (plainAnswer [] 5).isSome = true := by decide +kernel
    obtain ⟨decision, evaluated, denied⟩ := Option.map_eq_some_iff.mp wide
    obtain ⟨later, evaluatedLater⟩ := Option.isSome_iff_exists.mp narrow
    rw [evaluatedLater, Option.map_some, Option.some.injEq]
    exact binds.2 plainEvaluator (plainEvaluation [] 5)
      (plainEvaluation ["chat:read"] 5) decision later
      (plainEvaluation_shrinks (List.nil_subset ["chat:read"]) 5) evaluated
      denied evaluatedLater

end AcpTask.Policy
