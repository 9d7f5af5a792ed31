import AcpTask.ControlPlane.Plane

namespace AcpTask.ControlPlane

open Data

namespace TenantControlPlane

variable (plane : TenantControlPlane)

def Stopped (state : ControlPlaneState) (capabilityId : Value) : Prop :=
  state.emergencyStop = true ∨
    plane.familiesFor capabilityId ≠ [] ∧
      ∀ family ∈ plane.familiesFor capabilityId,
        state.familyEnabled family = false

/-- What the binding itself says does not lift the stop: it does not call itself
a recovery, nor its effect a read, unless it comes in while the tenant is
stopped; and where only the capability is stopped its sender can be looked
up. -/
def HonestBinding (state : ControlPlaneState) (binding : Value) : Prop :=
  ¬ (Value.lookup (fields binding) "control_plane_purpose").isText "recovery" ∧
    if state.emergencyStop then
      ¬ (Value.lookup (fields binding) "effect").isText "read" ∨
        (Value.lookup (fields binding) "control_plane_purpose").isText "inbound"
    else
      ¬ (Value.lookup (fields binding) "effect").isText "read" ∧
        (Value.lookup (fields binding) "sender_id").hashable

def Denies (answer : Option ControlDecision) : Prop :=
  ∃ decision, answer = some decision ∧ decision.allowed = false

theorem isText_orElse (value : Value) {text default : String}
    (named : text ≠ "") (other : default ≠ text) :
    (value.orElse (.str default)).isText text = value.isText text := by
  unfold Value.orElse
  split
  · rfl
  · rename_i falsy
    cases value with
    | str own =>
        have empty : own = "" := by simpa [Value.truthy] using falsy
        simp [Value.isText, empty, other, named.symm]
    | _ => simp [Value.isText, other]

theorem effectFor_write_iff {plane : TenantControlPlane} {capabilityId : Value}
    (catalogued : plane.cataloguedEffect capabilityId = .write)
    (effect : Value) :
    plane.effectFor capabilityId effect = .write ↔
      ¬ effect.isText "read" = true := by
  cases effect with
  | str text =>
      by_cases read : text = "read"
      · subst read
        simp [effectFor, Value.asStr?, effectOf?, Value.isText]
      · by_cases write : text = "write"
        · subst write
          simp [effectFor, Value.asStr?, effectOf?, Value.isText]
        · simp [effectFor, Value.asStr?, effectOf?, Value.isText, read, write,
            catalogued]
  | _ => simpa [effectFor, Value.asStr?, Value.isText] using catalogued

theorem judgeFamilies_off {state : ControlPlaneState} {families : List String}
    (admitted : families ≠ [])
    (off : ∀ family ∈ families, state.familyEnabled family = false) :
    judgeFamilies state families =
      deniedFor familyDisabled ((sorted families).headD "") := by
  have noneOn : families.any state.familyEnabled = false := by
    simpa using off
  simp [judgeFamilies, noneOn, admitted]

theorem judge_stopped_denies_iff (library : StandardLibrary)
    {state : ControlPlaneState} {families : List String}
    (stopped : state.emergencyStop = true ∨
      families ≠ [] ∧ ∀ family ∈ families, state.familyEnabled family = false)
    (effect : Effect) (purpose senderId : Value) :
    Denies (judge library (some state) effect purpose senderId families) ↔
      if state.emergencyStop then
        effect = .write ∨ purpose.isText "inbound" = true
      else effect = .write ∧ senderId.hashable = true := by
  cases emergency : state.emergencyStop with
  | true =>
      by_cases caught : purpose.isText "inbound" = true ∨ effect = .write
      · have answer : judge library (some state) effect purpose senderId
            families = some (denied emergencyStop) := by
          simp only [judge, emergency, true_and, if_pos caught]
        exact iff_of_true ⟨_, answer, rfl⟩ caught.symm
      · have answer : judge library (some state) effect purpose senderId
            families = some .allow := by
          rw [not_or] at caught
          simp [judge, emergency, caught.1, caught.2]
        refine iff_of_false ?_ (fun denies => caught denies.symm)
        rintro ⟨_, given, refused⟩
        rw [answer, Option.some.injEq] at given
        subst given
        cases refused
  | false =>
      obtain ⟨admitted, off⟩ := stopped.resolve_left (by simp [emergency])
      have families := judgeFamilies_off admitted off
      by_cases write : effect = .write
      · simp only [Denies, judge, emergency, write, families]
        by_cases anonymous : senderId = .none
        · simp [anonymous, Value.hashable, deniedFor, denied]
        · cases hashable : senderId.hashable with
          | false => simp [anonymous]
          | true =>
              cases enabled : state.senderEnabled senderId <;>
                simp [anonymous, deniedFor, denied]
      · simp [Denies, judge, emergency, write, ControlDecision.allow]

/-- A stopped tenant's write is denied exactly when the binding is honest about
it. -/
theorem stopped_write_denied_iff (library : StandardLibrary) (now : ℚ)
    (binding : Value) (state : ControlPlaneState)
    (consulted : (plane.state now
      (Value.lookup (fields binding) "tenant_id")).1 = some (some state))
    (stopped : plane.Stopped state
      (Value.lookup (fields binding) "capability_id"))
    (catalogued : plane.cataloguedEffect
      (Value.lookup (fields binding) "capability_id") = .write) :
    Denies (plane.decideBinding library now binding).1 ↔
      HonestBinding state binding := by
  have recovery := isText_orElse
    (Value.lookup (fields binding) "control_plane_purpose")
    (show "recovery" ≠ "" by decide) (show "dispatch" ≠ "recovery" by decide)
  have inbound := isText_orElse
    (Value.lookup (fields binding) "control_plane_purpose")
    (show "inbound" ≠ "" by decide) (show "dispatch" ≠ "inbound" by decide)
  unfold decideBinding HonestBinding TenantControlPlane.decide
  simp only [recovery]
  by_cases recovers : (Value.lookup (fields binding)
      "control_plane_purpose").isText "recovery" = true
  · simp [recovers, Denies, ControlDecision.allow]
  · rw [if_neg recovers, consulted, Option.bind_some,
      judge_stopped_denies_iff library stopped, inbound,
      effectFor_write_iff catalogued]
    simp [recovers]

def stoppedPlane : TenantControlPlane :=
  buildTenantControlPlane
    (some fun tenantId => some { emergencyStop := tenantId.isText "org:acme" })
    [⟨"slack.message.send", "write"⟩] (some [])

def plainLibrary : StandardLibrary where
  str value := value.asStr?.getD ""
  int _ := none
  nfkd text := text
  combining _ := false
  lower text := text.toLower
  isSpace character := character.isWhitespace
  instant _ _ := none

def sendBinding : Value :=
  .dict [("tenant_id", .str "org:acme"),
    ("capability_id", .str "slack.message.send")]

theorem stopped_write_denied_iff_plain :
    Denies (stoppedPlane.decideBinding plainLibrary 0 sendBinding).1 ↔
      HonestBinding { emergencyStop := true } sendBinding :=
  stopped_write_denied_iff stoppedPlane plainLibrary 0 sendBinding
    { emergencyStop := true } (by decide +kernel) (.inl rfl)
    (by decide +kernel)

/-- The message goes out of a stopped account when its binding calls it a
read. -/
theorem stop_lifted_by_binding :
    ¬ ∀ (binding : Value) (state : ControlPlaneState),
      (stoppedPlane.state 0
        (Value.lookup (fields binding) "tenant_id")).1 = some (some state) →
      stoppedPlane.Stopped state
        (Value.lookup (fields binding) "capability_id") →
      stoppedPlane.cataloguedEffect
        (Value.lookup (fields binding) "capability_id") = .write →
      Denies (stoppedPlane.decideBinding plainLibrary 0 binding).1 := by
  intro denies
  obtain ⟨_, answer, refused⟩ := denies
    (.dict [("tenant_id", .str "org:acme"),
      ("capability_id", .str "slack.message.send"), ("effect", .str "read")])
    { emergencyStop := true } (by decide +kernel) (.inl rfl)
    (by decide +kernel)
  have allowed : (stoppedPlane.decideBinding plainLibrary 0
      (.dict [("tenant_id", .str "org:acme"),
        ("capability_id", .str "slack.message.send"),
        ("effect", .str "read")])).1 = some .allow := by decide +kernel
  rw [allowed, Option.some.injEq] at answer
  subst answer
  cases refused

end TenantControlPlane

end AcpTask.ControlPlane
