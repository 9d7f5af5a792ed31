import AcpTask.ControlPlane.Switches

namespace AcpTask.ControlPlane

open Data Library

inductive Switch where
  | family (family : String)
  | sender (senderId : String)

namespace Switch

def isOn (state : ControlPlaneState) : Switch → Bool
  | family name => state.familyEnabled name
  | sender senderId => state.senderEnabled (.str senderId)

def set (tenantId : String) (enabled : Bool) : Switch → TenantCall
  | family name => .setCapabilityFamilyEnabled tenantId name enabled
  | sender senderId => .setControlPlaneSenderEnabled tenantId senderId enabled

def enableOn (key : ConnectionKey) : Switch → AccountCall
  | family name => .setFamilyEnabled key name true
  | sender senderId => .setSenderEnabled key senderId true

end Switch

namespace TenantControlPlane

/-- `(family,) if family else self._families_for(capability_id)`. -/
def consultedFamilies (plane : TenantControlPlane) (capabilityId : Value) :
    Option String → List String
  | some name => if name = "" then plane.familiesFor capabilityId else [name]
  | none => plane.familiesFor capabilityId

theorem decide_eq (plane : TenantControlPlane) (library : StandardLibrary)
    (now : ℚ) (tenantId capabilityId effect purpose : Value)
    (family : Option String) (senderId : Value)
    (live : purpose.isText "recovery" = false) :
    (plane.decide library now tenantId capabilityId effect purpose family
      senderId).1 =
      (plane.state now tenantId).1.bind fun state =>
        judge library state (plane.effectFor capabilityId effect) purpose
          senderId (plane.consultedFamilies capabilityId family) := by
  unfold TenantControlPlane.decide consultedFamilies
  rw [live]
  cases family with
  | none | some => rfl

def Uses (plane : TenantControlPlane) (capabilityId senderId : Value)
    (family : Option String) : Switch → Prop
  | .family name => plane.consultedFamilies capabilityId family = [name] ∧
      senderId.hashable = true
  | .sender name => senderId = .str name

end TenantControlPlane

/-- The switch is reported off, and no gate that reads the state lets a send
through. -/
structure Off (state : ControlPlaneState) (switch : Switch) : Prop where
  reported : switch.isOn state = false
  denied : ∀ (plane : TenantControlPlane) (library : StandardLibrary) (now : ℚ)
    (tenantId capabilityId effect purpose : Value) (family : Option String)
    (senderId : Value),
    (plane.state now tenantId).1 = some (some state) →
    purpose.isText "recovery" = false →
    plane.effectFor capabilityId effect = .write →
    plane.Uses capabilityId senderId family switch →
    TenantControlPlane.Denies (plane.decide library now tenantId capabilityId
      effect purpose family senderId).1

theorem judge_off (library : StandardLibrary) {state : ControlPlaneState}
    {plane : TenantControlPlane} {capabilityId senderId : Value}
    {family : Option String} {switch : Switch}
    (off : switch.isOn state = false)
    (uses : plane.Uses capabilityId senderId family switch)
    (purpose : Value) :
    TenantControlPlane.Denies (TenantControlPlane.judge library (some state)
      .write purpose senderId
      (plane.consultedFamilies capabilityId family)) := by
  cases switch with
  | family =>
      obtain ⟨admitted, hashable⟩ := uses
      have stopped : state.emergencyStop = true ∨
          plane.consultedFamilies capabilityId family ≠ [] ∧
            ∀ other ∈ plane.consultedFamilies capabilityId family,
              state.familyEnabled other = false := by
        rw [admitted]
        refine .inr ⟨List.cons_ne_nil _ _, fun other member => ?_⟩
        rw [List.mem_singleton.mp member]
        exact off
      rw [TenantControlPlane.judge_stopped_denies_iff library stopped]
      split
      · exact .inl rfl
      · exact ⟨rfl, hashable⟩
  | sender name =>
      have named : senderId = .str name := uses
      subst named
      have disabled : state.senderEnabled (.str name) = false := off
      unfold TenantControlPlane.judge
      cases emergency : state.emergencyStop with
      | true => exact ⟨denied emergencyStop, by simp [emergency], rfl⟩
      | false =>
          refine ⟨deniedFor senderDisabled (library.str (.str name)), ?_, rfl⟩
          simp [Value.hashable, emergency, disabled]

theorem off_iff {state : ControlPlaneState} {switch : Switch} :
    Off state switch ↔ switch.isOn state = false := by
  refine ⟨Off.reported, fun off => ⟨off, ?_⟩⟩
  intro plane library now tenantId capabilityId effect purpose family senderId
    consulted live write uses
  rw [plane.decide_eq library now tenantId capabilityId effect purpose family
    senderId live, consulted, Option.bind_some, write]
  exact judge_off library off uses purpose

theorem mem_of_switchedOn {switches : List (String × Bool)} {name : String}
    (on : switchedOn switches name = true) : (name, true) ∈ switches := by
  rw [switchedOn, beq_iff_eq] at on
  obtain ⟨_, _, split, _⟩ := List.lookup_eq_some_iff.mp on
  rw [← List.mem_reverse, split]
  exact List.mem_append_right _ List.mem_cons_self

abbrev LocalEvent := TenantCall × Except AccountError SwitchResult

namespace LocalEvent

def Disables (tenantId : String) (switch : Switch) (event : LocalEvent) :
    Prop :=
  event.1 = switch.set tenantId false ∧ event.2.isOk = true

def Enables (tenantId : String) (switch : Switch) (event : LocalEvent) :
    Prop :=
  event.1 = switch.set tenantId true

end LocalEvent

abbrev LocalLog :=
  Logged LocalSwitches TenantCall (Except AccountError SwitchResult)

def LocalLog.Obeyed (logged : LocalLog) : Prop :=
  ∀ tenantId switch, InForce (LocalEvent.Disables tenantId switch)
    (LocalEvent.Enables tenantId switch) logged.log →
      Off (logged.state.readState tenantId) switch

namespace LocalSwitches

variable {store : LocalSwitches}

def Held (switches : Table LocalSwitch LocalSwitch.key) (key : SwitchKey) :
    Prop :=
  ∃ row ∈ switches, row.key = key ∧ row.enabled = true

def IsEnabled (store : LocalSwitches) (tenantId : String) : Switch → Prop
  | .family name => Held store.families ⟨tenantId, name⟩
  | .sender senderId => Held store.senders ⟨tenantId, senderId⟩

theorem held_of_switchedOn {switches : Table LocalSwitch LocalSwitch.key}
    {tenantId name : String}
    (on : switchedOn (switchesOf switches tenantId) name = true) :
    Held switches ⟨tenantId, name⟩ := by
  have listed := mem_of_switchedOn on
  simp only [switchesOf, List.mem_map, List.mem_filter, beq_iff_eq] at listed
  obtain ⟨row, ⟨member, tenant⟩, same⟩ := listed
  obtain ⟨named, enabled⟩ := Prod.mk.inj same
  refine ⟨row, member, ?_, enabled⟩
  rw [← tenant, ← named]

theorem isOn_eq_false {tenantId : String} {switch : Switch}
    (disabled : ¬ store.IsEnabled tenantId switch) :
    switch.isOn (store.readState tenantId) = false := by
  rw [← Bool.not_eq_true]
  intro on
  cases switch with
  | family | sender => exact disabled (held_of_switchedOn on)

theorem held_setSwitch {switches : Table LocalSwitch LocalSwitch.key}
    {key other : SwitchKey} {enabled : Bool}
    (held : Held (setSwitch switches key enabled) other) :
    (other = key ∧ enabled = true) ∨ (other ≠ key ∧ Held switches other) := by
  obtain ⟨row, member, same, on⟩ := held
  rcases Table.mem_upsert.mp member with written | ⟨apart, old⟩
  · left
    cases found : switches.find? key with
    | none =>
        rw [found] at written
        subst written
        exact ⟨same.symm, on⟩
    | some =>
        rw [found] at written
        subst written
        exact ⟨same.symm.trans (Table.find?_eq_some_iff.mp found).2, on⟩
  · refine .inr ⟨?_, row, old, same, on⟩
    rw [← same]
    exact apart

def after (store : LocalSwitches) : TenantCall → LocalSwitches
  | .setCapabilityFamilyEnabled tenantId family enabled =>
      { store with
        families := setSwitch store.families ⟨tenantId, family⟩ enabled }
  | .setControlPlaneSenderEnabled tenantId senderId enabled =>
      { store with
        senders := setSwitch store.senders ⟨tenantId, senderId⟩ enabled }
  | .setEmergencyStop tenantId active _ =>
      { store with stops := setStopped store.stops tenantId active }

theorem call_ok {call : TenantCall} {result : SwitchResult}
    {next : LocalSwitches} (committed : store.call call = .ok (result, next)) :
    next = store.after call := by
  cases call with
  | setCapabilityFamilyEnabled | setControlPlaneSenderEnabled =>
      obtain ⟨_, _, committed⟩ := bind_eq_ok.mp committed
      obtain ⟨_, _, committed⟩ := bind_eq_ok.mp committed
      obtain ⟨_, _, committed⟩ := bind_eq_ok.mp committed
      cases committed
      rfl
  | setEmergencyStop =>
      obtain ⟨_, _, committed⟩ := bind_eq_ok.mp committed
      obtain ⟨_, _, committed⟩ := bind_eq_ok.mp committed
      cases committed
      rfl

theorem isEnabled_after {call : TenantCall} {tenantId : String}
    {switch : Switch} (enabled : (store.after call).IsEnabled tenantId switch) :
    call = switch.set tenantId true ∨
      (call ≠ switch.set tenantId false ∧ store.IsEnabled tenantId switch) := by
  cases switch with
  | family =>
      cases call with
      | setCapabilityFamilyEnabled =>
          rcases held_setSwitch enabled with ⟨same, rfl⟩ | ⟨apart, before⟩
          · cases same
            exact .inl rfl
          · refine .inr ⟨?_, before⟩
            intro same
            cases same
            exact apart rfl
      | setControlPlaneSenderEnabled _ _ _ | setEmergencyStop _ _ _ =>
          exact .inr ⟨fun same => (by cases same), enabled⟩
  | sender =>
      cases call with
      | setControlPlaneSenderEnabled =>
          rcases held_setSwitch enabled with ⟨same, rfl⟩ | ⟨apart, before⟩
          · cases same
            exact .inl rfl
          · refine .inr ⟨?_, before⟩
            intro same
            cases same
            exact apart rfl
      | setCapabilityFamilyEnabled _ _ _ | setEmergencyStop _ _ _ =>
          exact .inr ⟨fun same => (by cases same), enabled⟩

end LocalSwitches

def LocalLog.Kept (logged : LocalLog) : Prop :=
  ∀ tenantId switch, InForce (LocalEvent.Disables tenantId switch)
    (LocalEvent.Enables tenantId switch) logged.log →
      ¬ logged.state.IsEnabled tenantId switch

theorem LocalLog.kept_step {logged : LocalLog} (kept : logged.Kept)
    (call : TenantCall) : LocalLog.Kept (logStep localStep logged call) := by
  intro tenantId switch ordered enabled
  cases outcome : logged.state.call call with
  | error error =>
      have step : logStep localStep logged call =
          ⟨logged.state, (call, .error error) :: logged.log⟩ := by
        simp [logStep, localStep, transaction, outcome]
      rw [step] at ordered enabled
      rcases inForce_cons_iff.mp ordered with ⟨_, ok⟩ | ⟨_, before⟩
      · cases ok
      · exact kept tenantId switch before enabled
  | ok committed =>
      have step : logStep localStep logged call = ⟨committed.2,
          (call, .ok committed.1) :: logged.log⟩ := by
        simp [logStep, localStep, transaction, outcome]
      rw [step] at ordered enabled
      rw [LocalSwitches.call_ok outcome] at enabled
      rcases LocalSwitches.isEnabled_after enabled with lifted | ⟨other, before⟩
      · rcases inForce_cons_iff.mp ordered with ⟨disabled, _⟩ | ⟨unlifted, _⟩
        · have same : switch.set tenantId true = switch.set tenantId false :=
            lifted.symm.trans disabled
          cases switch <;> cases same
        · exact unlifted lifted
      · rcases inForce_cons_iff.mp ordered with ⟨disabled, _⟩ | ⟨_, earlier⟩
        · exact other disabled
        · exact kept tenantId switch earlier before

theorem LocalLog.obeyed_run (store : LocalSwitches)
    (calls : List TenantCall) :
    LocalLog.Obeyed (run (logStep localStep) ⟨store, []⟩ calls) := by
  have kept : LocalLog.Kept (run (logStep localStep) ⟨store, []⟩ calls) :=
    run_invariant _ LocalLog.Kept
      (fun _ call holds => LocalLog.kept_step holds call)
      (fun _ _ ordered => (not_inForce_nil _ _ ordered).elim) calls
  exact fun tenantId switch ordered => off_iff.mpr
    (LocalSwitches.isOn_eq_false (kept tenantId switch ordered))

end AcpTask.ControlPlane
