import AcpTask.ControlPlane.Spread

namespace AcpTask.ControlPlane

open Library

namespace AccountLog

variable {logged : AccountLog}

theorem obeyed_iff : logged.Obeyed ↔ ∀ tenantId switch,
    AccountEvent.Forbids logged.log tenantId switch →
      ¬ logged.state.IsEnabled tenantId switch := by
  refine forall_congr' fun tenantId => forall_congr' fun switch =>
    forall_congr' fun _ => ?_
  exact ProviderStore.off_readState_iff

theorem obeyed_cons (obeyed : logged.Obeyed) {next : ProviderStore}
    {event : AccountEvent}
    (quiet : ∀ tenantId switch, next.IsEnabled tenantId switch →
      logged.state.IsEnabled tenantId switch ∨ event.Enables tenantId switch)
    (off : ∀ tenantId switch, event.Disables tenantId switch →
      ¬ next.IsEnabled tenantId switch) :
    Obeyed ⟨next, event :: logged.log⟩ := by
  refine obeyed_iff.mpr fun tenantId switch forbids on => ?_
  rcases inForce_cons_iff.mp forbids with disables | ⟨unlifted, before⟩
  · exact off tenantId switch disables on
  · rcases quiet tenantId switch on with earlier | enables
    · exact obeyed_iff.mp obeyed tenantId switch before earlier
    · exact unlifted enables

theorem obeyed_family (obeyed : logged.Obeyed) (tenantId family : String)
    (enabled : Bool) : Obeyed (logStep accountStep logged
      (.tenant (.setCapabilityFamilyEnabled tenantId family enabled))) := by
  refine obeyed_cons obeyed ?_ ?_
  · intro tenant switch on
    rcases ProviderStore.isEnabled_of_setCapabilityFamily on with before |
      ⟨rfl, rfl, rfl⟩
    · exact .inl before
    · exact .inr (.inl rfl)
  · rintro tenant switch ⟨same, finished⟩ on
    cases switch with
    | sender => cases same
    | family =>
        cases same
        exact ProviderStore.setCapabilityFamily_false finished on

theorem obeyed_sender (obeyed : logged.Obeyed) (tenantId senderId : String)
    (enabled : Bool)
    (alone : enabled = false → (logged.state.setControlPlaneSenderEnabled
        tenantId senderId false).1.isOk = true →
      ¬ (logged.state.setControlPlaneSenderEnabled tenantId senderId
        false).2.IsEnabled tenantId (.sender senderId)) :
    Obeyed (logStep accountStep logged
      (.tenant (.setControlPlaneSenderEnabled tenantId senderId enabled))) := by
  refine obeyed_cons obeyed ?_ ?_
  · intro tenant switch on
    rcases ProviderStore.isEnabled_of_setControlPlaneSender on with before |
      ⟨rfl, rfl, rfl⟩
    · exact .inl before
    · exact .inr (.inl rfl)
  · rintro tenant switch ⟨same, finished⟩ on
    cases switch with
    | family => cases same
    | sender =>
        cases same
        exact alone rfl finished on

theorem obeyed_refused (obeyed : logged.Obeyed) {call : AccountCall}
    {error : AccountError}
    (refused : accountStep logged.state call = (.error error, logged.state)) :
    Obeyed (logStep accountStep logged call) := by
  unfold logStep
  rw [refused]
  refine obeyed_cons obeyed (fun _ _ on => .inl on) ?_
  rintro tenant switch ⟨_, finished⟩
  cases finished

theorem scopes_error {store : ProviderStore} {error : AccountError}
    (body : ProviderStore → Except AccountError (List String × ProviderStore))
    (raised : body store = .error error) :
    transaction store (fun store => scopesOf (body store)) =
      (.error error, store) := by
  simp [transaction, scopesOf, Except.map, raised]

theorem scopes_ok {store next : ProviderStore} {scopes : List String}
    (body : ProviderStore → Except AccountError (List String × ProviderStore))
    (done : body store = .ok (scopes, next)) :
    transaction store (fun store => scopesOf (body store)) =
      (.ok (.scopes scopes), next) := by
  simp [transaction, scopesOf, Except.map, done]

theorem obeyed_switched (obeyed : logged.Obeyed) (switch : Switch)
    {key : ConnectionKey} {enabled : Bool} {call : AccountCall}
    (body : ProviderStore → Except AccountError (List String × ProviderStore))
    (steps : accountStep logged.state call =
      transaction logged.state fun store => scopesOf (body store))
    (named : enabled = true → call = switch.enableOn key)
    (apart : ∀ tenant, call ≠ .tenant tenant)
    (turns : ∀ {scopes next tenant other},
      body logged.state = .ok (scopes, next) → next.IsEnabled tenant other →
        logged.state.IsEnabled tenant other ∨
          (enabled = true ∧ key.tenantId = tenant ∧ other = switch)) :
    Obeyed (logStep accountStep logged call) := by
  cases outcome : body logged.state with
  | error =>
      exact obeyed_refused obeyed (steps.trans (scopes_error body outcome))
  | ok done =>
      unfold logStep
      rw [steps.trans (scopes_ok body outcome)]
      refine obeyed_cons obeyed ?_ ?_
      · intro tenant other on
        rcases turns outcome on with before | ⟨rfl, rfl, rfl⟩
        · exact .inl before
        · exact .inr (.inr ⟨⟨key, rfl, named rfl⟩, rfl⟩)
      · exact fun _ _ disables => absurd disables.1 (apart _)

theorem stop_frame (store : ProviderStore) (tenantId : String)
    (active : Bool) (actingPrincipalId : Option String) :
    (transaction store fun store => store.setEmergencyStop tenantId active
        actingPrincipalId).2.families = store.families ∧
      (transaction store fun store => store.setEmergencyStop tenantId active
        actingPrincipalId).2.senders = store.senders := by
  let motive (next : ProviderStore) : Prop :=
    next.families = store.families ∧ next.senders = store.senders
  have unchanged : motive store := ⟨rfl, rfl⟩
  refine @transaction_preserves _ _ _ motive _ _ unchanged
    fun result later done => ?_
  unfold ProviderStore.setEmergencyStop at done
  obtain ⟨_, _, done⟩ := bind_eq_ok.mp done
  cases done
  exact ⟨rfl, rfl⟩

theorem obeyed_stop (obeyed : logged.Obeyed) (tenantId : String)
    (active : Bool) (actingPrincipalId : Option String) :
    Obeyed (logStep accountStep logged
      (.tenant (.setEmergencyStop tenantId active actingPrincipalId))) := by
  obtain ⟨families, senders⟩ :=
    stop_frame logged.state tenantId active actingPrincipalId
  refine obeyed_cons obeyed ?_ ?_
  · intro tenant switch on
    left
    cases switch with
    | family =>
        obtain ⟨row, member, fits⟩ := on
        exact ⟨row, families ▸ member, fits⟩
    | sender =>
        obtain ⟨row, member, fits⟩ := on
        exact ⟨row, senders ▸ member, fits⟩
  · rintro tenant switch ⟨same, _⟩
    cases switch <;> cases same

theorem obeyed_installations (obeyed : logged.Obeyed)
    (connections : Table Connection Connection.key) :
    Obeyed (logStep accountStep logged (.installations connections)) := by
  refine obeyed_cons obeyed ?_ ?_
  · intro tenant switch on
    left
    cases switch with
    | family | sender => exact on
  · rintro tenant switch ⟨same, _⟩
    cases same

theorem obeyed_recorded_iff (obeyed : logged.Obeyed) {key : ConnectionKey}
    {provider providerAccountId : String} {state : VerifiedAccountState}
    {done : List String × ProviderStore}
    (recorded : logged.state.recordVerifiedAccount key provider
      providerAccountId state = .ok done) :
    Obeyed (logStep accountStep logged
        (.recordVerifiedAccount key provider providerAccountId state)) ↔
      ∀ switch, AccountEvent.Forbids logged.log key.tenantId switch →
        ¬ logged.state.Brings key state switch := by
  have step : accountStep logged.state
      (.recordVerifiedAccount key provider providerAccountId state) =
        (.ok (.scopes done.1), done.2) :=
    scopes_ok (fun store => store.recordVerifiedAccount key provider
      providerAccountId state) recorded
  have enabled : ∀ {tenantId switch}, done.2.IsEnabled tenantId switch ↔
      logged.state.IsEnabled tenantId switch ∨
        (key.tenantId = tenantId ∧ logged.state.Brings key state switch) :=
    ProviderStore.isEnabled_recordVerifiedAccount_iff recorded
  have forbids : ∀ {tenantId switch}, AccountEvent.Forbids
      ((.recordVerifiedAccount key provider providerAccountId state,
        .ok (.scopes done.1)) :: logged.log) tenantId switch ↔
      AccountEvent.Forbids logged.log tenantId switch := by
    intro tenantId switch
    refine inForce_cons_iff.trans ?_
    constructor
    · rintro (⟨same, _⟩ | ⟨_, before⟩)
      · cases same
      · exact before
    · refine fun before => .inr ⟨?_, before⟩
      rintro (same | ⟨⟨_, _, same⟩, _⟩)
      · cases same
      · cases switch <;> cases same
  unfold logStep
  rw [step, obeyed_iff]
  constructor
  · intro off switch before brings
    exact off key.tenantId switch (forbids.mpr before)
      (enabled.mpr (.inr ⟨rfl, brings⟩))
  · intro unbrought tenantId switch ordered on
    have before := forbids.mp ordered
    rcases enabled.mp on with earlier | ⟨rfl, brings⟩
    · exact obeyed_iff.mp obeyed tenantId switch before earlier
    · exact unbrought switch before brings

theorem obeyed_step_iff (obeyed : logged.Obeyed) (call : AccountCall) :
    Obeyed (logStep accountStep logged call) ↔ logged.Fair call := by
  cases call with
  | tenant call =>
      cases call with
      | setCapabilityFamilyEnabled tenantId family enabled =>
          exact iff_of_true (obeyed_family obeyed tenantId family enabled)
            trivial
      | setControlPlaneSenderEnabled tenantId senderId enabled =>
          cases enabled with
          | true =>
              exact iff_of_true (obeyed_sender obeyed tenantId senderId true
                fun same => by cases same) trivial
          | false =>
              constructor
              · intro after finished
                refine (ProviderStore.setControlPlaneSender_false_iff
                  finished).mp ?_
                exact obeyed_iff.mp after tenantId (.sender senderId)
                  (inForce_cons_iff.mpr (.inl ⟨rfl, finished⟩))
              · intro fair
                exact obeyed_sender obeyed tenantId senderId false
                  fun _ finished =>
                    (ProviderStore.setControlPlaneSender_false_iff
                      finished).mpr (fair finished)
      | setEmergencyStop tenantId active actingPrincipalId =>
          exact iff_of_true
            (obeyed_stop obeyed tenantId active actingPrincipalId) trivial
  | recordVerifiedAccount key provider providerAccountId state =>
      unfold Fair
      cases outcome : logged.state.recordVerifiedAccount key provider
          providerAccountId state with
      | error =>
          refine iff_of_true (obeyed_refused obeyed (scopes_error
            (fun store => store.recordVerifiedAccount key provider
              providerAccountId state) outcome)) ?_
          intro finished
          rw [outcome] at finished
          cases finished
      | ok =>
          rw [obeyed_recorded_iff obeyed outcome]
          constructor
          · intro unbrought _
            refine ⟨fun family member before absent => ?_,
              fun senderId first head enabled before absent => ?_⟩
            · exact unbrought _ before ⟨family, member, rfl, absent⟩
            · exact unbrought _ before ⟨first, head, enabled, absent⟩
          · intro fair switch before
            obtain ⟨families, senders⟩ := fair (by rw [outcome]; rfl)
            cases switch with
            | family =>
                rintro ⟨family, member, rfl, absent⟩
                exact families family member before absent
            | sender senderId =>
                rintro ⟨first, head, enabled, absent⟩
                exact senders senderId first head enabled before absent
  | setSenderEnabled key senderId enabled =>
      exact iff_of_true (obeyed_switched obeyed (.sender senderId)
        (fun store => store.setSenderEnabled key senderId enabled) rfl
        (fun on => by rw [on]; rfl) (fun _ => nofun)
        ProviderStore.isEnabled_of_setSender) trivial
  | setFamilyEnabled key family enabled =>
      exact iff_of_true (obeyed_switched obeyed (.family family)
        (fun store => store.setFamilyEnabled key family enabled) rfl
        (fun on => by rw [on]; rfl) (fun _ => nofun)
        ProviderStore.isEnabled_of_setFamily) trivial
  | installations connections =>
      exact iff_of_true (obeyed_installations obeyed connections) trivial

end AccountLog

/-- In SQLite what is disabled stays off until it is enabled; in Postgres it
does along the runs in which a sender that is disabled is on its first
connection only, and no verification brings a row of what is disabled. -/
theorem obeyed_run_iff (switches : LocalSwitches)
    (tenantCalls : List TenantCall) (store : ProviderStore)
    (calls : List AccountCall) :
    LocalLog.Obeyed (run (logStep localStep) ⟨switches, []⟩ tenantCalls) ∧
    ((∀ earlier later, calls = earlier ++ later →
        AccountLog.Obeyed (run (logStep accountStep) ⟨store, []⟩ earlier)) ↔
      Along (logStep accountStep) AccountLog.Fair ⟨store, []⟩ calls) := by
  refine ⟨LocalLog.obeyed_run switches tenantCalls, ?_⟩
  have start : AccountLog.Obeyed ⟨store, []⟩ :=
    fun _ _ ordered => (not_inForce_nil _ _ ordered).elim
  exact Along.forall_prefix_iff (fun _ => True) AccountLog.Obeyed
    (fun _ _ _ => trivial)
    (fun _ call _ obeyed => AccountLog.obeyed_step_iff obeyed call) trivial
    start calls

def sharedKey : ConnectionKey := ⟨"conn:other", "org:acme"⟩

def twoConnected : ProviderStore :=
  { ProviderStore.connected with
    connections := ⟨[⟨ProviderStore.twilioKey, []⟩, ⟨sharedKey, []⟩],
      by decide⟩ }

def alsoMessaging : VerifiedAccountState :=
  { ProviderStore.messaging with
    accountId := "AC2"
    identified := by decide }

def sharedSender : List AccountCall :=
  [.recordVerifiedAccount ProviderStore.twilioKey "twilio" "AC1"
      ProviderStore.messaging,
    .recordVerifiedAccount sharedKey "twilio" "AC2" alsoMessaging,
    .tenant (.setControlPlaneSenderEnabled "org:acme" "+18095550100" false)]

/-- The sender that was disabled is still reported on. -/
theorem shared_sender_kept_on :
    ¬ ∀ (store : ProviderStore) (calls : List AccountCall),
      AccountLog.Obeyed (run (logStep accountStep) ⟨store, []⟩ calls) := by
  intro obeyed
  have off := obeyed twoConnected sharedSender "org:acme"
    (.sender "+18095550100")
    (inForce_cons_iff.mpr (.inl ⟨rfl, by decide +kernel⟩))
  have on : Switch.isOn ((run (logStep accountStep) ⟨twoConnected, []⟩
      sharedSender).state.readState "org:acme")
        (.sender "+18095550100") = true := by decide +kernel
  rw [off.reported] at on
  cases on

end AcpTask.ControlPlane
