import AcpTask.Authority.Repository

namespace AcpTask.Authority

open Library

abbrev AuthorityEvent := AuthorityCall × Except AuthorityError AuthorityResult

abbrev AuthorityLog :=
  Logged AuthorityStore AuthorityCall (Except AuthorityError AuthorityResult)

namespace AuthorityEvent

def Consents (key : ProfileKey) (event : AuthorityEvent) : Prop :=
  ∃ call result, event = (.recordAuthorityProfile call, .ok result) ∧
    call.key = key

def Grants (key : DelegationKey) (event : AuthorityEvent) : Prop :=
  ∃ call result, event = (.grantAuthorityDelegation call, .ok result) ∧
    call.key = key

def Touches (profile : ProfileKey) (delegation : DelegationKey)
    (event : AuthorityEvent) : Prop :=
  Consents profile event ∨ Grants delegation event

end AuthorityEvent

/-- The latest of the owner's consents and of the grants of the delegation is a
grant by the owner, which fits. -/
def Delegated (log : List AuthorityEvent) (profile : AuthorityProfile)
    (delegation : DelegationKey) (fits : GrantCall → Prop) : Prop :=
  ∃ call result, call.key = delegation ∧
    call.grantedByPrincipalId = profile.key.consentOwnerPrincipalId ∧
    fits call ∧
    LatestOf (AuthorityEvent.Touches profile.key delegation)
      (.grantAuthorityDelegation call, .ok result) log

/-- Who is allowed to use another's personal profile was granted an unexpired
delegation by its owner, since the owner's latest consent. -/
def Sound (logged : AuthorityLog) : Prop :=
  ∀ query : AuthorityQuery,
    (logged.state.authorizePersonalAuthority query).allowed = true →
    query.profileKind ≠ .bot →
    AuthorityStore.ownerOf query ≠ query.requesterPrincipalId →
    ∃ profile, logged.state.getAuthorityProfile
        (AuthorityStore.profileKeyOf query) = some profile ∧
      Delegated logged.log profile
        (AuthorityStore.delegationKeyOf query profile)
        fun call => query.nowTs < call.expiresAt

def Switches (calls : List AuthorityCall) : Prop :=
  ∀ call ∈ calls, ∃ key enabled nowTs,
    call = .setAuthorityProfileEnabled key enabled nowTs

structure Lends (profile : AuthorityProfile)
    (delegation : AuthorityDelegation) : Prop where
  personal : profile.key.profileKind ≠ .bot
  tenant : delegation.key.tenantId = profile.key.tenantId
  under : delegation.key.authorityProfileId = profile.authorityProfileId
  other : delegation.key.audiencePrincipalId ≠
    profile.key.consentOwnerPrincipalId

def recorded (logged : AuthorityLog) (call : ConsentCall) :
    AuthorityProfile :=
  (logged.state.getAuthorityProfile call.key).elim
    (AuthorityStore.newProfile call) (AuthorityStore.consented call)

/-- A grant to another on a personal profile in force is by its owner, and a
consent finds no delegation to another. -/
def Fair (logged : AuthorityLog) : AuthorityCall → Prop
  | .recordAuthorityProfile call =>
      (logged.state.recordAuthorityProfile call).isOk = true →
        ∀ delegation ∈ logged.state.delegations,
          ¬ Lends (recorded logged call) delegation
  | .grantAuthorityDelegation call =>
      (logged.state.grantAuthorityDelegation call).isOk = true →
        ∀ profile ∈ logged.state.profiles, profile.status = .active →
          profile.key.profileKind ≠ .bot →
          call.key.tenantId = profile.key.tenantId →
          call.key.authorityProfileId = profile.authorityProfileId →
          call.key.audiencePrincipalId ≠ profile.key.consentOwnerPrincipalId →
          call.grantedByPrincipalId = profile.key.consentOwnerPrincipalId
  | _ => True

structure Faithful (logged : AuthorityLog) : Prop where
  owner : ∀ profile ∈ logged.state.profiles,
    profile.key.consentOwnerPrincipalId ≠ ""
  live : ∀ delegation ∈ logged.state.delegations, delegation.revokedAt = none
  latest : ∀ delegation ∈ logged.state.delegations, ∃ call result,
    call.key = delegation.key ∧ call.expiresAt = delegation.expiresAt ∧
    LatestOf (AuthorityEvent.Grants delegation.key)
      (.grantAuthorityDelegation call, .ok result) logged.log

/-- Every delegation to another under an active personal profile is the
owner's, since the latest consent. -/
def Owned (logged : AuthorityLog) : Prop :=
  ∀ profile ∈ logged.state.profiles, profile.status = .active →
    ∀ delegation ∈ logged.state.delegations, Lends profile delegation →
      Delegated logged.log profile delegation.key fun _ => True

theorem delegated_cons_iff {event : AuthorityEvent}
    {log : List AuthorityEvent} {profile : AuthorityProfile}
    {delegation : DelegationKey} {fits : GrantCall → Prop}
    (untouched : ¬ event.Touches profile.key delegation) :
    Delegated (event :: log) profile delegation fits ↔
      Delegated log profile delegation fits := by
  constructor
  · rintro ⟨call, result, same, owner, fit, latest⟩
    rcases latestOf_cons_iff.mp latest with rfl | ⟨_, rest⟩
    · exact absurd (.inr ⟨call, result, rfl, same⟩) untouched
    · exact ⟨call, result, same, owner, fit, rest⟩
  · rintro ⟨call, result, same, owner, fit, latest⟩
    exact ⟨call, result, same, owner, fit,
      latestOf_cons_iff.mpr (.inr ⟨untouched, latest⟩)⟩

theorem not_touches_error (profile : ProfileKey) (delegation : DelegationKey)
    (call : AuthorityCall) (error : AuthorityError) :
    ¬ AuthorityEvent.Touches profile delegation (call, .error error) := by
  rintro (⟨_, _, same, _⟩ | ⟨_, _, same, _⟩)
  · cases same
  · cases same

namespace AuthorityStore

variable (store : AuthorityStore)

theorem recordAuthorityProfile_cases (call : ConsentCall) :
    (∃ error, store.recordAuthorityProfile call = .error error) ∨
      (call.key.consentOwnerPrincipalId ≠ "" ∧ ∃ result,
        store.recordAuthorityProfile call = .ok (result, { store with
          profiles := store.profiles.upsert (newProfile call) (consented call)
            fun _ => rfl })) := by
  cases outcome : store.recordAuthorityProfile call with
  | error error => exact .inl ⟨error, rfl⟩
  | ok =>
      right
      unfold recordAuthorityProfile at outcome
      obtain ⟨_, _, outcome⟩ := bind_eq_ok.mp outcome
      obtain ⟨_, bound, outcome⟩ := bind_eq_ok.mp outcome
      obtain ⟨_, _, outcome⟩ := bind_eq_ok.mp outcome
      cases outcome
      have bound := require_eq_ok.mp bound
      simp only [Bool.and_eq_true, bne_iff_ne] at bound
      exact ⟨bound.1.2, _, rfl⟩

theorem grantAuthorityDelegation_cases (call : GrantCall) :
    (∃ error, store.grantAuthorityDelegation call = .error error) ∨
      ∃ result first, first.key = call.key ∧ first.revokedAt = none ∧
        first.expiresAt = call.expiresAt ∧
        store.grantAuthorityDelegation call = .ok (result, { store with
          delegations := store.delegations.upsert first (granted call)
            fun _ => rfl }) := by
  cases outcome : store.grantAuthorityDelegation call with
  | error error => exact .inl ⟨error, rfl⟩
  | ok =>
      right
      unfold grantAuthorityDelegation at outcome
      obtain ⟨_, _, outcome⟩ := bind_eq_ok.mp outcome
      obtain ⟨_, _, outcome⟩ := bind_eq_ok.mp outcome
      obtain ⟨_, _, outcome⟩ := bind_eq_ok.mp outcome
      cases outcome
      exact ⟨_, _, rfl, rfl, rfl, rfl⟩

theorem mem_updateActive {key : ProfileKey}
    {assign : AuthorityProfile → AuthorityProfile}
    (keepsKey : ∀ row, (assign row).key = row.key)
    {profile : AuthorityProfile}
    (member : profile ∈ store.profiles.updateWhere
      (fun row => decide (row.key = key) && row.status == .active) assign
      keepsKey)
    (keepsId : ∀ row, (assign row).authorityProfileId =
      row.authorityProfileId) :
    ∃ old ∈ store.profiles, profile.key = old.key ∧
      profile.authorityProfileId = old.authorityProfileId ∧
      (profile.status = .active → old.status = .active) := by
  obtain ⟨old, stored, rfl⟩ := (Table.mem_updateWhere _ _ _ keepsKey).mp member
  refine ⟨old, stored, ?_⟩
  split
  · rename_i selected
    rw [Bool.and_eq_true, beq_iff_eq] at selected
    exact ⟨keepsKey old, keepsId old, fun _ => selected.2⟩
  · exact ⟨rfl, rfl, id⟩

end AuthorityStore

inductive Stepped (logged : AuthorityLog) :
    AuthorityCall → AuthorityLog → Prop
  | refused {call : AuthorityCall} {error : AuthorityError}
      (raised : logged.state.call call = .error error) :
      Stepped logged call ⟨logged.state, (call, .error error) :: logged.log⟩
  | consented {call : ConsentCall} {result : AuthorityResult}
      {store : AuthorityStore}
      (stored : store = { logged.state with
        profiles := logged.state.profiles.upsert
          (AuthorityStore.newProfile call) (AuthorityStore.consented call)
          fun _ => rfl })
      (recorded : logged.state.recordAuthorityProfile call =
        .ok (result, store))
      (owner : call.key.consentOwnerPrincipalId ≠ "") :
      Stepped logged (.recordAuthorityProfile call) ⟨store,
        (.recordAuthorityProfile call, .ok result) :: logged.log⟩
  | granted {call : GrantCall} {result : AuthorityResult}
      {store : AuthorityStore} {first : AuthorityDelegation}
      (stored : store = { logged.state with
        delegations := logged.state.delegations.upsert first
          (AuthorityStore.granted call) fun _ => rfl })
      (recorded : logged.state.grantAuthorityDelegation call =
        .ok (result, store))
      (key : first.key = call.key) (live : first.revokedAt = none)
      (expires : first.expiresAt = call.expiresAt) :
      Stepped logged (.grantAuthorityDelegation call) ⟨store,
        (.grantAuthorityDelegation call, .ok result) :: logged.log⟩
  | switched {call : AuthorityCall} {result : AuthorityResult}
      {store : AuthorityStore}
      (unread : ∀ profile delegation,
        ¬ AuthorityEvent.Touches profile delegation (call, .ok result))
      (fair : Fair logged call)
      (same : store.delegations = logged.state.delegations)
      (kept : ∀ profile ∈ store.profiles, ∃ old ∈ logged.state.profiles,
        profile.key = old.key ∧
        profile.authorityProfileId = old.authorityProfileId ∧
        (profile.status = .active → old.status = .active)) :
      Stepped logged call ⟨store, (call, .ok result) :: logged.log⟩

theorem logStep_of_error {logged : AuthorityLog} (call : AuthorityCall)
    {error : AuthorityError}
    (raised : logged.state.call call = .error error) :
    logStep authorityStep logged call =
      ⟨logged.state, (call, .error error) :: logged.log⟩ := by
  simp [logStep, authorityStep, transaction, raised]

theorem logStep_of_ok {logged : AuthorityLog} (call : AuthorityCall)
    {result : AuthorityResult} {store : AuthorityStore}
    (committed : logged.state.call call = .ok (result, store)) :
    logStep authorityStep logged call =
      ⟨store, (call, .ok result) :: logged.log⟩ := by
  simp [logStep, authorityStep, transaction, committed]

theorem stepped (logged : AuthorityLog) (call : AuthorityCall) :
    Stepped logged call (logStep authorityStep logged call) := by
  cases call with
  | recordAuthorityProfile call =>
      rcases logged.state.recordAuthorityProfile_cases call with
        ⟨error, raised⟩ | ⟨owner, result, recorded⟩
      · rw [logStep_of_error (.recordAuthorityProfile call) raised]
        exact .refused raised
      · rw [logStep_of_ok (.recordAuthorityProfile call) recorded]
        exact .consented rfl recorded owner
  | grantAuthorityDelegation call =>
      rcases logged.state.grantAuthorityDelegation_cases call with
        ⟨_, raised⟩ | ⟨result, first, key, live, expires, recorded⟩
      · rw [logStep_of_error (.grantAuthorityDelegation call) raised]
        exact .refused raised
      · rw [logStep_of_ok (.grantAuthorityDelegation call) recorded]
        exact .granted rfl recorded key live expires
  | setAuthorityProfileEnabled | revokeAuthorityProfile =>
      rw [logStep_of_ok _ rfl]
      refine .switched ?_ trivial rfl ?_
      · rintro profile delegation (⟨_, _, same, _⟩ | ⟨_, _, same, _⟩)
        · cases same
        · cases same
      · intro profile member
        refine logged.state.mem_updateActive ?_ member ?_
        · exact fun _ => rfl
        · exact fun _ => rfl

theorem faithful_empty : Faithful ⟨.empty, []⟩ where
  owner profile member := (Table.not_mem_empty profile member).elim
  live delegation member := (Table.not_mem_empty delegation member).elim
  latest delegation member := (Table.not_mem_empty delegation member).elim

theorem owned_empty : Owned ⟨.empty, []⟩ :=
  fun profile member => (Table.not_mem_empty profile member).elim

theorem latest_cons {event : AuthorityEvent} {log : List AuthorityEvent}
    {delegation : AuthorityDelegation}
    (other : ¬ event.Grants delegation.key)
    (latest : ∃ call result, call.key = delegation.key ∧
      call.expiresAt = delegation.expiresAt ∧
      LatestOf (AuthorityEvent.Grants delegation.key)
        (.grantAuthorityDelegation call, .ok result) log) :
    ∃ call result, call.key = delegation.key ∧
      call.expiresAt = delegation.expiresAt ∧
      LatestOf (AuthorityEvent.Grants delegation.key)
        (.grantAuthorityDelegation call, .ok result) (event :: log) := by
  obtain ⟨call, result, same, expires, last⟩ := latest
  exact ⟨call, result, same, expires,
    latestOf_cons_iff.mpr (.inr ⟨other, last⟩)⟩

theorem faithful_step {logged : AuthorityLog} (faithful : Faithful logged)
    (call : AuthorityCall) :
    Faithful (logStep authorityStep logged call) := by
  have step := stepped logged call
  generalize logStep authorityStep logged call = next at step ⊢
  cases step with
  | refused =>
      refine ⟨faithful.owner, faithful.live, fun delegation member =>
        latest_cons ?_ (faithful.latest delegation member)⟩
      rintro ⟨_, _, same, _⟩
      cases same
  | consented stored _ owner =>
      subst stored
      refine ⟨?_, faithful.live, fun delegation member =>
        latest_cons ?_ (faithful.latest delegation member)⟩
      · intro profile member
        rcases Table.mem_upsert.mp member with rfl | ⟨_, old⟩
        · cases found : logged.state.profiles.find?
              (AuthorityStore.newProfile _).key with
          | none => exact owner
          | some old =>
              exact faithful.owner old (Table.find?_eq_some_iff.mp found).1
        · exact faithful.owner profile old
      · rintro ⟨_, _, same, _⟩
        cases same
  | @granted call result store first stored recorded key live expires =>
      subst stored
      have written : ∀ delegation, delegation =
          (logged.state.delegations.find? first.key).elim first
            (AuthorityStore.granted call) →
          delegation.key = call.key ∧ delegation.revokedAt = none ∧
            delegation.expiresAt = call.expiresAt := by
        rintro delegation rfl
        cases found : logged.state.delegations.find? first.key with
        | none => exact ⟨key, live, expires⟩
        | some =>
            have same := (Table.find?_eq_some_iff.mp found).2
            exact ⟨same.trans key, rfl, rfl⟩
      refine ⟨faithful.owner, ?_, ?_⟩
      · intro delegation member
        rcases Table.mem_upsert.mp member with new | ⟨_, old⟩
        · exact (written delegation new).2.1
        · exact faithful.live delegation old
      · intro delegation member
        rcases Table.mem_upsert.mp member with new | ⟨apart, old⟩
        · obtain ⟨same, _, later⟩ := written delegation new
          exact ⟨call, result, same.symm, later.symm,
            latestOf_cons_iff.mpr (.inl rfl)⟩
        · refine latest_cons ?_ (faithful.latest delegation old)
          rintro ⟨_, _, same, other⟩
          cases same
          exact apart (other.symm.trans key.symm)
  | switched unread _ same kept =>
      refine ⟨?_, ?_, ?_⟩
      · intro profile member
        obtain ⟨old, stored, equal, _⟩ := kept profile member
        rw [equal]
        exact faithful.owner old stored
      · rw [same]
        exact faithful.live
      · rw [same]
        intro delegation member
        refine latest_cons ?_ (faithful.latest delegation member)
        exact fun grants => unread ⟨"", "", .bot, ""⟩ _ (.inr grants)

end AcpTask.Authority
