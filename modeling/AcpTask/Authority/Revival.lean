import AcpTask.Authority.Delegations

namespace AcpTask.Authority

open Library

theorem recorded_key (logged : AuthorityLog) (call : ConsentCall) :
    (recorded logged call).key = call.key := by
  unfold recorded
  cases found : logged.state.getAuthorityProfile call.key with
  | none => rfl
  | some => exact (Table.find?_eq_some_iff.mp found).2

theorem recorded_active (logged : AuthorityLog) (call : ConsentCall) :
    (recorded logged call).status = .active := by
  unfold recorded
  cases logged.state.getAuthorityProfile call.key with
  | none | some => rfl

variable {result : AuthorityResult} {profile : AuthorityProfile}

theorem not_delegated_consents {call : ConsentCall} {log : List AuthorityEvent}
    {delegation : DelegationKey} {fits : GrantCall → Prop}
    (same : call.key = profile.key) :
    ¬ Delegated ((.recordAuthorityProfile call, .ok result) :: log) profile
      delegation fits := by
  rintro ⟨_, _, _, _, _, latest⟩
  rcases latestOf_cons_iff.mp latest with equal | ⟨untouched, _⟩
  · cases equal
  · exact untouched (.inl ⟨call, result, rfl, same⟩)

theorem delegated_grants_iff {call : GrantCall} {log : List AuthorityEvent} :
    Delegated ((.grantAuthorityDelegation call, .ok result) :: log) profile
        call.key (fun _ => True) ↔
      call.grantedByPrincipalId = profile.key.consentOwnerPrincipalId := by
  constructor
  · rintro ⟨_, _, _, owner, _, latest⟩
    rcases latestOf_cons_iff.mp latest with equal | ⟨untouched, _⟩
    · cases equal
      exact owner
    · exact absurd (.inr ⟨call, result, rfl, rfl⟩) untouched
  · exact fun owner => ⟨call, result, rfl, owner, trivial,
      latestOf_cons_iff.mpr (.inl rfl)⟩

variable {logged : AuthorityLog}

theorem owned_consented_iff (owned : Owned logged) {call : ConsentCall} :
    Owned ⟨{ logged.state with
        profiles := logged.state.profiles.upsert
          (AuthorityStore.newProfile call) (AuthorityStore.consented call)
          fun _ => rfl },
        (.recordAuthorityProfile call, .ok result) :: logged.log⟩ ↔
      ∀ delegation ∈ logged.state.delegations,
        ¬ Lends (recorded logged call) delegation := by
  constructor
  · intro after delegation member lends
    have delegated := after (recorded logged call)
      (Table.mem_upsert.mpr (.inl rfl)) (recorded_active logged call)
      delegation member lends
    exact not_delegated_consents (recorded_key logged call).symm delegated
  · intro unlent profile member active delegation stored lends
    rcases Table.mem_upsert.mp member with same | ⟨apart, old⟩
    · rw [same] at lends
      exact absurd lends (unlent delegation stored)
    · refine (delegated_cons_iff ?_).mpr
        (owned profile old active delegation stored lends)
      rintro (⟨other, _, same, key⟩ | ⟨_, _, same, _⟩)
      · cases same
        exact apart key.symm
      · cases same

theorem owned_granted_iff (owned : Owned logged) {call : GrantCall}
    {first : AuthorityDelegation} (key : first.key = call.key) :
    Owned ⟨{ logged.state with
        delegations := logged.state.delegations.upsert first
          (AuthorityStore.granted call) fun _ => rfl },
        (.grantAuthorityDelegation call, .ok result) :: logged.log⟩ ↔
      ∀ profile ∈ logged.state.profiles, profile.status = .active →
        profile.key.profileKind ≠ .bot →
        call.key.tenantId = profile.key.tenantId →
        call.key.authorityProfileId = profile.authorityProfileId →
        call.key.audiencePrincipalId ≠ profile.key.consentOwnerPrincipalId →
        call.grantedByPrincipalId = profile.key.consentOwnerPrincipalId := by
  have written : ((logged.state.delegations.find? first.key).elim first
      (AuthorityStore.granted call)).key = call.key := by
    cases found : logged.state.delegations.find? first.key with
    | none => exact key
    | some => exact ((Table.find?_eq_some_iff.mp found).2).trans key
  constructor
  · intro after profile member active personal tenant under other
    have delegated := after profile member active _
      (Table.mem_upsert.mpr (.inl rfl)) (by
        constructor
        · exact personal
        · rw [written]
          exact tenant
        · rw [written]
          exact under
        · rw [written]
          exact other)
    rw [written] at delegated
    exact delegated_grants_iff.mp delegated
  · intro fair profile member active delegation stored lends
    rcases Table.mem_upsert.mp stored with same | ⟨apart, old⟩
    · have equal : delegation.key = call.key := by
        rw [same]
        exact written
      obtain ⟨personal, tenant, under, other⟩ := lends
      rw [equal] at tenant under other ⊢
      exact delegated_grants_iff.mpr
        (fair profile member active personal tenant under other)
    · refine (delegated_cons_iff ?_).mpr
        (owned profile member active delegation old lends)
      rintro (⟨_, _, same, _⟩ | ⟨_, _, same, other⟩)
      · cases same
      · cases same
        exact apart (other.symm.trans key.symm)

theorem owned_step_iff (owned : Owned logged) (call : AuthorityCall) :
    Owned (logStep authorityStep logged call) ↔ Fair logged call := by
  have step := stepped logged call
  generalize logStep authorityStep logged call = next at step ⊢
  cases step with
  | @refused call error raised =>
      refine iff_of_true ?_ ?_
      · intro profile member active delegation stored lends
        exact (delegated_cons_iff (not_touches_error _ _ call error)).mpr
          (owned profile member active delegation stored lends)
      · cases call with
        | recordAuthorityProfile call =>
            intro succeeded
            have raised : logged.state.recordAuthorityProfile call =
              .error error := raised
            rw [raised] at succeeded
            cases succeeded
        | grantAuthorityDelegation call =>
            intro succeeded
            have raised : logged.state.grantAuthorityDelegation call =
              .error error := raised
            rw [raised] at succeeded
            cases succeeded
        | setAuthorityProfileEnabled | revokeAuthorityProfile => trivial
  | consented stored committed =>
      subst stored
      rw [owned_consented_iff owned]
      refine ⟨fun unlent _ => unlent, fun fair => fair ?_⟩
      rw [committed]
      rfl
  | granted stored committed key =>
      subst stored
      rw [owned_granted_iff owned key]
      refine ⟨fun lent _ => lent, fun fair => fair ?_⟩
      rw [committed]
      rfl
  | switched unread fair same kept =>
      refine iff_of_true ?_ fair
      intro profile member active delegation stored lends
      obtain ⟨old, known, key, identifier, status⟩ := kept profile member
      rw [same] at stored
      obtain ⟨personal, tenant, under, other⟩ := lends
      rw [key] at personal tenant other
      rw [identifier] at under
      refine (delegated_cons_iff (unread _ _)).mpr ?_
      have delegated := owned old known (status active) delegation stored
        ⟨personal, tenant, under, other⟩
      unfold Delegated at delegated ⊢
      rw [key]
      exact delegated

variable {store : AuthorityStore}

theorem allowed_iff {query : AuthorityQuery}
    (personal : query.profileKind ≠ .bot)
    (other : AuthorityStore.ownerOf query ≠ query.requesterPrincipalId) :
    (store.authorizePersonalAuthority query).allowed = true ↔
      ∃ profile, store.getAuthorityProfile
          (AuthorityStore.profileKeyOf query) = some profile ∧
        profile.status = .active ∧ profile.enabled = true ∧
        ∃ delegation, store.liveDelegation
          (AuthorityStore.delegationKeyOf query profile) query.nowTs =
            some delegation := by
  unfold AuthorityStore.authorizePersonalAuthority
  cases found : store.getAuthorityProfile
      (AuthorityStore.profileKeyOf query) with
  | none => simp
  | some profile =>
      have key := (Table.find?_eq_some_iff.mp found).2
      have apart : profile.key.consentOwnerPrincipalId ≠
          query.requesterPrincipalId := by
        rw [key]
        exact other
      simp only [Option.some.injEq, exists_eq_left', personal, if_false, apart]
      by_cases active : profile.status = .active
      · cases enabled : profile.enabled with
        | false => simp [active]
        | true =>
            cases live : store.liveDelegation
                (AuthorityStore.delegationKeyOf query profile)
                query.nowTs with
            | none | some => simp [active]
      · simp [active]

theorem liveDelegation_eq_some_iff {key : DelegationKey} {nowTs : Int}
    {delegation : AuthorityDelegation} :
    store.liveDelegation key nowTs = some delegation ↔
      (delegation ∈ store.delegations ∧ delegation.key = key) ∧
        delegation.revokedAt = none ∧ nowTs < delegation.expiresAt := by
  unfold AuthorityStore.liveDelegation
  rw [Option.filter_eq_some_iff, Table.find?_eq_some_iff]
  simp

theorem sound_of_owned (faithful : Faithful logged) (owned : Owned logged) :
    Sound logged := by
  intro query allowed personal other
  obtain ⟨profile, found, active, _, delegation, live⟩ :=
    (allowed_iff personal other).mp allowed
  obtain ⟨member, key⟩ := Table.find?_eq_some_iff.mp found
  obtain ⟨⟨stored, same⟩, _, unexpired⟩ := liveDelegation_eq_some_iff.mp live
  have lends : Lends profile delegation := by
    constructor
    · rw [key]
      exact personal
    · rw [same, key]
      rfl
    · rw [same]
      rfl
    · rw [same, key]
      exact other.symm
  obtain ⟨call, result, granted, owner, _, latest⟩ :=
    owned profile member active delegation stored lends
  obtain ⟨known, shown, equal, expires, last⟩ :=
    faithful.latest delegation stored
  -- the latest touch of the delegation is its latest grant
  have alike := latestOf_unique ⟨call, result, rfl, granted⟩
    ⟨known, shown, rfl, equal⟩
    (latest.imp fun _ grants => Or.inr grants) last
  cases alike
  have later : query.nowTs < call.expiresAt := by
    rw [expires]
    exact unexpired
  refine ⟨profile, found, call, result, granted.trans same, owner, later, ?_⟩
  rw [← same]
  exact latest

def lastQuery (profile : AuthorityProfile)
    (delegation : AuthorityDelegation) : AuthorityQuery where
  tenantId := profile.key.tenantId
  connectionId := profile.key.connectionId
  profileKind := profile.key.profileKind
  requesterPrincipalId := delegation.key.audiencePrincipalId
  operationFamily := delegation.key.operationFamily
  nowTs := delegation.expiresAt - 1
  consentOwnerPrincipalId := some profile.key.consentOwnerPrincipalId

theorem ownerOf_lastQuery (present : profile.key.consentOwnerPrincipalId ≠ "")
    (delegation : AuthorityDelegation) :
    AuthorityStore.ownerOf (lastQuery profile delegation) =
      profile.key.consentOwnerPrincipalId := by
  simp [AuthorityStore.ownerOf, lastQuery, Option.filter, present]

theorem profileKeyOf_lastQuery
    (present : profile.key.consentOwnerPrincipalId ≠ "")
    (delegation : AuthorityDelegation) :
    AuthorityStore.profileKeyOf (lastQuery profile delegation) =
      profile.key := by
  unfold AuthorityStore.profileKeyOf
  rw [ownerOf_lastQuery present]
  rfl

theorem Lends.delegationKeyOf_lastQuery {turned : AuthorityProfile}
    {delegation : AuthorityDelegation} (lends : Lends profile delegation)
    (same : turned.authorityProfileId = profile.authorityProfileId) :
    AuthorityStore.delegationKeyOf (lastQuery profile delegation) turned =
      delegation.key := by
  have tenant : (lastQuery profile delegation).tenantId =
      delegation.key.tenantId := lends.tenant.symm
  unfold AuthorityStore.delegationKeyOf
  rw [tenant, same, ← lends.under]
  rfl

theorem getAuthorityProfile_turnedOn (member : profile ∈ store.profiles)
    (active : profile.status = .active) (nowTs : Int) {key : ProfileKey}
    (same : key = profile.key) :
    (store.setAuthorityProfileEnabled profile.key true
        nowTs).2.getAuthorityProfile key =
      some { profile with enabled := true, updatedAt := nowTs } := by
  subst same
  have found := Table.mem_iff_find?.mp member
  simp [AuthorityStore.setAuthorityProfileEnabled,
    AuthorityStore.updateActive, AuthorityStore.getAuthorityProfile, found,
    active]

theorem owned_of_sound (faithful : Faithful logged)
    (sound : ∀ key, Sound (logStep authorityStep logged
      (.setAuthorityProfileEnabled key true 0))) : Owned logged := by
  intro profile member active delegation stored lends
  have present := faithful.owner profile member
  have key := profileKeyOf_lastQuery present delegation
  have other : AuthorityStore.ownerOf (lastQuery profile delegation) ≠
      (lastQuery profile delegation).requesterPrincipalId := by
    rw [ownerOf_lastQuery present]
    exact lends.other.symm
  have found := getAuthorityProfile_turnedOn member active 0 key
  have next := sound profile.key (lastQuery profile delegation)
  generalize after : logStep authorityStep logged
    (.setAuthorityProfileEnabled profile.key true 0) = later at next
  rw [logStep_of_ok (.setAuthorityProfileEnabled profile.key true 0) rfl]
    at after
  subst after
  have same := lends.delegationKeyOf_lastQuery
    (@rfl _ profile.authorityProfileId)
  have live : logged.state.liveDelegation
      (AuthorityStore.delegationKeyOf (lastQuery profile delegation)
        { profile with enabled := true, updatedAt := 0 })
      (delegation.expiresAt - 1) = some delegation :=
    liveDelegation_eq_some_iff.mpr ⟨⟨stored, same.symm⟩,
      faithful.live delegation stored, Int.sub_one_lt_of_le (Int.le_refl _)⟩
  obtain ⟨_, read, delegated⟩ := next
    ((allowed_iff lends.personal other).mpr ⟨_, found, active, rfl,
      delegation, live⟩) lends.personal other
  have equal := Option.some.inj (found.symm.trans read)
  subst equal
  obtain ⟨call, result, granted, owner, _, latest⟩ := delegated
  rcases latestOf_cons_iff.mp latest with equal | ⟨_, rest⟩
  · cases equal
  · exact ⟨call, result, granted.trans same, owner, trivial, same ▸ rest⟩

theorem faithful_run (calls : List AuthorityCall) :
    Faithful (run (logStep authorityStep) ⟨.empty, []⟩ calls) :=
  run_invariant _ Faithful
    (fun _ call faithful => faithful_step faithful call) faithful_empty calls

/-- In every state of a run, and however its profiles are then turned on and
off, others use them only under what their owners granted since their latest
consent, exactly when all calls of the run are fair. -/
theorem sound_run_iff (calls : List AuthorityCall) :
    (∀ earlier later, calls = earlier ++ later →
      ∀ switches, Switches switches →
        Sound (run (logStep authorityStep) ⟨.empty, []⟩
          (earlier ++ switches))) ↔
      Along (logStep authorityStep) Fair ⟨.empty, []⟩ calls := by
  rw [← Along.forall_prefix_iff Faithful Owned
    (fun _ call faithful => faithful_step faithful call)
    (fun _ call _ owned => owned_step_iff owned call) faithful_empty
    owned_empty calls]
  refine forall_congr' fun earlier => forall_congr' fun later =>
    forall_congr' fun _ => ?_
  constructor
  · intro sound
    refine owned_of_sound (faithful_run earlier) fun key => ?_
    have turned := sound [.setAuthorityProfileEnabled key true 0] (by
      intro call member
      rw [List.mem_singleton.mp member]
      exact ⟨key, true, 0, rfl⟩)
    rw [run_append] at turned
    exact turned
  · intro owned switches switch
    have kept : Owned (run (logStep authorityStep) ⟨.empty, []⟩
        (earlier ++ switches)) := by
      rw [run_append]
      refine run_invariant_of_mem _ Owned ?_ owned
      intro logged call member holds
      obtain ⟨_, _, _, rfl⟩ := switch call member
      exact (owned_step_iff holds _).mpr trivial
    exact sound_of_owned (faithful_run (earlier ++ switches)) kept

def ownKey : ProfileKey := ⟨"tenant", "connection", .user, "owner"⟩

def ownConsent (profileId : String) : ConsentCall where
  key := ownKey
  credentialId := "credential"
  grantedScopes := []
  nowTs := 0
  slackSubjectId := some "U1"
  credentialVersion := 1
  enabled := false
  profileId := profileId

def loan : GrantCall where
  key := ⟨"tenant", "first", "guest", "search"⟩
  purpose := "triage"
  grantedByPrincipalId := "owner"
  expiresAt := 9
  nowTs := 0
  delegationId := "loan"

def lentAndRevoked : List AuthorityCall :=
  [.recordAuthorityProfile (ownConsent "first"),
    .grantAuthorityDelegation loan, .revokeAuthorityProfile ownKey 1]

def guestQuery : AuthorityQuery where
  tenantId := "tenant"
  connectionId := "connection"
  profileKind := .user
  requesterPrincipalId := "guest"
  operationFamily := "search"
  nowTs := 2
  consentOwnerPrincipalId := some "owner"

/-- The second consent revives the delegation under the first. -/
theorem delegation_revived :
    ¬ ∀ calls : List AuthorityCall,
      Sound (run (logStep authorityStep) ⟨.empty, []⟩ calls) := by
  intro sound
  have here := sound (lentAndRevoked ++
    [.recordAuthorityProfile (ownConsent "second"),
      .setAuthorityProfileEnabled ownKey true 2]) guestQuery
    (by decide +kernel) (by decide) (by decide)
  obtain ⟨profile, found, delegated⟩ := here
  have key := (Table.find?_eq_some_iff.mp found).2
  rw [run_append, run_cons, run_cons, run_nil,
    logStep_of_ok (.setAuthorityProfileEnabled ownKey true 2) rfl]
    at delegated
  have untouched := (delegated_cons_iff (by
    rintro (⟨_, _, same, _⟩ | ⟨_, _, same, _⟩)
    · cases same
    · cases same)).mp delegated
  rcases AuthorityStore.recordAuthorityProfile_cases
    (run (logStep authorityStep) ⟨.empty, []⟩ lentAndRevoked).state
    (ownConsent "second") with ⟨_, raised⟩ | ⟨_, result, recorded⟩
  · have succeeded : ((run (logStep authorityStep) ⟨.empty, []⟩
        lentAndRevoked).state.recordAuthorityProfile
          (ownConsent "second")).isOk = true := by decide +kernel
    rw [raised] at succeeded
    cases succeeded
  · rw [logStep_of_ok (.recordAuthorityProfile (ownConsent "second"))
      recorded] at untouched
    have same : profile.key = ownKey := key.trans (by decide)
    exact not_delegated_consents same.symm untouched

end AcpTask.Authority
