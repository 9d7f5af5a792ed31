import AcpTask.Consent.Eligibility

namespace AcpTask.Consent

open Library

/-! A run whose operations are recorded up to a time leaves no row dated past
it. -/

structure DatedBy (limit : Int) (store : ConsentStore) : Prop where
  consents : ∀ row ∈ store.consents, row.recordedAt ≤ limit
  suppressions : ∀ row ∈ store.suppressions, row.recordedAt ≤ limit

section Settled

variable {store : ConsentStore} {action : ConsentAction}

theorem DatedBy.step {limit : Int} (dated : DatedBy limit store)
    (configured : Option RevocationScope) (bounded : action.now ≤ limit) :
    DatedBy limit (consentStep configured store action) := by
  have change := consentStep_change configured store action
  constructor
  · obtain ⟨_, redacts, appends⟩ := change.consents
    intro row member
    rcases appends.mem member with old | written
    · obtain ⟨original, originalMember, rfl⟩ := List.mem_map.mp old
      obtain ⟨_, _, equal⟩ := redacts original
      rw [equal]
      exact dated.consents original originalMember
    · exact written.1.trans_le bounded
  · intro row member
    rcases change.suppressions.mem member with old | written
    · exact dated.suppressions row old
    · exact written.1.trans_le bounded

theorem datedBy_run (configured : Option RevocationScope) {limit : Int}
    {actions : List ConsentAction}
    (bounded : ∀ action ∈ actions, action.now ≤ limit) :
    DatedBy limit (consentRun configured actions) := by
  refine run_invariant_of_mem _ (DatedBy limit) ?_ ⟨?_, ?_⟩
  · intro store action member dated
    exact dated.step configured (bounded action member)
  · intro row member
    cases member
  · intro row member
    cases member

def Suppressed (query : Query) (store : ConsentStore) : Prop :=
  ∃ row, latestSuppression store query = some row ∧ row.state ≠ .none

def Ungranted (query : Query) (store : ConsentStore) : Prop :=
  ∃ row, latestConsent store query = some row ∧ row.state ≠ .granted

variable {query : Query}

theorem Suppressed.ineligible (suppressed : Suppressed query store) (now : Int) :
    (evaluateEligibility store query now).eligible = false := by
  obtain ⟨_, newest, blocks⟩ := suppressed
  rw [Bool.eq_false_iff]
  intro eligible
  obtain ⟨_, unsuppressed, _⟩ := eligible_iff.mp eligible
  rw [suppressionState, newest] at unsuppressed
  exact blocks unsuppressed

theorem Ungranted.ineligible (ungranted : Ungranted query store) (now : Int) :
    (evaluateEligibility store query now).eligible = false := by
  obtain ⟨_, newest, isUngranted⟩ := ungranted
  rw [Bool.eq_false_iff]
  intro eligible
  obtain ⟨_, _, _, granted⟩ := eligible_iff.mp eligible
  obtain ⟨_, otherNewest, isGranted, _⟩ := consentState_granted_iff.mp granted
  obtain rfl := Option.some.inj (newest.symm.trans otherNewest)
  exact isUngranted isGranted

theorem Suppressed.step (suppressed : Suppressed query store)
    (configured : Option RevocationScope)
    (notLifted : action.lifts query.tenantId query.addressId = false) :
    Suppressed query (consentStep configured store action) := by
  have change := consentStep_change configured store action
  refine (change.suppressions.filter query.readsSuppression).latest_holds
    Suppression.recordedAt (fun row => row.state ≠ .none) ?_ suppressed
  rintro row ⟨writes, reads⟩ lifted
  simp only [Query.readsSuppression, Bool.and_eq_true, beq_iff_eq] at reads
  have lifts := (writes.2 lifted).2
  rw [reads.1.1.1, reads.1.1.2, notLifted] at lifts
  cases lifts

theorem Ungranted.step (ungranted : Ungranted query store)
    (configured : Option RevocationScope)
    (notGranted : action.grants query.tenantId query.addressId = false) :
    Ungranted query (consentStep configured store action) := by
  obtain ⟨rewrite, redacts, appends⟩ :=
    (consentStep_change configured store action).consents
  obtain ⟨row, newest, isUngranted⟩ := ungranted
  refine (appends.filter query.readsConsent).latest_holds
    ConsentRecord.recordedAt (fun row => row.state ≠ .granted) ?_ ?_
  · rintro row ⟨writes, reads⟩ granted
    simp only [Query.readsConsent, Bool.and_eq_true, beq_iff_eq] at reads
    have grants := (writes.2 granted).2
    rw [reads.1.1.1, reads.1.1.2, notGranted] at grants
    cases grants
  · refine ⟨rewrite row, ?_, ?_⟩
    · rw [latest_redacted redacts, newest]
      rfl
    · obtain ⟨_, _, equal⟩ := redacts row
      rw [equal]
      exact isUngranted

end Settled

section Keyword

variable {store later : ConsentStore} {optOut : InboundOptOut} {now : Int}
  {written : List ConsentRecord × Suppression} {address : Address}

def InboundOptOut.query (optOut : InboundOptOut) (address : Address)
    (purpose : Purpose) (senderId : Option String) : Query where
  tenantId := optOut.tenantId
  addressId := optOut.addressId
  channel := address.channel
  purpose := purpose
  senderId := senderId

section Dated

variable (dated : DatedBy now store)
  (held : store.addresses.find? (optOut.tenantId, optOut.addressId) = some address)
  (recorded : recordInboundOptOut store optOut now = .ok (written, later))

include dated held recorded

theorem suppressed_of_optOut {senderId : Option String}
    (scope : optOut.senderId = none ∨ senderId = optOut.senderId)
    (purpose : Purpose) :
    Suppressed (optOut.query address purpose senderId) later := by
  obtain ⟨_, suppression, _, foundHeld, rfl, tenant, addressed,
    channel, sender, state, recordedAt, _⟩ :=
    recordInboundOptOut_ok recorded
  obtain rfl := Option.some.inj (held.symm.trans foundHeld)
  have reads : (optOut.query address purpose senderId).readsSuppression
      suppression = true := by
    simp only [Query.readsSuppression, InboundOptOut.query, tenant, addressed,
      channel, sender, inScope]
    rcases scope with accountWide | same
    · simp [accountWide]
    · simp [same]
  refine ⟨suppression, ?_, by rw [state]; decide⟩
  rw [latestSuppression, List.filter_append,
    List.filter_cons_of_pos reads, List.filter_nil]
  refine latest_append_newest Suppression.recordedAt ?_
  intro older member
  rw [recordedAt]
  exact dated.suppressions older (List.mem_of_mem_filter member)

theorem ungranted_of_optOut (senderId : Option String) (purpose : Purpose) :
    Ungranted (optOut.query address purpose senderId) later := by
  obtain ⟨_, _, _, foundHeld, rfl, _⟩ := recordInboundOptOut_ok recorded
  obtain rfl := Option.some.inj (held.symm.trans foundHeld)
  have read : (purposes.map (optOut.withdrawal address now)).filter
      (optOut.query address purpose senderId).readsConsent =
        [optOut.withdrawal address now purpose] := by
    have reads : ((optOut.query address purpose senderId).readsConsent ∘
        optOut.withdrawal address now) = fun other => other == purpose := by
      funext other
      simp [Query.readsConsent, InboundOptOut.query, InboundOptOut.withdrawal]
    rw [List.filter_map, reads]
    cases purpose <;> rfl
  refine ⟨optOut.withdrawal address now purpose, ?_,
    by simp [InboundOptOut.withdrawal]⟩
  rw [latestConsent, List.filter_append, read]
  refine latest_append_newest ConsentRecord.recordedAt ?_
  intro older member
  exact dated.consents older (List.mem_of_mem_filter member)

end Dated

end Keyword

/-- After an opt-out keyword, no run without an administrator's lift makes the
address eligible for the sender it named (for any sender, if it named none), and
no run without an authorized grant makes it eligible for anyone. -/
theorem stop_is_durable (configured : Option RevocationScope)
    (before after : List ConsentAction) (optOut : InboundOptOut) (now : Int)
    (address : Address) (written : List ConsentRecord × Suppression)
    (stopped : ConsentStore)
    (clock : (before ++ .recordInboundOptOut optOut now :: after).Pairwise
      fun first second => first.now ≤ second.now)
    (held : (consentRun configured before).addresses.find?
      (optOut.tenantId, optOut.addressId) = some address)
    (recorded : recordInboundOptOut (consentRun configured before) optOut now =
      .ok (written, stopped)) :
    let final := consentRun configured
      (before ++ .recordInboundOptOut optOut now :: after)
    (∀ purpose senderId asked,
      optOut.senderId = none ∨ senderId = optOut.senderId →
      (∀ action ∈ after,
        action.lifts optOut.tenantId optOut.addressId = false) →
      (evaluateEligibility final (optOut.query address purpose senderId)
        asked).eligible = false) ∧
    (∀ purpose senderId asked,
      (∀ action ∈ after,
        action.grants optOut.tenantId optOut.addressId = false) →
      (evaluateEligibility final (optOut.query address purpose senderId)
        asked).eligible = false) := by
  intro final
  have finalEquation : final =
      run (consentStep configured) stopped after := by
    rw [show final = _ from run_append ..]
    rw [run_cons]
    congr 1
    exact congrArg (committed (consentRun configured before)) recorded
  have dated : DatedBy now (consentRun configured before) := by
    refine datedBy_run configured fun action member => ?_
    exact (List.pairwise_append.mp clock).2.2 action member _ List.mem_cons_self
  constructor
  · intro purpose senderId asked scope notLifted
    rw [finalEquation]
    refine Suppressed.ineligible ?_ asked
    refine run_invariant_of_mem _ _ ?_
      (suppressed_of_optOut dated held recorded scope purpose)
    intro state action member suppressed
    exact suppressed.step configured (notLifted action member)
  · intro purpose senderId asked notGranted
    rw [finalEquation]
    refine Ungranted.ineligible ?_ asked
    refine run_invariant_of_mem _ _ ?_
      (ungranted_of_optOut dated held recorded senderId purpose)
    intro state action member ungranted
    exact ungranted.step configured (notGranted action member)

def sampleStop : InboundOptOut where
  tenantId := "tenant"
  addressId := "mobile"
  senderId := some "sender"

/-- A keyword sent to one number blocks that number's sender only: asked without
a sender, a contact manager's fresh grant makes the address eligible again. -/
theorem stop_undone_by_grant_without_sender :
    let actions := sampleSetup ++
      [.recordInboundOptOut sampleStop 3, sampleGrant 4]
    actions.Pairwise (fun first second => first.now ≤ second.now) ∧
    (∀ action ∈ actions, action.lifts "tenant" "mobile" = false) ∧
    (evaluateEligibility (consentRun none actions) (sampleQuery none)
      5).eligible = true := by
  decide

/-- For the sender itself the same grant and the carrier's restart change
nothing. -/
theorem stop_is_durable_sample :
    (evaluateEligibility
      (consentRun none (sampleSetup ++ .recordInboundOptOut sampleStop 3 ::
        [.recordProviderRestart "tenant" "mobile" "START" (some "sender")
          "provider_webhook" 3, sampleGrant 4]))
      (sampleQuery (some "sender")) 5).eligible = false :=
  (stop_is_durable none sampleSetup _ sampleStop 3 sampleAddress _ _
    (by decide) rfl rfl).1 .marketing (some "sender") 5 (.inr rfl) (by decide)

end AcpTask.Consent
