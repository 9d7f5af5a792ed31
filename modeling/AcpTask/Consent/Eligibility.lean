import AcpTask.Consent.Run

namespace AcpTask.Consent

open Library

theorem eligible_iff {store : ConsentStore} {query : Query} {now : Int} :
    (evaluateEligibility store query now).eligible = true ↔
      usabilityState store query = .active ∧
      suppressionState store query = .none ∧
      providerReachability store query = .reachable ∧
      consentState store query now = .granted := by
  simp only [evaluateEligibility, axes]
  by_cases usable : usabilityState store query = .active
  · by_cases unsuppressed : suppressionState store query = .none
    · by_cases reachable : providerReachability store query = .reachable
      · by_cases granted : consentState store query now = .granted <;>
          simp [usable, unsuppressed, reachable, granted]
      · simp [usable, unsuppressed, reachable]
    · simp [usable, unsuppressed]
  · simp [usable]

/-! Each axis under one operation. -/

section Axis

variable {action : ConsentAction} {store later : ConsentStore} {query : Query}

section Change

variable (change : ConsentChange action store later)
  (restrictive : action.restrictive = true)

include change restrictive

theorem usabilityState_of_restrictive
    (active : usabilityState later query = .active) :
    usabilityState store query = .active := by
  have unchanged : latestUsability later query =
      latestUsability store query := by
    refine (change.usability.filter query.readsUsability).latest_unchanged
      UsabilityDecision.recordedAt (fun row => row.state = .active) ?_ ?_
    · intro row writes reads
      rw [writes.1.2 reads] at restrictive
      cases restrictive
    · intro row newest
      rw [usabilityState, latestUsability, newest] at active
      exact active
  rw [usabilityState, unchanged] at active
  exact active

theorem suppressionState_of_restrictive
    (unsuppressed : suppressionState later query = .none) :
    suppressionState store query = .none := by
  have unchanged : latestSuppression later query =
      latestSuppression store query := by
    refine (change.suppressions.filter
      query.readsSuppression).latest_unchanged Suppression.recordedAt
      (fun row => row.state = .none) ?_ ?_
    · intro row writes reads
      rw [(writes.1.2 reads).1] at restrictive
      cases restrictive
    · intro row newest
      rw [suppressionState, latestSuppression, newest] at unsuppressed
      exact unsuppressed
  rw [suppressionState, unchanged] at unsuppressed
  exact unsuppressed

theorem providerReachability_of_restrictive
    (reachable : providerReachability later query = .reachable) :
    providerReachability store query = .reachable := by
  have unchanged : latestReachability later query =
      latestReachability store query := by
    refine (change.reachability.filter
      query.readsReachability).latest_unchanged ReachabilityEvent.recordedAt
      (fun row => row.state = .reachable) ?_ ?_
    · intro row writes reads
      rw [writes.1.2 reads] at restrictive
      cases restrictive
    · intro row newest
      rw [providerReachability, latestReachability, newest] at reachable
      exact reachable
  rw [providerReachability, unchanged] at reachable
  exact reachable

end Change

theorem latest_redacted {rewrite : ConsentRecord → ConsentRecord}
    (redacts : ∀ row, Redacts row (rewrite row)) :
    latest ConsentRecord.recordedAt
        ((store.consents.map rewrite).filter query.readsConsent) =
      (latestConsent store query).map rewrite := by
  have sameReads : (query.readsConsent ∘ rewrite) = query.readsConsent := by
    funext row
    obtain ⟨body, purgedAt, equal⟩ := redacts row
    simp only [Function.comp, equal, Query.readsConsent]
  rw [List.filter_map, sameReads, latest_map]
  · rfl
  · intro row
    obtain ⟨_, _, equal⟩ := redacts row
    rw [equal]

theorem consentState_granted_iff {now : Int} :
    consentState store query now = .granted ↔
      ∃ row, latestConsent store query = some row ∧ row.state = .granted ∧
        ∀ expiry, row.expiresAt = some expiry → now < expiry := by
  unfold consentState
  cases latestConsent store query with
  | none => simp
  | some row =>
      cases expires : row.expiresAt with
      | none => simp [expires]
      | some expiry =>
          by_cases lapsed : expiry ≤ now
          · by_cases granted : row.state = .granted <;>
              simp [expires, lapsed, granted]
          · simp [expires, lapsed, not_le.mp lapsed]

theorem consentState_of_restrictive
    (change : ConsentChange action store later)
    (restrictive : action.restrictive = true) {now asked : Int}
    (notBefore : now ≤ asked)
    (granted : consentState later query asked = .granted) :
    consentState store query now = .granted := by
  obtain ⟨rewrite, redacts, appends⟩ := change.consents
  obtain ⟨row, newest, isGranted, unexpired⟩ :=
    consentState_granted_iff.mp granted
  have unchanged : latestConsent later query =
      (latestConsent store query).map rewrite := by
    rw [← latest_redacted redacts]
    refine (appends.filter query.readsConsent).latest_unchanged
      ConsentRecord.recordedAt (fun row => row.state = .granted) ?_ ?_
    · intro row writes reads
      rw [(writes.1.2 reads).1] at restrictive
      cases restrictive
    · intro other otherNewest
      obtain rfl := Option.some.inj (newest.symm.trans otherNewest)
      exact isGranted
  rw [newest] at unchanged
  obtain ⟨old, oldNewest, rfl⟩ := Option.map_eq_some_iff.mp unchanged.symm
  obtain ⟨_, _, equal⟩ := redacts old
  rw [equal] at isGranted unexpired
  refine consentState_granted_iff.mpr ⟨old, oldNewest, isGranted, ?_⟩
  intro expiry expires
  exact notBefore.trans_lt (unexpired expiry expires)

end Axis

/-- In every reachable state, no restrictive operation under any recorded time
turns an ineligible answer into an eligible one, now or later. -/
theorem restrictive_never_enables (configured : Option RevocationScope)
    (actions : List ConsentAction) (action : ConsentAction)
    (restrictive : action.restrictive = true) (query : Query)
    (now asked : Int) (notBefore : now ≤ asked)
    (ineligible : (evaluateEligibility (consentRun configured actions) query
      now).eligible = false) :
    (evaluateEligibility
      (consentStep configured (consentRun configured actions) action) query
      asked).eligible = false := by
  have change := consentStep_change configured (consentRun configured actions)
    action
  cases answer : (evaluateEligibility
      (consentStep configured (consentRun configured actions) action) query
      asked).eligible with
  | false => rfl
  | true =>
      obtain ⟨active, unsuppressed, reachable, granted⟩ :=
        eligible_iff.mp answer
      have eligible := eligible_iff.mpr
        ⟨usabilityState_of_restrictive change restrictive active,
          suppressionState_of_restrictive change restrictive unsuppressed,
          providerReachability_of_restrictive change restrictive reachable,
          consentState_of_restrictive change restrictive notBefore granted⟩
      rw [ineligible] at eligible
      cases eligible

def sampleAddress : Address where
  tenantId := "tenant"
  addressId := "mobile"
  contactId := "contact"
  channel := .sms

def sampleAddresses : Table Address Address.key where
  rows := [sampleAddress]
  primaryKey := List.nodup_singleton _

def sampleManager : Actor where
  kind := .human
  principalId := some "manager"
  authorities := [manageContacts]

def sampleEvidence : ConsentEvidence where
  captureMethod := some "voice_recording"
  capturedAt := some 1
  capturedAtLocal := some "1970-01-01T00:00:00"
  jurisdiction := some "US"
  disclosureText := some "You agree to receive messages."
  legalBasis := some "consent"

def sampleGrant (now : Int) : ConsentAction :=
  .grantConsent "tenant" "mobile" .marketing sampleEvidence sampleManager none
    now

def sampleSetup : List ConsentAction :=
  [.setAddresses sampleAddresses 0,
    .activateAddress "tenant" "mobile" sampleManager none 1, sampleGrant 2]

def sampleQuery (senderId : Option String) : Query where
  tenantId := "tenant"
  addressId := "mobile"
  channel := .sms
  purpose := .marketing
  senderId := senderId

/-- A bounce suppresses the address; an unsubscribe recorded on top of it does
not bring the answer back. -/
theorem restrictive_never_enables_sample :
    let actions := sampleSetup ++
      [.suppress "tenant" "mobile" .suppressedByBounce none "system" none none
        3]
    (evaluateEligibility (consentRun none actions) (sampleQuery none)
      4).reason = "suppressed_by_bounce" ∧
    (evaluateEligibility
      (consentStep none (consentRun none actions)
        (.recordOptOut "tenant" "mobile" .utility none none none 2))
      (sampleQuery none) 5).eligible = false :=
  ⟨by decide, restrictive_never_enables none _ _ rfl (sampleQuery none) 4 5
    (by decide) (by decide)⟩

end AcpTask.Consent
