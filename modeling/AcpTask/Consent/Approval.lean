import AcpTask.Consent.Run
import AcpTask.Library.Commits

namespace AcpTask.Consent

open Library

/-! The review of a proposed address: its activation, and then the grants that
its consent claim asks for, each in a transaction of its own. -/

def purposeText : Purpose → String
  | .marketing => "marketing"
  | .utility => "utility"
  | .authentication => "authentication"
  | .transactional => "transactional"
  | .service => "service"

def purposeOf? (name : String) : Option Purpose :=
  purposes.find? fun purpose => purposeText purpose == name

theorem purposeOf?_eq_some_iff {name : String} {purpose : Purpose} :
    purposeOf? name = some purpose ↔ purposeText purpose = name := by
  constructor
  · intro found
    simpa using List.find?_some found
  · rintro rfl
    cases purpose <;> rfl

inductive ApprovalError where
  | consent (error : ConsentError)
  /-- `ValueError("unknown consent purpose: %r")`. -/
  | unknownPurpose (name : String)
  | proposalNotFound
  | proposalIncomplete (message : String)
  deriving DecidableEq

structure ApprovalCall where
  tenantId : String
  proposalId : String
  actor : Actor
  evidence : Option ConsentEvidence := none
  purposes : List String := []
  reason : Option String := none
  now : Int

structure Approval where
  proposalId : String
  usability : UsabilityDecision
  grantedPurposes : List String
  consent : List ConsentRecord

def addressQuery (address : Address) (purpose : Purpose) : Query where
  tenantId := address.tenantId
  addressId := address.addressId
  channel := address.channel
  purpose := purpose

def pendingConsent (store : ConsentStore) (address : Address) (now : Int) :
    List String :=
  ((purposes.filter fun purpose => consentState store
    (addressQuery address purpose) now == .pendingEvidence).map
      purposeText).mergeSort fun first second => decide (first ≤ second)

/-- `grant_consent`, of a purpose by its name. -/
def grantNamed (configured : Option RevocationScope) (call : ApprovalCall)
    (evidence : ConsentEvidence) (name : String) (store : ConsentStore) :
    Except ApprovalError (ConsentRecord × ConsentStore) := do
  (requireTenant call.tenantId).mapError .consent
  let purpose ← (purposeOf? name).elim (.error (.unknownPurpose name)) .ok
  (grantConsent configured store call.tenantId call.proposalId purpose evidence
    call.actor none call.now).mapError .consent

def grantEach (configured : Option RevocationScope) (call : ApprovalCall)
    (evidence : ConsentEvidence) :
    List String → Committing ConsentStore ApprovalError (List ConsentRecord)
  | [] => pure []
  | name :: names => do
      let record ← Committing.commit (grantNamed configured call evidence name)
      let records ← grantEach configured call evidence names
      pure (record :: records)

def checkApproval (call : ApprovalCall) (store : ConsentStore) :
    Except ApprovalError Unit := do
  (requireTenant call.tenantId).mapError .consent
  require call.actor.mayGrant (.consent (.humanDecisionRequired
    "approving a proposal requires an authorized human decision"))
  let address ← (store.addresses.find? (call.tenantId, call.proposalId)).elim
    (.error .proposalNotFound) .ok
  let claimed := pendingConsent store address call.now
  require (claimed.isEmpty || !call.purposes.isEmpty)
    (.proposalIncomplete ("this proposal claims consent for " ++
      String.intercalate ", " claimed ++ "; approve it or reject it"))
  require (call.purposes.isEmpty || call.evidence.isSome)
    (.consent (.consentEvidenceRequired ["evidence"]))

def grantsOf (configured : Option RevocationScope) (call : ApprovalCall) :
    Committing ConsentStore ApprovalError (List ConsentRecord) :=
  match call.evidence with
  | some evidence => grantEach configured call evidence call.purposes
  | none => pure []

def approve (configured : Option RevocationScope) (call : ApprovalCall) :
    Committing ConsentStore ApprovalError Approval := do
  Committing.query (checkApproval call)
  let usability ← Committing.commit fun store =>
    (activateAddress store call.tenantId call.proposalId call.actor call.reason
      call.now).mapError .consent
  let granted ← grantsOf configured call
  pure { proposalId := call.proposalId, usability
         grantedPurposes := call.purposes, consent := granted }

/-- Raising, it leaves the store as it was; else the address is active, and no
claim on it is pending. -/
def SettlesProposal (configured : Option RevocationScope) (call : ApprovalCall)
    (store : ConsentStore) : Prop :=
  let later := (approve configured call).ending store
  (∀ error, (approve configured call store).result = .error error →
    later = store) ∧
  ∀ approval, (approve configured call store).result = .ok approval →
    ∀ address, later.addresses.find? (call.tenantId, call.proposalId) =
        some address →
      (∀ purpose, usabilityState later (addressQuery address purpose) =
        .active) ∧
      pendingConsent later address call.now = []

inductive RefusedApproval (call : ApprovalCall) (store : ConsentStore) : Prop
  | tenant (unnamed : call.tenantId = "")
  | actor (unauthorized : call.actor.mayGrant = false)
  | unnamed (anonymous : call.actor.principalId = none)
  | address (absent : store.addresses.find? (call.tenantId, call.proposalId) =
      none)
  | incomplete (address : Address) (found : store.addresses.find?
      (call.tenantId, call.proposalId) = some address)
      (claimed : pendingConsent store address call.now ≠ [])
      (unanswered : call.purposes = [])
  | evidence (purposes : call.purposes ≠ []) (absent : call.evidence = none)

/-- The purposes are known, the evidence is complete, no decision on the
address is newer, and every claim is among the purposes and no newer either. -/
structure CompleteApproval (call : ApprovalCall) (store : ConsentStore)
    (address : Address) : Prop where
  known : ∀ name ∈ call.purposes, (purposeOf? name).isSome
  evidenced : call.purposes ≠ [] →
    ∀ evidence ∈ call.evidence, evidence.missingFields = []
  decided : ∀ purpose, ∀ decision ∈
    latestUsability store (addressQuery address purpose),
      decision.recordedAt ≤ call.now ∨ decision.state = .active
  claims : ∀ purpose, ∀ record ∈
    latestConsent store (addressQuery address purpose),
      record.state = .pendingEvidence →
        purposeText purpose ∈ call.purposes ∧ record.recordedAt ≤ call.now

section Approving

variable {configured : Option RevocationScope} {call : ApprovalCall}
  {store : ConsentStore} {address : Address} {evidence : ConsentEvidence}

/-- A call that is refused neither by its checks nor by the constraint on who
decides. -/
structure Proceeds (call : ApprovalCall) (store : ConsentStore)
    (address : Address) : Prop where
  named : call.tenantId ≠ ""
  authorized : call.actor.mayGrant = true
  decider : call.actor.principalId.isSome = true
  found : store.addresses.find? (call.tenantId, call.proposalId) = some address
  answered : pendingConsent store address call.now ≠ [] → call.purposes ≠ []
  evidenced : call.purposes ≠ [] → call.evidence.isSome = true

theorem refused_or_proceeds (call : ApprovalCall) (store : ConsentStore) :
    RefusedApproval call store ∨ ∃ address, Proceeds call store address := by
  by_cases named : call.tenantId = ""
  · exact .inl (.tenant named)
  cases authorized : call.actor.mayGrant with
  | false => exact .inl (.actor authorized)
  | true =>
      cases decider : call.actor.principalId with
      | none => exact .inl (.unnamed decider)
      | some =>
          cases found : store.addresses.find?
              (call.tenantId, call.proposalId) with
          | none => exact .inl (.address found)
          | some address =>
              by_cases incomplete : pendingConsent store address call.now ≠ [] ∧
                  call.purposes = []
              · exact .inl (.incomplete address found incomplete.1 incomplete.2)
              by_cases unproven : call.purposes ≠ [] ∧ call.evidence = none
              · exact .inl (.evidence unproven.1 unproven.2)
              refine .inr ⟨address, named, authorized, by rw [decider]; rfl,
                found, fun claimed unanswered =>
                  incomplete ⟨claimed, unanswered⟩, fun asked => ?_⟩
              exact Option.isSome_iff_ne_none.mpr fun absent =>
                unproven ⟨asked, absent⟩

theorem Proceeds.not_refused (proceeds : Proceeds call store address) :
    ¬ RefusedApproval call store := by
  intro refused
  cases refused with
  | tenant unnamed => exact proceeds.named unnamed
  | actor unauthorized =>
      exact Bool.false_ne_true (unauthorized.symm.trans proceeds.authorized)
  | unnamed anonymous =>
      exact Option.isSome_iff_ne_none.mp proceeds.decider anonymous
  | address absent => exact Option.some_ne_none _ (proceeds.found ▸ absent)
  | incomplete _ found claimed unanswered =>
      obtain rfl := Option.some.inj (proceeds.found.symm.trans found)
      exact proceeds.answered claimed unanswered
  | evidence asked absent =>
      exact Option.isSome_iff_ne_none.mp (proceeds.evidenced asked) absent

theorem requireTenant_of_ne {tenantId : String} (named : tenantId ≠ "") :
    requireTenant tenantId = .ok () := by
  simpa [requireTenant] using named

theorem findAddress_of_some
    (found : store.addresses.find? (call.tenantId, call.proposalId) =
      some address) :
    findAddress store call.tenantId call.proposalId = .ok address := by
  rw [findAddress, found]

theorem Proceeds.checked (proceeds : Proceeds call store address) :
    checkApproval call store = .ok () := by
  have answered : ((pendingConsent store address call.now).isEmpty ||
      !call.purposes.isEmpty) = true := by
    by_cases none : pendingConsent store address call.now = []
    · simp [none]
    · simp [proceeds.answered none]
  have evidenced : (call.purposes.isEmpty || call.evidence.isSome) = true := by
    by_cases none : call.purposes = []
    · simp [none]
    · simp [proceeds.evidenced none]
  rw [checkApproval, requireTenant_of_ne proceeds.named, proceeds.authorized,
    proceeds.found]
  show (require ((pendingConsent store address call.now).isEmpty ||
    !call.purposes.isEmpty) _ >>= fun _ => require _ _) = .ok ()
  rw [answered, evidenced]
  rfl

def activation (call : ApprovalCall) : UsabilityDecision where
  tenantId := call.tenantId
  addressId := call.proposalId
  state := .active
  transitionKind := .permissive
  decidedByPrincipalId := call.actor.principalId
  decidedByAuthority := some (grantingAuthority call.actor)
  reason := call.reason
  recordedAt := call.now

def activated (call : ApprovalCall) (store : ConsentStore) : ConsentStore :=
  { store with usability := store.usability ++ [activation call] }

theorem Proceeds.activates (proceeds : Proceeds call store address) :
    activateAddress store call.tenantId call.proposalId call.actor call.reason
      call.now = .ok (activation call, activated call store) := by
  have decider := proceeds.decider
  simp only [activateAddress, requireTenant_of_ne proceeds.named,
    proceeds.authorized, findAddress_of_some proceeds.found, require,
    insertUsability, decided, decider]
  rfl

theorem checkApproval_ok (checked : checkApproval call store = .ok ()) :
    call.tenantId ≠ "" ∧ call.actor.mayGrant = true ∧
      ∃ address, store.addresses.find? (call.tenantId, call.proposalId) =
          some address ∧
        (pendingConsent store address call.now ≠ [] → call.purposes ≠ []) ∧
        (call.purposes ≠ [] → call.evidence ≠ none) := by
  obtain ⟨_, tenant, checked⟩ := bind_eq_ok.mp checked
  obtain ⟨_, actor, checked⟩ := bind_eq_ok.mp checked
  obtain ⟨address, found, checked⟩ := bind_eq_ok.mp checked
  obtain ⟨_, answered, evidenced⟩ := bind_eq_ok.mp checked
  rw [require_eq_ok] at actor answered evidenced
  refine ⟨?_, actor, address, ?_, ?_, ?_⟩
  · rintro unnamed
    rw [unnamed] at tenant
    cases tenant
  · cases present : store.addresses.find? (call.tenantId, call.proposalId) with
    | none =>
        rw [present] at found
        cases found
    | some =>
        rw [present] at found
        cases found
        rfl
  · intro claimed unanswered
    simp [claimed, unanswered] at answered
  · intro asked absent
    simp [asked, absent] at evidenced

theorem activateAddress_anonymous (anonymous : call.actor.principalId = none) :
    ∃ error, activateAddress store call.tenantId call.proposalId call.actor
      call.reason call.now = .error error := by
  cases outcome : activateAddress store call.tenantId call.proposalId
      call.actor call.reason call.now with
  | error error => exact ⟨error, rfl⟩
  | ok =>
      obtain ⟨_, _, activates⟩ := bind_eq_ok.mp outcome
      obtain ⟨_, _, activates⟩ := bind_eq_ok.mp activates
      obtain ⟨_, _, inserted⟩ := bind_eq_ok.mp activates
      rw [insertUsability, anonymous] at inserted
      cases inserted

variable (configured) in
theorem RefusedApproval.raises (refused : RefusedApproval call store) :
    ∃ error, approve configured call store = ⟨[], .error error⟩ := by
  cases checked : checkApproval call store with
  | error error => exact ⟨error, Committing.query_bind_error checked⟩
  | ok =>
      obtain ⟨named, authorized, address, found, answered, evidenced⟩ :=
        checkApproval_ok checked
      have anonymous : call.actor.principalId = none := by
        cases refused with
        | tenant unnamed => exact absurd unnamed named
        | actor unauthorized =>
            exact absurd (unauthorized.symm.trans authorized) Bool.false_ne_true
        | unnamed anonymous => exact anonymous
        | address absent =>
            exact absurd (found.symm.trans absent) (Option.some_ne_none _)
        | incomplete _ otherFound claimed unanswered =>
            obtain rfl := Option.some.inj (found.symm.trans otherFound)
            exact absurd unanswered (answered claimed)
        | evidence asked absent => exact absurd absent (evidenced asked)
      obtain ⟨error, raised⟩ := @activateAddress_anonymous call store anonymous
      refine ⟨.consent error, ?_⟩
      rw [approve, Committing.query_bind_ok checked]
      apply Committing.commit_bind_error
      rw [raised]
      rfl

def grantRecord (configured : Option RevocationScope) (call : ApprovalCall)
    (address : Address) (evidence : ConsentEvidence) (purpose : Purpose) :
    ConsentRecord where
  tenantId := call.tenantId
  addressId := call.proposalId
  contactId := address.contactId
  channel := address.channel
  purpose := purpose
  state := .granted
  transitionKind := .permissive
  evidence := some evidence
  source := orElse evidence.source none
  actor := call.actor
  decidedByPrincipalId := call.actor.principalId
  decidedByAuthority := some (grantingAuthority call.actor)
  expiresAt := evidence.expiresAt
  revocationScope := resolveRevocationScope call.now configured
  recordedAt := call.now

def withConsents (store : ConsentStore) (rows : List ConsentRecord) :
    ConsentStore :=
  { store with consents := store.consents ++ rows }

theorem Proceeds.tenant_eq (proceeds : Proceeds call store address) :
    address.tenantId = call.tenantId ∧ address.addressId = call.proposalId :=
  Prod.mk.inj (Table.find?_eq_some_iff.mp proceeds.found).2

variable {later : ConsentStore} {name : String}

variable (configured) in
theorem Proceeds.grantNamed_ok (proceeds : Proceeds call store address)
    (same : later.addresses = store.addresses) {purpose : Purpose}
    (known : purposeOf? name = some purpose)
    (complete : evidence.missingFields = []) :
    grantNamed configured call evidence name later =
      .ok (grantRecord configured call address evidence purpose,
        withConsents later
          [grantRecord configured call address evidence purpose]) := by
  have found : findAddress later call.tenantId call.proposalId = .ok address := by
    rw [findAddress, same, proceeds.found]
  have decider := proceeds.decider
  simp only [grantNamed, grantConsent, requireTenant_of_ne proceeds.named, known,
    proceeds.authorized, complete, found, require, insertConsent, decided,
    decider]
  rfl

variable (configured call) in
theorem grantNamed_error
    (refused : purposeOf? name = none ∨ evidence.missingFields ≠ [])
    (later : ConsentStore) :
    ∃ error, grantNamed configured call evidence name later = .error error := by
  cases outcome : grantNamed configured call evidence name later with
  | error error => exact ⟨error, rfl⟩
  | ok pair =>
      obtain ⟨_, _, grants⟩ := bind_eq_ok.mp outcome
      obtain ⟨purpose, known, grants⟩ := bind_eq_ok.mp grants
      rcases refused with unknown | incomplete
      · rw [unknown] at known
        cases known
      · cases granted : grantConsent configured later call.tenantId
            call.proposalId purpose evidence call.actor none call.now with
        | error =>
            rw [granted] at grants
            cases grants
        | ok =>
            obtain ⟨_, _, granted⟩ := bind_eq_ok.mp granted
            obtain ⟨_, _, granted⟩ := bind_eq_ok.mp granted
            obtain ⟨_, complete, _⟩ := bind_eq_ok.mp granted
            rw [require_eq_ok, List.isEmpty_iff] at complete
            exact absurd complete incomplete

def grantRecords (configured : Option RevocationScope) (call : ApprovalCall)
    (address : Address) (evidence : ConsentEvidence) (names : List String) :
    List ConsentRecord :=
  (names.filterMap purposeOf?).map
    (grantRecord configured call address evidence)

variable {names : List String} {record : ConsentRecord}

theorem grantEach_cons_ok {middle : ConsentStore}
    (granted : grantNamed configured call evidence name later =
      .ok (record, middle)) :
    grantEach configured call evidence (name :: names) later =
      ⟨middle :: (grantEach configured call evidence names middle).commits,
        (grantEach configured call evidence names middle).result.map
          (record :: ·)⟩ := by
  rw [grantEach, Committing.commit_bind_ok granted]
  cases returned : (grantEach configured call evidence names middle).result with
  | error =>
      rw [Committing.bind_error returned]
      rfl
  | ok =>
      rw [Committing.bind_ok returned, Committing.pure_apply, List.append_nil]
      rfl

theorem grantEach_ending_cons {middle : ConsentStore}
    (granted : grantNamed configured call evidence name later =
      .ok (record, middle)) :
    (grantEach configured call evidence (name :: names)).ending later =
      (grantEach configured call evidence names).ending middle := by
  rw [Committing.ending, grantEach_cons_ok granted]
  exact List.getLastD_cons

variable (configured) in
theorem Proceeds.grantEach_ok (proceeds : Proceeds call store address)
    (complete : evidence.missingFields = [])
    (known : ∀ name ∈ names, (purposeOf? name).isSome)
    (same : later.addresses = store.addresses) :
    (∃ records,
      (grantEach configured call evidence names later).result = .ok records) ∧
    (grantEach configured call evidence names).ending later =
      withConsents later
        (grantRecords configured call address evidence names) := by
  induction names generalizing later with
  | nil =>
      refine ⟨⟨[], rfl⟩, ?_⟩
      rw [grantRecords, withConsents, List.filterMap_nil, List.map_nil,
        List.append_nil]
      rfl
  | cons _ _ induction =>
      rw [List.forall_mem_cons, Option.isSome_iff_exists] at known
      obtain ⟨⟨purpose, head⟩, known⟩ := known
      have granted := proceeds.grantNamed_ok configured same head complete
      obtain ⟨⟨_, returned⟩, ends⟩ := @induction (withConsents later
        [grantRecord configured call address evidence purpose]) known same
      constructor
      · rw [grantEach_cons_ok granted, returned]
        exact ⟨_, rfl⟩
      · rw [grantEach_ending_cons granted, ends, withConsents, withConsents,
          grantRecords, grantRecords, List.filterMap_cons, head,
          List.append_assoc]
        rfl

theorem Proceeds.grantEach_error (proceeds : Proceeds call store address)
    (refused : (∃ name ∈ names, purposeOf? name = none) ∨
      names ≠ [] ∧ evidence.missingFields ≠ [])
    (same : later.addresses = store.addresses) :
    ∃ error,
      (grantEach configured call evidence names later).result =
        .error error := by
  induction names generalizing later with
  | nil =>
      rcases refused with ⟨_, member, _⟩ | ⟨some, _⟩
      · cases member
      · contradiction
  | cons name names induction =>
      by_cases here : purposeOf? name = none ∨ evidence.missingFields ≠ []
      · obtain ⟨error, raised⟩ := grantNamed_error configured call here later
        refine ⟨error, ?_⟩
        rw [grantEach, Committing.commit_bind_error raised]
      · rw [not_or, not_not] at here
        obtain ⟨purpose, known⟩ := Option.ne_none_iff_exists'.mp here.1
        have granted := proceeds.grantNamed_ok configured same known here.2
        have rest : ∃ other ∈ names, purposeOf? other = none := by
          rcases refused with ⟨other, member, unknown⟩ | ⟨_, incomplete⟩
          · rcases List.mem_cons.mp member with rfl | member
            · exact absurd unknown here.1
            · exact ⟨other, member, unknown⟩
          · exact absurd here.2 incomplete
        obtain ⟨error, raised⟩ := @induction (withConsents later
          [grantRecord configured call address evidence purpose]) (.inl rest) same
        refine ⟨error, ?_⟩
        rw [grantEach_cons_ok granted, raised]
        rfl

theorem grantNamed_usability
    (granted : grantNamed configured call evidence name store =
      .ok (record, later)) : later.usability = store.usability := by
  obtain ⟨_, _, grants⟩ := bind_eq_ok.mp granted
  obtain ⟨purpose, _, grants⟩ := bind_eq_ok.mp grants
  cases outcome : grantConsent configured store call.tenantId call.proposalId
      purpose evidence call.actor none call.now with
  | error =>
      rw [outcome] at grants
      cases grants
  | ok =>
      rw [outcome] at grants
      cases grants
      obtain ⟨_, _, inserts⟩ := bind_eq_ok.mp outcome
      obtain ⟨_, _, inserts⟩ := bind_eq_ok.mp inserts
      obtain ⟨_, _, inserts⟩ := bind_eq_ok.mp inserts
      obtain ⟨_, _, inserts⟩ := bind_eq_ok.mp inserts
      rw [(insertConsent_ok inserts).2]

def SameUsability (start later : ConsentStore) : Prop :=
  later.usability = start.usability

instance : Std.Refl SameUsability := ⟨fun _ => rfl⟩

instance : IsTrans ConsentStore SameUsability :=
  ⟨fun _ _ _ first second => Eq.trans second first⟩

theorem grantEach_usability (names : List String) :
    (grantEach configured call evidence names).Keeps SameUsability := by
  induction names with
  | nil => exact .of_pure []
  | cons _ _ induction =>
      apply Committing.Keeps.bind
      · exact .of_commit fun start record later granted =>
          grantNamed_usability granted
      · exact fun record => induction.bind fun records => .of_pure _

theorem grantsOf_usability : (grantsOf configured call).Keeps SameUsability := by
  unfold grantsOf
  cases call.evidence with
  | none => exact .of_pure []
  | some => exact grantEach_usability call.purposes

variable (configured) in
theorem Proceeds.approve_eq (proceeds : Proceeds call store address) :
    approve configured call store =
      ⟨activated call store ::
          (grantsOf configured call (activated call store)).commits,
        (grantsOf configured call (activated call store)).result.map
          fun records => {
            proposalId := call.proposalId
            usability := activation call
            grantedPurposes := call.purposes
            consent := records }⟩ := by
  have activates : (activateAddress store call.tenantId call.proposalId
      call.actor call.reason call.now).mapError ApprovalError.consent =
        .ok (activation call, activated call store) := by
    rw [proceeds.activates]
    rfl
  rw [approve, Committing.query_bind_ok proceeds.checked,
    Committing.commit_bind_ok activates]
  cases returned : (grantsOf configured call (activated call store)).result with
  | error =>
      rw [Committing.bind_error returned]
      rfl
  | ok =>
      rw [Committing.bind_ok returned, Committing.pure_apply, List.append_nil]
      rfl

variable (configured) in
theorem Proceeds.approve_ending (proceeds : Proceeds call store address) :
    (approve configured call).ending store =
      (grantsOf configured call).ending (activated call store) := by
  rw [Committing.ending, proceeds.approve_eq]
  exact List.getLastD_cons

theorem activated_ne (call : ApprovalCall) (store later : ConsentStore)
    (same : later.usability = (activated call store).usability) :
    later ≠ store := by
  intro equal
  have lengths := congrArg List.length same
  rw [equal, activated, List.length_append, List.length_singleton] at lengths
  omega

structure GrantsAsked (call : ApprovalCall) (address : Address)
    (rows : List ConsentRecord) : Prop where
  each : ∀ row ∈ rows, row.state = .granted ∧ row.recordedAt = call.now ∧
    row.tenantId = call.tenantId ∧ row.addressId = call.proposalId ∧
    row.channel = address.channel ∧ purposeText row.purpose ∈ call.purposes
  all : ∀ purpose, purposeText purpose ∈ call.purposes →
    ∃ row ∈ rows, row.purpose = purpose

theorem grantRecords_asked (configured : Option RevocationScope)
    (call : ApprovalCall) (address : Address) (evidence : ConsentEvidence) :
    GrantsAsked call address
      (grantRecords configured call address evidence call.purposes) where
  each := by
    intro row member
    obtain ⟨purpose, listed, rfl⟩ := List.mem_map.mp member
    obtain ⟨_, named, known⟩ := List.mem_filterMap.mp listed
    refine ⟨rfl, rfl, rfl, rfl, rfl, ?_⟩
    rw [← purposeOf?_eq_some_iff.mp known] at named
    exact named
  all := by
    intro purpose named
    exact ⟨grantRecord configured call address evidence purpose,
      List.mem_map.mpr ⟨purpose, List.mem_filterMap.mpr
        ⟨purposeText purpose, named, purposeOf?_eq_some_iff.mpr rfl⟩, rfl⟩, rfl⟩

variable (configured) in
theorem Proceeds.grantsOf_ok (proceeds : Proceeds call store address)
    (known : ∀ name ∈ call.purposes, (purposeOf? name).isSome)
    (evidenced : call.purposes ≠ [] →
      ∀ evidence ∈ call.evidence, evidence.missingFields = []) :
    (∃ records, (grantsOf configured call (activated call store)).result =
      .ok records) ∧
    ∃ rows, GrantsAsked call address rows ∧
      (grantsOf configured call).ending (activated call store) =
        withConsents (activated call store) rows := by
  by_cases asked : call.purposes = []
  · have none : grantsOf configured call = pure [] := by
      unfold grantsOf
      cases call.evidence with
      | none => rfl
      | some =>
          rw [asked]
          rfl
    rw [none]
    refine ⟨⟨[], rfl⟩, [], ⟨fun _ member => (by cases member), ?_⟩, ?_⟩
    · intro purpose named
      rw [asked] at named
      cases named
    · rw [withConsents, List.append_nil]
      rfl
  · obtain ⟨evidence, present⟩ :=
      Option.isSome_iff_exists.mp (proceeds.evidenced asked)
    have grants : grantsOf configured call =
        grantEach configured call evidence call.purposes := by
      rw [grantsOf, present]
    obtain ⟨returned, ends⟩ := proceeds.grantEach_ok configured
      (evidenced asked evidence present) known
      (show (activated call store).addresses = store.addresses from rfl)
    rw [grants]
    exact ⟨returned, _, grantRecords_asked configured call address evidence,
      ends⟩

variable (configured) in
theorem Proceeds.grantsOf_error (proceeds : Proceeds call store address)
    (refused : (∃ name ∈ call.purposes, purposeOf? name = none) ∨
      call.purposes ≠ [] ∧ ∃ evidence ∈ call.evidence,
        evidence.missingFields ≠ []) :
    ∃ error, (grantsOf configured call (activated call store)).result =
      .error error := by
  have asked : call.purposes ≠ [] := by
    rcases refused with ⟨_, member, _⟩ | ⟨asked, _⟩
    · exact List.ne_nil_of_mem member
    · exact asked
  obtain ⟨evidence, present⟩ :=
    Option.isSome_iff_exists.mp (proceeds.evidenced asked)
  have grants : grantsOf configured call =
      grantEach configured call evidence call.purposes := by
    rw [grantsOf, present]
  rw [grants]
  apply proceeds.grantEach_error
  · rcases refused with unknown | ⟨_, _, given, incomplete⟩
    · exact .inl unknown
    · obtain rfl := Option.some.inj (present.symm.trans given)
      exact .inr ⟨asked, incomplete⟩
  · rfl

theorem readsConsent_asked {rows : List ConsentRecord}
    (asked : GrantsAsked call address rows) {row : ConsentRecord}
    (member : row ∈ rows) (proceeds : Proceeds call store address)
    (purpose : Purpose) :
    (addressQuery address purpose).readsConsent row = true ↔
      row.purpose = purpose := by
  obtain ⟨_, _, tenant, addressId, channel, _⟩ := asked.each row member
  obtain ⟨sameTenant, sameAddress⟩ := proceeds.tenant_eq
  simp [Query.readsConsent, addressQuery, tenant, addressId, channel,
    sameTenant, sameAddress]

theorem Proceeds.active_iff (proceeds : Proceeds call store address)
    (rows : List ConsentRecord) (purpose : Purpose) :
    usabilityState (withConsents (activated call store) rows)
        (addressQuery address purpose) = .active ↔
      ∀ decision ∈ latestUsability store (addressQuery address purpose),
        decision.recordedAt ≤ call.now ∨ decision.state = .active := by
  obtain ⟨sameTenant, sameAddress⟩ := proceeds.tenant_eq
  have reads : (addressQuery address purpose).readsUsability
      (activation call) = true := by
    simp [Query.readsUsability, addressQuery, activation, sameTenant,
      sameAddress]
  have newest : latestUsability (withConsents (activated call store) rows)
      (addressQuery address purpose) =
        latest UsabilityDecision.recordedAt
          (store.usability.filter (addressQuery address purpose).readsUsability
            ++ [activation call]) := by
    rw [latestUsability]
    show latest _ ((store.usability ++ [activation call]).filter _) = _
    rw [List.filter_append, List.filter_cons_of_pos reads, List.filter_nil]
  rw [usabilityState, newest, latest_append_row]
  unfold latestUsability
  cases latest UsabilityDecision.recordedAt
      (store.usability.filter (addressQuery address purpose).readsUsability) with
  | none => simp [activation]
  | some decision =>
      by_cases older : decision.recordedAt ≤ call.now
      · simp [activation, older]
      · simp [activation, older]

theorem consentState_pending_iff {query : Query} {now : Int} :
    consentState store query now = .pendingEvidence ↔
      ∃ record ∈ latestConsent store query,
        record.state = .pendingEvidence := by
  unfold consentState
  cases latestConsent store query with
  | none => simp
  | some record =>
      by_cases granted : record.state = .granted
      · by_cases lapsed : record.expiresAt.any (fun expiry =>
            decide (expiry ≤ now)) = true <;> simp [granted, lapsed]
      · simp [granted]

theorem mem_purposes (purpose : Purpose) : purpose ∈ purposes := by
  cases purpose <;> decide

theorem pendingConsent_eq_nil {now : Int} :
    pendingConsent store address now = [] ↔
      ∀ purpose, ¬ ∃ record ∈ latestConsent store
        (addressQuery address purpose), record.state = .pendingEvidence := by
  rw [pendingConsent, ← List.length_eq_zero_iff, List.length_mergeSort,
    List.length_eq_zero_iff, List.map_eq_nil_iff, List.filter_eq_nil_iff]
  constructor
  · intro none purpose pending
    exact none purpose (mem_purposes purpose)
      (beq_iff_eq.mpr (consentState_pending_iff.mpr pending))
  · intro none purpose _ pending
    exact none purpose (consentState_pending_iff.mp (beq_iff_eq.mp pending))

theorem Proceeds.pending_iff (proceeds : Proceeds call store address)
    {rows : List ConsentRecord} (asked : GrantsAsked call address rows)
    (purpose : Purpose) :
    (∃ record ∈ latestConsent (withConsents (activated call store) rows)
        (addressQuery address purpose), record.state = .pendingEvidence) ↔
      ∃ record ∈ latestConsent store (addressQuery address purpose),
        record.state = .pendingEvidence ∧
          ¬ (purposeText purpose ∈ call.purposes ∧
            record.recordedAt ≤ call.now) := by
  have newest : latestConsent (withConsents (activated call store) rows)
      (addressQuery address purpose) =
        latest ConsentRecord.recordedAt
          (store.consents.filter (addressQuery address purpose).readsConsent ++
            rows.filter (addressQuery address purpose).readsConsent) := by
    rw [← List.filter_append]
    rfl
  have granted : ∀ row ∈ rows.filter
      (addressQuery address purpose).readsConsent,
        row.state = .granted ∧ row.recordedAt = call.now := by
    intro row member
    obtain ⟨listed, _⟩ := List.mem_filter.mp member
    exact ⟨(asked.each row listed).1, (asked.each row listed).2.1⟩
  rw [newest]
  unfold latestConsent
  generalize store.consents.filter (addressQuery address purpose).readsConsent =
    before
  by_cases named : purposeText purpose ∈ call.purposes
  · obtain ⟨row, listed, same⟩ := asked.all purpose named
    have some : rows.filter (addressQuery address purpose).readsConsent ≠ [] :=
      List.ne_nil_of_mem (List.mem_filter.mpr ⟨listed,
        (readsConsent_asked asked listed proceeds purpose).mpr same⟩)
    by_cases older : ∀ record ∈ before, record.recordedAt ≤ call.now
    · obtain ⟨last, member, found⟩ := latest_append_same
        ConsentRecord.recordedAt (fun row member => (granted row member).2)
        older some
      rw [found]
      constructor
      · rintro ⟨record, same, pending⟩
        obtain rfl := Option.mem_some_iff.mp same
        rw [(granted last member).1] at pending
        cases pending
      · rintro ⟨record, first, _, newer⟩
        exact absurd ⟨named, older record (latest_mem _ first)⟩ newer
    · obtain ⟨record, member, newer⟩ := not_forall.mp older |>.imp
        fun record newer => Classical.not_imp.mp newer
      obtain ⟨best, found⟩ := Option.ne_none_iff_exists'.mp
        (latest_ne_none ConsentRecord.recordedAt member)
      have exceeds : call.now < best.recordedAt :=
        (not_le.mp newer).trans_le
          (latest_greatest ConsentRecord.recordedAt found record member)
      rw [latest_append_older ConsentRecord.recordedAt found
        fun row member => (granted row member).2 ▸ exceeds, found]
      constructor
      · rintro ⟨record, same, pending⟩
        obtain rfl := Option.mem_some_iff.mp same
        exact ⟨best, rfl, pending, fun covered =>
          absurd covered.2 (not_le.mpr exceeds)⟩
      · rintro ⟨record, same, pending, _⟩
        exact ⟨record, same, pending⟩
  · have none : rows.filter (addressQuery address purpose).readsConsent =
        [] := by
      apply List.filter_eq_nil_iff.mpr
      intro row member reads
      have same := (readsConsent_asked asked member proceeds purpose).mp reads
      exact named (same ▸ (asked.each row member).2.2.2.2.2)
    rw [none, List.append_nil]
    constructor
    · rintro ⟨record, found, pending⟩
      exact ⟨record, found, pending, fun covered => named covered.1⟩
    · rintro ⟨record, found, pending, _⟩
      exact ⟨record, found, pending⟩

end Approving

theorem RefusedApproval.settles {configured : Option RevocationScope}
    {call : ApprovalCall} {store : ConsentStore}
    (refused : RefusedApproval call store) :
    SettlesProposal configured call store := by
  obtain ⟨_, raised⟩ := refused.raises configured
  constructor
  · intro _ _
    rw [Committing.ending, raised]
    rfl
  · intro approval returned
    rw [raised] at returned
    cases returned

theorem Proceeds.settles_iff {configured : Option RevocationScope}
    {call : ApprovalCall} {store : ConsentStore} {address : Address}
    (proceeds : Proceeds call store address) :
    SettlesProposal configured call store ↔
      CompleteApproval call store address := by
  have run := proceeds.approve_eq configured
  have ends := proceeds.approve_ending configured
  by_cases goes : (∀ name ∈ call.purposes, (purposeOf? name).isSome) ∧
      (call.purposes ≠ [] → ∀ evidence ∈ call.evidence,
        evidence.missingFields = [])
  · obtain ⟨⟨records, returned⟩, rows, asked, final⟩ :=
      proceeds.grantsOf_ok configured goes.1 goes.2
    have result : (approve configured call store).result = .ok {
        proposalId := call.proposalId
        usability := activation call
        grantedPurposes := call.purposes
        consent := records } := by
      rw [run, returned]
      rfl
    have found : ((withConsents (activated call store) rows).addresses.find?
        (call.tenantId, call.proposalId)) = some address := proceeds.found
    rw [SettlesProposal, ends, final, result]
    constructor
    · rintro ⟨_, settled⟩
      obtain ⟨active, none⟩ := settled _ rfl address found
      refine ⟨goes.1, goes.2, fun purpose =>
        (proceeds.active_iff rows purpose).mp (active purpose), ?_⟩
      intro purpose record newest pending
      by_contra unsettled
      exact pendingConsent_eq_nil.mp none purpose
        ((proceeds.pending_iff asked purpose).mpr
          ⟨record, newest, pending, unsettled⟩)
    · intro complete
      refine ⟨fun error raised => (by cases raised), ?_⟩
      intro _ _ other otherFound
      obtain rfl := Option.some.inj (found.symm.trans otherFound)
      refine ⟨fun purpose => (proceeds.active_iff rows purpose).mpr
        (complete.decided purpose), pendingConsent_eq_nil.mpr ?_⟩
      rintro purpose pending
      obtain ⟨record, newest, isPending, uncovered⟩ :=
        (proceeds.pending_iff asked purpose).mp pending
      exact uncovered (complete.claims purpose record newest isPending)
  · have refused : (∃ name ∈ call.purposes, purposeOf? name = none) ∨
        call.purposes ≠ [] ∧ ∃ evidence ∈ call.evidence,
          evidence.missingFields ≠ [] := by
      by_contra neither
      rw [not_or] at neither
      refine goes ⟨fun name member => ?_, fun asked evidence given => ?_⟩
      · exact Option.isSome_iff_ne_none.mpr fun unknown =>
          neither.1 ⟨name, member, unknown⟩
      · by_contra incomplete
        exact neither.2 ⟨asked, evidence, given, incomplete⟩
    obtain ⟨error, raised⟩ := proceeds.grantsOf_error configured refused
    apply iff_of_false
    · rintro ⟨unchanged, _⟩
      have same := unchanged error (by
        rw [run, raised]
        rfl)
      rw [ends] at same
      exact activated_ne call store _
        (grantsOf_usability.ending (activated call store)) same
    · intro complete
      exact goes ⟨complete.known, complete.evidenced⟩

theorem settlesProposal_iff (configured : Option RevocationScope)
    (call : ApprovalCall) (store : ConsentStore) :
    SettlesProposal configured call store ↔
      RefusedApproval call store ∨
        ∃ address, store.addresses.find? (call.tenantId, call.proposalId) =
          some address ∧ CompleteApproval call store address := by
  rcases refused_or_proceeds call store with refused | ⟨address, proceeds⟩
  · exact iff_of_true refused.settles (.inl refused)
  · rw [proceeds.settles_iff, or_iff_right proceeds.not_refused]
    constructor
    · intro complete
      exact ⟨address, proceeds.found, complete⟩
    · rintro ⟨_, found, complete⟩
      obtain rfl := Option.some.inj (proceeds.found.symm.trans found)
      exact complete

def reviewer : Actor := ⟨.human, some "principal:rev", [manageContacts]⟩

def claimedPurpose (purpose : Purpose) : ConsentRecord where
  tenantId := "org:acme"
  contactId := "contact:1"
  addressId := "address:1"
  channel := .sms
  purpose := purpose
  state := .pendingEvidence
  transitionKind := .proposed
  source := some "agent_proposal"
  actor := { kind := .agent }
  revocationScope := .program
  recordedAt := 1

def inReview : ConsentStore where
  addresses := ⟨[⟨"org:acme", "address:1", "contact:1", .sms⟩], by decide⟩
  consents := [claimedPurpose .marketing, claimedPurpose .utility]
  usability := [{
    tenantId := "org:acme"
    addressId := "address:1"
    state := .proposed
    transitionKind := .proposed
    proposedByActorKind := some .agent
    reason := some "proposed in conversation"
    recordedAt := 1 }]

def signature : ConsentEvidence where
  captureMethod := some "paper"
  capturedAt := some 0
  capturedAtLocal := some "2026-08-05T10:00"
  jurisdiction := some "ES"
  disclosureText := some "Acme may text you."
  legalBasis := some "consent"

def review (evidence : ConsentEvidence) (purposes : List String) :
    ApprovalCall where
  tenantId := "org:acme"
  proposalId := "address:1"
  actor := reviewer
  evidence := some evidence
  purposes := purposes
  now := 2

theorem review_proceeds {purposes : List String} (asked : purposes ≠ []) :
    Proceeds (review signature purposes) inReview
      ⟨"org:acme", "address:1", "contact:1", .sms⟩ where
  named := by simp [review]
  authorized := show reviewer.mayGrant = true by decide
  decider := rfl
  found := show inReview.addresses.find? ("org:acme", "address:1") =
    some ⟨"org:acme", "address:1", "contact:1", .sms⟩ by decide
  answered := fun _ => asked
  evidenced := fun _ => rfl

/-- One review raises with the address active and the first purpose granted;
the other returns with a claim pending. -/
theorem proposal_unsettled :
    ¬ SettlesProposal none (review signature ["marketing", "utilities"])
        inReview ∧
      ¬ SettlesProposal none (review signature ["marketing"]) inReview := by
  constructor
  · rw [(review_proceeds (by decide)).settles_iff]
    intro complete
    have known := complete.known "utilities" (by decide)
    exact absurd known (by decide)
  · rw [(review_proceeds (by decide)).settles_iff]
    intro complete
    have granted := complete.claims .utility (claimedPurpose .utility)
      (by decide) rfl
    exact absurd granted.1 (by decide)

end AcpTask.Consent
