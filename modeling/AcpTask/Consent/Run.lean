import AcpTask.Consent.Ledger

namespace AcpTask.Consent

open Library

/-! The consent repository as a machine.  The address book is written by the
contacts repository; here it changes in any way. -/

inductive ConsentAction where
  | grantConsent (tenantId addressId : String) (purpose : Purpose)
      (evidence : ConsentEvidence) (actor : Actor)
      (revocationScope : Option RevocationScope) (now : Int)
  | proposeConsent (tenantId addressId : String) (purpose : Purpose)
      (actor : Actor) (source : Option String) (now : Int)
  | recordOptOut (tenantId addressId : String) (purpose : Purpose)
      (actor : Option Actor) (source : Option String)
      (revocationScope : Option RevocationScope) (now : Int)
  | recordInboundOptOut (optOut : InboundOptOut) (now : Int)
  | suppress (tenantId addressId : String) (state : SuppressionState)
      (reasonCode : Option String) (source : String) (actor : Option Actor)
      (senderId : Option String) (now : Int)
  | liftSuppression (tenantId addressId : String) (actor : Actor)
      (reasonCode : Option String) (senderId : Option String)
      (source : String) (now : Int)
  | proposeAddress (tenantId addressId : String) (actor : Actor)
      (reason : Option String) (now : Int)
  | activateAddress (tenantId addressId : String) (actor : Actor)
      (reason : Option String) (now : Int)
  | retireAddress (tenantId addressId : String) (actor : Option Actor)
      (reason : Option String) (now : Int)
  | recordProviderRestart (tenantId addressId keyword : String)
      (senderId : Option String) (source : String) (now : Int)
  | purgeExpiredContent (tenantId : String) (now : Int)
  | setAddresses (addresses : Table Address Address.key) (now : Int)

def ConsentAction.now : ConsentAction → Int
  | .grantConsent _ _ _ _ _ _ now => now
  | .proposeConsent _ _ _ _ _ now => now
  | .recordOptOut _ _ _ _ _ _ now => now
  | .recordInboundOptOut _ now => now
  | .suppress _ _ _ _ _ _ _ now => now
  | .liftSuppression _ _ _ _ _ _ now => now
  | .proposeAddress _ _ _ _ now => now
  | .activateAddress _ _ _ _ now => now
  | .retireAddress _ _ _ _ now => now
  | .recordProviderRestart _ _ _ _ _ now => now
  | .purgeExpiredContent _ now => now
  | .setAddresses _ now => now

def ConsentAction.restrictive : ConsentAction → Bool
  | .proposeConsent .. => true
  | .recordOptOut .. => true
  | .recordInboundOptOut .. => true
  | .suppress .. => true
  | .proposeAddress .. => true
  | .retireAddress .. => true
  | .purgeExpiredContent .. => true
  | _ => false

def committed {Value : Type} (store : ConsentStore) :
    Except ConsentError (Value × ConsentStore) → ConsentStore
  | .ok (_, later) => later
  | .error _ => store

def consentStep (configured : Option RevocationScope) (store : ConsentStore) :
    ConsentAction → ConsentStore
  | .grantConsent tenantId addressId purpose evidence actor revocationScope
      now =>
      committed store (grantConsent configured store tenantId addressId purpose
        evidence actor revocationScope now)
  | .proposeConsent tenantId addressId purpose actor source now =>
      committed store (proposeConsent configured store tenantId addressId
        purpose actor source now)
  | .recordOptOut tenantId addressId purpose actor source revocationScope
      now =>
      committed store (recordOptOut configured store tenantId addressId purpose
        actor source revocationScope now)
  | .recordInboundOptOut optOut now =>
      committed store (recordInboundOptOut store optOut now)
  | .suppress tenantId addressId state reasonCode source actor senderId now =>
      committed store (suppress store tenantId addressId state reasonCode
        source actor senderId now)
  | .liftSuppression tenantId addressId actor reasonCode senderId source
      now =>
      committed store (liftSuppression store tenantId addressId actor
        reasonCode senderId source now)
  | .proposeAddress tenantId addressId actor reason now =>
      committed store (proposeAddress store tenantId addressId actor reason now)
  | .activateAddress tenantId addressId actor reason now =>
      committed store (activateAddress store tenantId addressId actor reason
        now)
  | .retireAddress tenantId addressId actor reason now =>
      committed store (retireAddress store tenantId addressId actor reason now)
  | .recordProviderRestart tenantId addressId keyword senderId source now =>
      committed store (recordProviderRestart store tenantId addressId keyword
        senderId source now)
  | .purgeExpiredContent tenantId now =>
      committed store (purgeExpiredContent store tenantId now)
  | .setAddresses addresses _ => { store with addresses }

def consentRun (configured : Option RevocationScope)
    (actions : List ConsentAction) : ConsentStore :=
  run (consentStep configured) ConsentStore.empty actions

def ConsentAction.grants (tenantId addressId : String) :
    ConsentAction → Bool
  | .grantConsent tenant address _ _ actor _ _ =>
      tenant == tenantId && address == addressId && actor.mayGrant
  | _ => false

def ConsentAction.lifts (tenantId addressId : String) : ConsentAction → Bool
  | .liftSuppression tenant address actor _ _ _ _ =>
      tenant == tenantId && address == addressId && actor.mayLift
  | _ => false

def Redacts (row later : ConsentRecord) : Prop :=
  ∃ body purgedAt, later = { row with
    inboundMessageBody := body, contentPurgedAt := purgedAt }

theorem redact_redacts (tenantId : String) (now : Int) (row : ConsentRecord) :
    Redacts row (redact tenantId now row) := by
  unfold redact
  split
  · exact ⟨none, some now, rfl⟩
  · exact ⟨row.inboundMessageBody, row.contentPurgedAt, rfl⟩

def WritesConsent (action : ConsentAction) (row : ConsentRecord) : Prop :=
  row.recordedAt = action.now ∧
    (row.state = .granted → action.restrictive = false ∧
      action.grants row.tenantId row.addressId = true)

def WritesSuppression (action : ConsentAction) (row : Suppression) : Prop :=
  row.recordedAt = action.now ∧
    (row.state = .none → action.restrictive = false ∧
      action.lifts row.tenantId row.addressId = true)

def WritesUsability (action : ConsentAction) (row : UsabilityDecision) :
    Prop :=
  row.recordedAt = action.now ∧
    (row.state = .active → action.restrictive = false)

def WritesReachability (action : ConsentAction) (row : ReachabilityEvent) :
    Prop :=
  row.recordedAt = action.now ∧
    (row.state = .reachable → action.restrictive = false)

/-- One operation: every ledger grows by rows the operation may write, and
consent rows may have been redacted. -/
structure ConsentChange (action : ConsentAction) (store later : ConsentStore) :
    Prop where
  consents : ∃ rewrite, (∀ row, Redacts row (rewrite row)) ∧
    Appends (WritesConsent action) (store.consents.map rewrite) later.consents
  suppressions : Appends (WritesSuppression action) store.suppressions
    later.suppressions
  usability : Appends (WritesUsability action) store.usability later.usability
  reachability : Appends (WritesReachability action) store.reachability
    later.reachability

variable {store later : ConsentStore}

theorem inserted_ok {Row : Type} {accepted : Bool} {record written : Row}
    (inserted : (if accepted then .ok (record, store)
      else .error ConsentError.checkViolation) = Except.ok (written, later)) :
    written = record ∧ later = store := by
  split at inserted
  · cases inserted
    exact ⟨rfl, rfl⟩
  · cases inserted

theorem insertConsent_ok {record written : ConsentRecord}
    (inserted : insertConsent store record = .ok (written, later)) :
    written = record ∧
      later = { store with consents := store.consents ++ [record] } :=
  inserted_ok inserted

theorem insertSuppression_ok {record written : Suppression}
    (inserted : insertSuppression store record = .ok (written, later)) :
    written = record ∧
      later = { store with
        suppressions := store.suppressions ++ [record] } :=
  inserted_ok inserted

theorem insertUsability_ok {record written : UsabilityDecision}
    (inserted : insertUsability store record = .ok (written, later)) :
    written = record ∧
      later = { store with usability := store.usability ++ [record] } :=
  inserted_ok inserted

theorem insertReachability_ok {record written : ReachabilityEvent}
    (inserted : insertReachability store record = .ok (written, later)) :
    written = record ∧
      later = { store with
        reachability := store.reachability ++ [record] } :=
  inserted_ok inserted

theorem insertConsents_ok {rows records : List ConsentRecord}
    (inserted : insertConsents store rows = .ok (records, later)) :
    later = { store with consents := store.consents ++ rows } := by
  induction rows generalizing store records with
  | nil =>
      cases inserted
      rw [List.append_nil]
  | cons _ _ induction =>
      obtain ⟨⟨_, _⟩, first, others⟩ := bind_eq_ok.mp inserted
      obtain ⟨⟨_, _⟩, remaining, equal⟩ := bind_eq_ok.mp others
      cases equal
      obtain ⟨_, rfl⟩ := insertConsent_ok first
      rw [induction remaining, List.append_assoc, List.singleton_append]

theorem findAddress_ok {tenantId addressId : String} {address : Address}
    (found : findAddress store tenantId addressId = .ok address) :
    store.addresses.find? (tenantId, addressId) = some address := by
  unfold findAddress at found
  split at found
  · rename_i present
    cases found
    exact present
  · cases found

namespace ConsentChange

variable {action : ConsentAction} {store : ConsentStore}

theorem appended {later : ConsentStore}
    (consents : Appends (WritesConsent action) store.consents later.consents)
    (suppressions : Appends (WritesSuppression action) store.suppressions
      later.suppressions)
    (usability : Appends (WritesUsability action) store.usability
      later.usability)
    (reachability : Appends (WritesReachability action) store.reachability
      later.reachability) :
    ConsentChange action store later where
  consents := ⟨id, fun row => ⟨row.inboundMessageBody, row.contentPurgedAt,
    rfl⟩, by rwa [List.map_id]⟩
  suppressions := suppressions
  usability := usability
  reachability := reachability

theorem unchanged (addresses : Table Address Address.key) :
    ConsentChange action store { store with addresses } :=
  .appended (.refl _) (.refl _) (.refl _) (.refl _)

theorem of_ok {Value : Type}
    {result : Except ConsentError (Value × ConsentStore)}
    (change : ∀ value later, result = .ok (value, later) →
      ConsentChange action store later) :
    ConsentChange action store (committed store result) := by
  cases result with
  | error => exact .unchanged store.addresses
  | ok pair => exact change pair.1 pair.2 rfl

theorem consent {record written : ConsentRecord}
    {later : ConsentStore}
    (inserted : insertConsent store record = .ok (written, later))
    (holds : WritesConsent action record) :
    ConsentChange action store later := by
  obtain ⟨rfl, rfl⟩ := insertConsent_ok inserted
  exact .appended (.single _ holds) (.refl _) (.refl _) (.refl _)

theorem withdrawals {rows records : List ConsentRecord}
    {later : ConsentStore}
    (inserted : insertConsents store rows = .ok (records, later))
    (holds : ∀ row ∈ rows, WritesConsent action row) :
    ConsentChange action store later := by
  obtain rfl := insertConsents_ok inserted
  exact .appended ⟨rows, rfl, holds⟩ (.refl _) (.refl _) (.refl _)

theorem suppression {record written : Suppression}
    {later : ConsentStore}
    (inserted : insertSuppression store record = .ok (written, later))
    (holds : WritesSuppression action record) :
    ConsentChange action store later := by
  obtain ⟨rfl, rfl⟩ := insertSuppression_ok inserted
  exact .appended (.refl _) (.single _ holds) (.refl _) (.refl _)

theorem usabilityDecision {record written : UsabilityDecision}
    {later : ConsentStore}
    (inserted : insertUsability store record = .ok (written, later))
    (holds : WritesUsability action record) :
    ConsentChange action store later := by
  obtain ⟨rfl, rfl⟩ := insertUsability_ok inserted
  exact .appended (.refl _) (.refl _) (.single _ holds) (.refl _)

theorem reachabilityEvent {record written : ReachabilityEvent}
    {later : ConsentStore}
    (inserted : insertReachability store record = .ok (written, later))
    (holds : WritesReachability action record) :
    ConsentChange action store later := by
  obtain ⟨rfl, rfl⟩ := insertReachability_ok inserted
  exact .appended (.refl _) (.refl _) (.refl _) (.single _ holds)

end ConsentChange

theorem recordInboundOptOut_ok {optOut : InboundOptOut} {now : Int}
    {written : List ConsentRecord × Suppression}
    (recorded : recordInboundOptOut store optOut now = .ok (written, later)) :
    ∃ address suppression event,
      store.addresses.find? (optOut.tenantId, optOut.addressId) = some address ∧
      later = { store with
        consents := store.consents ++
          purposes.map (optOut.withdrawal address now)
        suppressions := store.suppressions ++ [suppression]
        reachability := store.reachability ++ [event] } ∧
      suppression.tenantId = optOut.tenantId ∧
      suppression.addressId = optOut.addressId ∧
      suppression.channel = address.channel ∧
      suppression.senderId = optOut.senderId ∧
      suppression.state = .suppressedByOptout ∧
      suppression.recordedAt = now ∧
      event.state = .blockedByProvider ∧ event.recordedAt = now := by
  obtain ⟨_, _, rest⟩ := bind_eq_ok.mp recorded
  obtain ⟨address, addressFound, rest⟩ := bind_eq_ok.mp rest
  obtain ⟨⟨_, _⟩, withdrawn, rest⟩ := bind_eq_ok.mp rest
  obtain ⟨⟨_, _⟩, suppressed, rest⟩ := bind_eq_ok.mp rest
  obtain ⟨⟨_, _⟩, unreachable, rest⟩ := bind_eq_ok.mp rest
  cases rest
  obtain rfl := insertConsents_ok withdrawn
  obtain ⟨rfl, rfl⟩ := insertSuppression_ok suppressed
  obtain ⟨rfl, rfl⟩ := insertReachability_ok unreachable
  exact ⟨address, _, _, findAddress_ok addressFound, rfl, rfl, rfl, rfl, rfl,
    rfl, rfl, rfl, rfl⟩

theorem consentStep_change (configured : Option RevocationScope)
    (store : ConsentStore) (action : ConsentAction) :
    ConsentChange action store (consentStep configured store action) := by
  cases action with
  | grantConsent =>
      refine ConsentChange.of_ok fun record later granted => ?_
      obtain ⟨_, _, rest⟩ := bind_eq_ok.mp granted
      obtain ⟨_, authorized, rest⟩ := bind_eq_ok.mp rest
      obtain ⟨_, _, rest⟩ := bind_eq_ok.mp rest
      obtain ⟨address, _, inserted⟩ := bind_eq_ok.mp rest
      refine .consent inserted ⟨rfl, fun _ => ⟨rfl, ?_⟩⟩
      simpa [ConsentAction.grants] using authorized
  | proposeConsent =>
      refine ConsentChange.of_ok fun record later proposed => ?_
      obtain ⟨_, _, rest⟩ := bind_eq_ok.mp proposed
      obtain ⟨address, _, inserted⟩ := bind_eq_ok.mp rest
      exact .consent inserted ⟨rfl, by simp⟩
  | recordOptOut =>
      refine ConsentChange.of_ok fun records later withdrawn => ?_
      obtain ⟨_, _, rest⟩ := bind_eq_ok.mp withdrawn
      obtain ⟨address, _, inserted⟩ := bind_eq_ok.mp rest
      refine .withdrawals inserted ?_
      intro row member
      obtain ⟨_, _, rfl⟩ := List.mem_map.mp member
      exact ⟨rfl, by simp⟩
  | recordInboundOptOut =>
      refine ConsentChange.of_ok fun written later recorded => ?_
      obtain ⟨address, _, _, _, rfl, _, _, _, _, suppressed,
        suppressedAt, blocked, blockedAt⟩ := recordInboundOptOut_ok recorded
      refine .appended ⟨_, rfl, ?_⟩
        (.single _ ⟨suppressedAt, by simp [suppressed]⟩) (.refl _)
        (.single _ ⟨blockedAt, by simp [blocked]⟩)
      intro row member
      obtain ⟨_, _, rfl⟩ := List.mem_map.mp member
      exact ⟨rfl, by simp [InboundOptOut.withdrawal]⟩
  | suppress =>
      refine ConsentChange.of_ok fun record later suppressed => ?_
      obtain ⟨_, _, rest⟩ := bind_eq_ok.mp suppressed
      obtain ⟨_, suppressing, rest⟩ := bind_eq_ok.mp rest
      obtain ⟨address, _, inserted⟩ := bind_eq_ok.mp rest
      refine .suppression inserted ⟨rfl, fun lifted => ?_⟩
      exact absurd lifted (by simpa using suppressing)
  | liftSuppression =>
      refine ConsentChange.of_ok fun record later lifted => ?_
      obtain ⟨_, _, rest⟩ := bind_eq_ok.mp lifted
      obtain ⟨_, authorized, rest⟩ := bind_eq_ok.mp rest
      obtain ⟨address, _, inserted⟩ := bind_eq_ok.mp rest
      refine .suppression inserted ⟨rfl, fun _ => ⟨rfl, ?_⟩⟩
      simpa [ConsentAction.lifts] using authorized
  | activateAddress =>
      refine ConsentChange.of_ok fun record later activated => ?_
      obtain ⟨_, _, rest⟩ := bind_eq_ok.mp activated
      obtain ⟨_, _, rest⟩ := bind_eq_ok.mp rest
      obtain ⟨address, _, inserted⟩ := bind_eq_ok.mp rest
      exact .usabilityDecision inserted ⟨rfl, fun _ => rfl⟩
  | proposeAddress | retireAddress =>
      refine ConsentChange.of_ok fun record later decided => ?_
      obtain ⟨_, _, rest⟩ := bind_eq_ok.mp decided
      obtain ⟨_, _, inserted⟩ := bind_eq_ok.mp rest
      exact .usabilityDecision inserted ⟨rfl, by simp⟩
  | recordProviderRestart =>
      refine ConsentChange.of_ok fun record later restarted => ?_
      obtain ⟨_, _, rest⟩ := bind_eq_ok.mp restarted
      obtain ⟨_, _, inserted⟩ := bind_eq_ok.mp rest
      exact .reachabilityEvent inserted ⟨rfl, fun _ => rfl⟩
  | purgeExpiredContent tenantId now =>
      refine ConsentChange.of_ok fun purged later done => ?_
      obtain ⟨_, _, equal⟩ := bind_eq_ok.mp done
      cases equal
      exact ⟨⟨redact tenantId now, redact_redacts tenantId now, .refl _⟩,
        .refl _, .refl _, .refl _⟩
  | setAddresses addresses => exact .unchanged addresses

/-- What a purge leaves of a consent row. -/
def ConsentRecord.decision (row : ConsentRecord) : ConsentRecord :=
  { row with inboundMessageBody := none, contentPurgedAt := none }

def ConsentStore.decisions (store : ConsentStore) : List ConsentRecord :=
  store.consents.map ConsentRecord.decision

theorem ledgers_append_only (configured : Option RevocationScope)
    (store : ConsentStore) (actions : List ConsentAction) :
    let final := run (consentStep configured) store actions
    Appends (fun row => ∃ action ∈ actions, WritesConsent action row)
        store.decisions final.decisions ∧
      Appends (fun row => ∃ action ∈ actions, WritesSuppression action row)
        store.suppressions final.suppressions ∧
      Appends (fun row => ∃ action ∈ actions, WritesUsability action row)
        store.usability final.usability ∧
      Appends (fun row => ∃ action ∈ actions, WritesReachability action row)
        store.reachability final.reachability := by
  have change := consentStep_change configured
  refine ⟨.run (fun state action => ?_) store actions,
    .run (change · · |>.suppressions) .., .run (change · · |>.usability) ..,
    .run (change · · |>.reachability) ..⟩
  obtain ⟨rewrite, redacts, extra, equal, holds⟩ :=
    (change state action).consents
  refine ⟨extra.map ConsentRecord.decision, ?_, ?_⟩
  · rw [ConsentStore.decisions, equal, List.map_append, List.map_map]
    congr 1
    refine List.map_congr_left fun row _ => ?_
    obtain ⟨_, _, same⟩ := redacts row
    rw [Function.comp_apply, same]
    rfl
  · intro row member
    obtain ⟨written, added, rfl⟩ := List.mem_map.mp member
    exact holds written added

end AcpTask.Consent
