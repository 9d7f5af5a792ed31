import AcpTask.Library.Latest
import AcpTask.Library.Table
import AcpTask.Library.Transaction

namespace AcpTask.Consent

open Library

variable (store : ConsentStore)

/-! Vocabulary of the three axes.  Instants are microseconds since the epoch. -/

inductive Channel where
  | sms | whatsapp | voice | email
  deriving DecidableEq

inductive Purpose where
  | marketing | utility | authentication | transactional | service
  deriving DecidableEq

def purposes : List Purpose :=
  [.marketing, .utility, .authentication, .transactional, .service]

inductive Topic where
  | promotional | operational | security
  deriving DecidableEq

def purposeTopic : Purpose → Topic
  | .marketing => .promotional
  | .utility => .operational
  | .transactional => .operational
  | .service => .operational
  | .authentication => .security

inductive ConsentState where
  | unknown | pendingEvidence | granted | expired | withdrawn
  deriving DecidableEq

inductive SuppressionState where
  | none | suppressedByOptout | suppressedByBounce | suppressedByAdmin
  | suppressedByProvider
  deriving DecidableEq

def SuppressionState.text : SuppressionState → String
  | .none => "none"
  | .suppressedByOptout => "suppressed_by_optout"
  | .suppressedByBounce => "suppressed_by_bounce"
  | .suppressedByAdmin => "suppressed_by_admin"
  | .suppressedByProvider => "suppressed_by_provider"

inductive UsabilityState where
  | proposed | active | retired
  deriving DecidableEq

inductive ReachabilityState where
  | reachable | blockedByProvider
  deriving DecidableEq

inductive ActorKind where
  | human | agent | system | provider | contact
  deriving DecidableEq

inductive RevocationScope where
  | program | topic | crossTopic
  deriving DecidableEq

inductive TransitionKind where
  | permissive | restrictive | proposed
  deriving DecidableEq

structure Actor where
  kind : ActorKind
  principalId : Option String := none
  authorities : List String := []
  deriving DecidableEq

def manageContacts : String := "manage_contacts"
def administer : String := "administer"

def Actor.holds (actor : Actor) (authorities : List String) : Bool :=
  authorities.any fun name => actor.authorities.contains name

def Actor.mayGrant (actor : Actor) : Bool :=
  actor.kind == .human && actor.holds [manageContacts, administer]

def Actor.mayLift (actor : Actor) : Bool :=
  actor.kind == .human && actor.holds [administer]

def grantingAuthority (actor : Actor) : String :=
  if actor.holds [administer] then administer else manageContacts

structure ConsentEvidence where
  captureMethod : Option String
  capturedAt : Option Int
  capturedAtLocal : Option String
  jurisdiction : Option String
  disclosureText : Option String
  legalBasis : Option String
  source : Option String := none
  captureTimezone : Option String := none
  defaultUnchecked : Option Bool := none
  expiresAt : Option Int := none
  deriving DecidableEq

def formCaptureMethods : List String :=
  ["web_form", "embedded_form", "import_form"]

def absent (value : Option String) : Bool := value == none || value == some ""

def ConsentEvidence.missingFields (evidence : ConsentEvidence) : List String :=
  let required := [
    ("capture_method", absent evidence.captureMethod),
    ("captured_at", evidence.capturedAt.isNone),
    ("captured_at_local", absent evidence.capturedAtLocal),
    ("jurisdiction", absent evidence.jurisdiction),
    ("disclosure_text", absent evidence.disclosureText),
    ("legal_basis", absent evidence.legalBasis)]
  let missing := (required.filter Prod.snd).map Prod.fst
  if evidence.defaultUnchecked = some false then
    missing ++ ["default_unchecked"]
  else if formCaptureMethods.any
      (fun method => evidence.captureMethod == some method) &&
      evidence.defaultUnchecked != some true then
    missing ++ ["default_unchecked"]
  else missing

/-! The four ledgers.  Each is append-only and in insertion order, so that a
row's place is the `ledger_sequence` the database assigns it. -/

structure ConsentRecord where
  tenantId : String
  contactId : String
  addressId : String
  channel : Channel
  purpose : Purpose
  state : ConsentState
  transitionKind : TransitionKind
  evidence : Option ConsentEvidence := none
  source : Option String := none
  actor : Actor
  decidedByPrincipalId : Option String := none
  decidedByAuthority : Option String := none
  expiresAt : Option Int := none
  revocationScope : RevocationScope
  inboundMessageBody : Option String := none
  contentExpiresAt : Option Int := none
  contentPurgedAt : Option Int := none
  recordedAt : Int
  deriving DecidableEq

structure Suppression where
  tenantId : String
  addressId : String
  channel : Channel
  senderId : Option String
  state : SuppressionState
  transitionKind : TransitionKind
  reasonCode : Option String
  source : String
  actor : Actor
  decidedByPrincipalId : Option String := none
  decidedByAuthority : Option String := none
  recordedAt : Int
  deriving DecidableEq

structure UsabilityDecision where
  tenantId : String
  addressId : String
  state : UsabilityState
  transitionKind : TransitionKind
  proposedByActorKind : Option ActorKind := none
  proposedByPrincipalId : Option String := none
  decidedByPrincipalId : Option String := none
  decidedByAuthority : Option String := none
  reason : Option String
  recordedAt : Int

structure ReachabilityEvent where
  tenantId : String
  addressId : String
  channel : Channel
  senderId : Option String
  state : ReachabilityState
  providerKeyword : Option String
  source : String
  recordedAt : Int

structure Address where
  tenantId : String
  addressId : String
  contactId : String
  channel : Channel
  deriving DecidableEq

abbrev Address.key (address : Address) : String × String :=
  (address.tenantId, address.addressId)

structure ConsentStore where
  addresses : Table Address Address.key
  consents : List ConsentRecord := []
  suppressions : List Suppression := []
  usability : List UsabilityDecision := []
  reachability : List ReachabilityEvent := []

def ConsentStore.empty : ConsentStore := { addresses := Table.empty }

inductive ConsentError where
  | tenantScopeRequired
  | addressNotFound
  | humanDecisionRequired (message : String)
  | administratorRequired (message : String)
  | consentEvidenceRequired (missing : List String)
  | valueError (message : String)
  | checkViolation
  deriving DecidableEq

def crossTopicRevocationEffective : Int := 1801353600 * 1000000

def resolveRevocationScope (now : Int)
    (configured : Option RevocationScope) : RevocationScope :=
  if crossTopicRevocationEffective ≤ now then .crossTopic
  else configured.getD .program

def purposesReachedBy (purpose : Purpose) :
    RevocationScope → List Purpose
  | .crossTopic => purposes
  | .topic => purposes.filter fun name =>
      purposeTopic name == purposeTopic purpose
  | .program => [purpose]

def requireTenant (tenantId : String) : Except ConsentError Unit :=
  require (tenantId != "") .tenantScopeRequired

def findAddress (tenantId addressId : String) : Except ConsentError Address :=
  match store.addresses.find? (tenantId, addressId) with
  | some address => .ok address
  | none => .error .addressNotFound

/-- `value or other`. -/
def orElse (value other : Option String) : Option String :=
  if absent value then other else value

/-! Appending to the ledgers, under the tables' `check` clauses. -/

def decided (kind : TransitionKind) (principalId : Option String) : Bool :=
  kind != .permissive || principalId.isSome

def insertConsent (record : ConsentRecord) :
    Except ConsentError (ConsentRecord × ConsentStore) :=
  if decided record.transitionKind record.decidedByPrincipalId then
    .ok (record, { store with consents := store.consents ++ [record] })
  else .error .checkViolation

def insertSuppression (record : Suppression) :
    Except ConsentError (Suppression × ConsentStore) :=
  if decided record.transitionKind record.decidedByPrincipalId then
    .ok (record, { store with suppressions := store.suppressions ++ [record] })
  else .error .checkViolation

def insertUsability (record : UsabilityDecision) :
    Except ConsentError (UsabilityDecision × ConsentStore) :=
  if decided record.transitionKind record.decidedByPrincipalId then
    .ok (record, { store with usability := store.usability ++ [record] })
  else .error .checkViolation

def reachabilitySources : List String :=
  ["provider_webhook", "provider_api", "operator"]

def insertReachability (record : ReachabilityEvent) :
    Except ConsentError (ReachabilityEvent × ConsentStore) :=
  if reachabilitySources.contains record.source then
    .ok (record, { store with reachability := store.reachability ++ [record] })
  else .error .checkViolation

def insertConsents (store : ConsentStore) :
    List ConsentRecord → Except ConsentError (List ConsentRecord × ConsentStore)
  | [] => .ok ([], store)
  | row :: rows => do
      let (record, store) ← insertConsent store row
      let (records, store) ← insertConsents store rows
      pure (record :: records, store)

def grantConsent (configured : Option RevocationScope)
    (store : ConsentStore) (tenantId addressId : String) (purpose : Purpose)
    (evidence : ConsentEvidence) (actor : Actor)
    (revocationScope : Option RevocationScope) (now : Int) :
    Except ConsentError (ConsentRecord × ConsentStore) := do
  requireTenant tenantId
  require actor.mayGrant (.humanDecisionRequired
    "granting consent requires an authorized human decision")
  require evidence.missingFields.isEmpty
    (.consentEvidenceRequired evidence.missingFields)
  let address ← findAddress store tenantId addressId
  insertConsent store {
    tenantId, addressId, purpose, actor
    contactId := address.contactId
    channel := address.channel
    state := .granted
    transitionKind := .permissive
    evidence := some evidence
    source := orElse evidence.source none
    decidedByPrincipalId := actor.principalId
    decidedByAuthority := some (grantingAuthority actor)
    expiresAt := evidence.expiresAt
    revocationScope := resolveRevocationScope now
      (revocationScope.or configured)
    recordedAt := now }

def proposeConsent (configured : Option RevocationScope)
    (store : ConsentStore) (tenantId addressId : String) (purpose : Purpose)
    (actor : Actor) (source : Option String) (now : Int) :
    Except ConsentError (ConsentRecord × ConsentStore) := do
  requireTenant tenantId
  let address ← findAddress store tenantId addressId
  insertConsent store {
    tenantId, addressId, purpose, actor
    contactId := address.contactId
    channel := address.channel
    state := .pendingEvidence
    transitionKind := .proposed
    source := orElse source (some "agent_proposal")
    revocationScope := resolveRevocationScope now configured
    recordedAt := now }

def recordOptOut (configured : Option RevocationScope)
    (store : ConsentStore) (tenantId addressId : String) (purpose : Purpose)
    (actor : Option Actor) (source : Option String)
    (revocationScope : Option RevocationScope) (now : Int) :
    Except ConsentError (List ConsentRecord × ConsentStore) := do
  requireTenant tenantId
  let scope := resolveRevocationScope now (revocationScope.or configured)
  let address ← findAddress store tenantId addressId
  insertConsents store ((purposesReachedBy purpose scope).map
    fun reached => {
      tenantId, addressId
      actor := actor.getD { kind := .contact }
      contactId := address.contactId
      channel := address.channel
      purpose := reached
      state := .withdrawn
      transitionKind := .restrictive
      source := orElse source (some "preference_centre")
      revocationScope := scope
      recordedAt := now })

structure InboundOptOut where
  tenantId : String
  addressId : String
  keyword : String := "STOP"
  senderId : Option String := none
  messageBody : Option String := none
  source : String := "provider_webhook"
  actor : Option Actor := none
  contentTtlSeconds : Int := 30 * 24 * 60 * 60

def InboundOptOut.withdrawal (optOut : InboundOptOut) (address : Address)
    (now : Int) (purpose : Purpose) :
    ConsentRecord where
  tenantId := optOut.tenantId
  contactId := address.contactId
  addressId := optOut.addressId
  channel := address.channel
  purpose := purpose
  state := .withdrawn
  transitionKind := .restrictive
  source := orElse (some optOut.source) (some optOut.keyword)
  actor := optOut.actor.getD { kind := .contact }
  revocationScope := .crossTopic
  inboundMessageBody := optOut.messageBody
  contentExpiresAt :=
    if absent optOut.messageBody then none
    else some (now + optOut.contentTtlSeconds * 1000000)
  recordedAt := now

def recordInboundOptOut (optOut : InboundOptOut) (now : Int) :
    Except ConsentError
      ((List ConsentRecord × Suppression) × ConsentStore) := do
  requireTenant optOut.tenantId
  let address ← findAddress store optOut.tenantId optOut.addressId
  let (withdrawals, store) ← insertConsents store
    (purposes.map (optOut.withdrawal address now))
  let (suppression, store) ← insertSuppression store {
    tenantId := optOut.tenantId
    addressId := optOut.addressId
    channel := address.channel
    senderId := optOut.senderId
    state := .suppressedByOptout
    transitionKind := .restrictive
    reasonCode := some optOut.keyword
    source := optOut.source
    actor := optOut.actor.getD { kind := .contact }
    recordedAt := now }
  let (_, store) ← insertReachability store {
    tenantId := optOut.tenantId
    addressId := optOut.addressId
    channel := address.channel
    senderId := optOut.senderId
    state := .blockedByProvider
    providerKeyword := some optOut.keyword
    source := optOut.source
    recordedAt := now }
  pure ((withdrawals, suppression), store)

def suppress (tenantId addressId : String) (state : SuppressionState)
    (reasonCode : Option String) (source : String) (actor : Option Actor)
    (senderId : Option String) (now : Int) :
    Except ConsentError (Suppression × ConsentStore) := do
  requireTenant tenantId
  require (state != .none) (.valueError "not a suppressing state: 'none'")
  let address ← findAddress store tenantId addressId
  insertSuppression store {
    tenantId, addressId, senderId, state, reasonCode, source
    channel := address.channel
    transitionKind := .restrictive
    actor := actor.getD { kind := .system }
    recordedAt := now }

def liftSuppression (tenantId addressId : String) (actor : Actor)
    (reasonCode : Option String) (senderId : Option String) (source : String)
    (now : Int) : Except ConsentError (Suppression × ConsentStore) := do
  requireTenant tenantId
  require actor.mayLift (.administratorRequired
    "lifting a suppression requires an administrator")
  let address ← findAddress store tenantId addressId
  insertSuppression store {
    tenantId, addressId, senderId, reasonCode, source, actor
    channel := address.channel
    state := .none
    transitionKind := .permissive
    decidedByPrincipalId := actor.principalId
    decidedByAuthority := some administer
    recordedAt := now }

def proposeAddress (tenantId addressId : String) (actor : Actor)
    (reason : Option String) (now : Int) :
    Except ConsentError (UsabilityDecision × ConsentStore) := do
  requireTenant tenantId
  let _ ← findAddress store tenantId addressId
  insertUsability store {
    tenantId, addressId, reason
    state := .proposed
    transitionKind := .proposed
    proposedByActorKind := some actor.kind
    proposedByPrincipalId := actor.principalId
    recordedAt := now }

def activateAddress (tenantId addressId : String) (actor : Actor)
    (reason : Option String) (now : Int) :
    Except ConsentError (UsabilityDecision × ConsentStore) := do
  requireTenant tenantId
  require actor.mayGrant (.humanDecisionRequired
    "activating an address requires an authorized human decision")
  let _ ← findAddress store tenantId addressId
  insertUsability store {
    tenantId, addressId, reason
    state := .active
    transitionKind := .permissive
    decidedByPrincipalId := actor.principalId
    decidedByAuthority := some (grantingAuthority actor)
    recordedAt := now }

def retireAddress (tenantId addressId : String) (actor : Option Actor)
    (reason : Option String) (now : Int) :
    Except ConsentError (UsabilityDecision × ConsentStore) := do
  requireTenant tenantId
  let _ ← findAddress store tenantId addressId
  insertUsability store {
    tenantId, addressId, reason
    state := .retired
    transitionKind := .restrictive
    decidedByPrincipalId := actor.bind Actor.principalId
    recordedAt := now }

def recordProviderRestart (tenantId addressId keyword : String)
    (senderId : Option String) (source : String) (now : Int) :
    Except ConsentError (ReachabilityEvent × ConsentStore) := do
  requireTenant tenantId
  let address ← findAddress store tenantId addressId
  insertReachability store {
    tenantId, addressId, senderId, source
    channel := address.channel
    state := .reachable
    providerKeyword := some keyword
    recordedAt := now }

def contentDue (tenantId : String) (now : Int) (row : ConsentRecord) : Bool :=
  row.tenantId == tenantId && row.contentPurgedAt.isNone &&
  row.inboundMessageBody.isSome &&
  row.contentExpiresAt.any fun expiry => decide (expiry ≤ now)

def redact (tenantId : String) (now : Int) (row : ConsentRecord) :
    ConsentRecord :=
  if contentDue tenantId now row then
    { row with inboundMessageBody := none, contentPurgedAt := some now }
  else row

def purgeExpiredContent (tenantId : String) (now : Int) :
    Except ConsentError (List ConsentRecord × ConsentStore) := do
  requireTenant tenantId
  pure (store.consents.filter (contentDue tenantId now),
    { store with consents := store.consents.map (redact tenantId now) })

structure Query where
  tenantId : String
  addressId : String
  channel : Channel
  purpose : Purpose
  senderId : Option String := none

def inScope (rowSender asked : Option String) : Bool :=
  rowSender == none || rowSender == asked

def Query.readsConsent (query : Query) (row : ConsentRecord) : Bool :=
  row.tenantId == query.tenantId && row.addressId == query.addressId &&
  row.channel == query.channel && row.purpose == query.purpose

def Query.readsSuppression (query : Query) (row : Suppression) : Bool :=
  row.tenantId == query.tenantId && row.addressId == query.addressId &&
  row.channel == query.channel && inScope row.senderId query.senderId

def Query.readsUsability (query : Query) (row : UsabilityDecision) : Bool :=
  row.tenantId == query.tenantId && row.addressId == query.addressId

def Query.readsReachability (query : Query) (row : ReachabilityEvent) : Bool :=
  row.tenantId == query.tenantId && row.addressId == query.addressId &&
  row.channel == query.channel && inScope row.senderId query.senderId

def latestConsent (query : Query) : Option ConsentRecord :=
  latest ConsentRecord.recordedAt (store.consents.filter query.readsConsent)

def latestSuppression (query : Query) : Option Suppression :=
  latest Suppression.recordedAt
    (store.suppressions.filter query.readsSuppression)

def latestUsability (query : Query) : Option UsabilityDecision :=
  latest UsabilityDecision.recordedAt
    (store.usability.filter query.readsUsability)

def latestReachability (query : Query) : Option ReachabilityEvent :=
  latest ReachabilityEvent.recordedAt
    (store.reachability.filter query.readsReachability)

def consentState (query : Query) (now : Int) : ConsentState :=
  match latestConsent store query with
  | none => .unknown
  | some row =>
      if row.state = .granted ∧ row.expiresAt.any (fun expiry =>
          decide (expiry ≤ now)) then .expired
      else row.state

def suppressionState (query : Query) : SuppressionState :=
  match latestSuppression store query with
  | none => .none
  | some row => row.state

def usabilityState (query : Query) : UsabilityState :=
  match latestUsability store query with
  | none => .proposed
  | some row => row.state

def providerReachability (query : Query) : ReachabilityState :=
  match latestReachability store query with
  | none => .reachable
  | some row => row.state

structure Axes where
  consent : ConsentState
  suppression : SuppressionState
  usability : UsabilityState
  providerReachability : ReachabilityState

def axes (query : Query) (now : Int) : Axes where
  consent := consentState store query now
  suppression := suppressionState store query
  usability := usabilityState store query
  providerReachability := Consent.providerReachability store query

structure EligibilityDecision where
  eligible : Bool
  reason : String
  axes : Axes

def consentReason : ConsentState → String
  | .expired => "consent_expired"
  | .withdrawn => "consent_withdrawn"
  | _ => "consent_missing"

def evaluateEligibility (query : Query) (now : Int) : EligibilityDecision :=
  let readings := axes store query now
  if readings.usability ≠ .active then
    { eligible := false
      reason := if readings.usability = .retired then "address_retired"
        else "address_not_usable"
      axes := readings }
  else if readings.suppression ≠ .none then
    { eligible := false, reason := readings.suppression.text, axes := readings }
  else if readings.providerReachability ≠ .reachable then
    { eligible := false, reason := "provider_unreachable", axes := readings }
  else if readings.consent ≠ .granted then
    { eligible := false
      reason := consentReason readings.consent
      axes := readings }
  else { eligible := true, reason := "eligible", axes := readings }

end AcpTask.Consent
