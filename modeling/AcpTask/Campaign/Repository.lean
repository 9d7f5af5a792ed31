import Mathlib.Data.List.Sort
import AcpTask.Data.Json
import AcpTask.Library.Table
import AcpTask.Library.Transaction

namespace AcpTask.Campaign

open Data Library

variable (hashing : Hashing) (store : CampaignStore)

inductive CampaignStatus where
  | audiencePreviewed
  | authorized
  | scheduled
  | running
  | blockedConnection
  | deferredQuietHours
  | throttled
  | paused
  | draining
  | reconciling
  | drained
  | expired
  | stopped
  | invalidated
  deriving DecidableEq

/-- The statuses under which `claim_next` hands out an effect. -/
def CampaignStatus.claimable : CampaignStatus → Bool
  | .authorized | .scheduled | .running | .deferredQuietHours | .throttled =>
      true
  | _ => false

def CampaignStatus.selectable (status : CampaignStatus) : Bool :=
  status.claimable || status == .blockedConnection

inductive EffectStatus where
  | pending
  | deferred
  | claimed
  | completed
  | prevented
  | uncertain
  | neverEligible
  | cancelled
  deriving DecidableEq

def EffectStatus.open : EffectStatus → Bool
  | .pending | .deferred => true
  | _ => false

/-- A campaign's definition: the fields the repository and the worker read, and
the rest of the document. -/
structure Definition where
  branchId : String
  startsAt : Int
  endsAt : Int
  budgetMicros : Int
  concurrency : Int
  durationSeconds : Int
  audienceCeiling : Int
  includeLateArrivals : Bool
  details : Value

/-- The document as `_json` writes it and `get` reads it back. -/
def Definition.sorted (definition : Definition) : Definition :=
  { definition with details := definition.details.sortKeys }

structure CampaignRow where
  tenantId : String
  campaignId : String
  createdBy : String
  authorizedBy : Option String := none
  definition : Definition
  definitionHash : String
  cohortHash : String
  envelopeHash : String
  status : CampaignStatus
  approvalExpiresAt : Int
  envelopeExpiresAt : Option Int := none
  reaffirmBy : Option Int := none
  estimatedSpendMicros : Int := 0
  createdAt : Int
  updatedAt : Int

abbrev CampaignRow.key (row : CampaignRow) : String × String :=
  (row.tenantId, row.campaignId)

structure Member where
  contactId : String
  channel : String
  addressId : String
  branchId : String
  maskedDestination : String

inductive Inclusion where
  | excluded (reason : String)
  | included
  | late
  deriving DecidableEq

structure CohortRow where
  tenantId : String
  campaignId : String
  member : Member
  inclusion : Inclusion

structure EffectKey where
  tenantId : String
  campaignId : String
  contactId : String
  channel : String
  deriving DecidableEq

def EffectKey.campaign (key : EffectKey) : String × String :=
  (key.tenantId, key.campaignId)

abbrev CohortRow.key (row : CohortRow) : EffectKey :=
  ⟨row.tenantId, row.campaignId, row.member.contactId, row.member.channel⟩

structure Effect where
  key : EffectKey
  addressId : String
  cycle : Nat := 1
  status : EffectStatus := .pending
  reason : Option String := none
  notBefore : Int
  claimedBy : Option String := none
  claimedAt : Option Int := none
  leaseExpiresAt : Option Int := none
  attemptCount : Nat := 0
  providerId : Option String := none
  updatedAt : Int

structure CampaignStore where
  campaigns : Table CampaignRow CampaignRow.key
  cohort : Table CohortRow CohortRow.key
  effects : Table Effect Effect.key

def CampaignStore.empty : CampaignStore :=
  ⟨Table.empty, Table.empty, Table.empty⟩

inductive CampaignError where
  | valueError (message : String)
  | lookupError (message : String)
  | permissionDenied (message : String)
  | envelopeChanged (message : String)
  | stateConflict (message : String)
  | integrityError
  deriving DecidableEq

structure CohortProof where
  contactId : String
  channel : String
  addressId : String
  branchId : String

structure Hashing where
  definition : Definition → String
  cohort : List CohortProof → String
  envelope : Definition → String → String → String

/-! Statements. -/

def updateCampaign (key : String × String) (assign : CampaignRow → CampaignRow)
    (keepsKey : ∀ row, (assign row).key = row.key) : CampaignStore :=
  { store with
    campaigns := store.campaigns.updateWhere
      (fun row => decide (row.key = key)) assign keepsKey }

/-- `set_status`, whatever the campaign's status is. -/
def setStatus (key : String × String) (status : CampaignStatus) (now : Int) :
    CampaignStore :=
  updateCampaign store key
    (fun row => { row with status, updatedAt := now }) (fun _ => rfl)

def closeOpenEffects (key : String × String) (status : EffectStatus)
    (reason : String) (now : Int) : CampaignStore :=
  { store with
    effects := store.effects.updateWhere
      (fun row => decide (row.key.campaign = key) && row.status.open)
      (fun row => { row with status, reason := some reason, updatedAt := now })
      (fun _ => rfl) }

def forbiddenFields : List String :=
  ["to", "destination", "address", "address_id", "contact_id"]

mutual
def carriesDestination : Value → Bool
  | .dict items =>
      items.any (fun item => forbiddenFields.contains item.1) ||
        dictCarriesDestination items
  | .list items => listCarriesDestination items
  | _ => false

def listCarriesDestination : List Value → Bool
  | [] => false
  | item :: items => carriesDestination item || listCarriesDestination items

def dictCarriesDestination : List (String × Value) → Bool
  | [] => false
  | (_, item) :: items =>
      carriesDestination item || dictCarriesDestination items
end

def validateDefinition (definition : Definition) :
    Except CampaignError Unit := do
  require (decide (0 < definition.budgetMicros) &&
      decide (0 < definition.concurrency))
    (.valueError "campaign budget and concurrency must be positive")
  require (decide (0 < definition.durationSeconds))
    (.valueError "campaign duration must be positive")
  require (decide (0 < definition.audienceCeiling))
    (.valueError "campaign audience ceiling must be positive")
  require (!carriesDestination definition.details)
    (.valueError "campaign definition cannot carry destinations")

/-- `setdefault` over the audience: the first member of a contact and channel
stays. -/
def distinctMembers (audience : List Member) : List Member :=
  audience.foldl (fun included member =>
    if included.any fun other => other.contactId == member.contactId &&
        other.channel == member.channel then included
    else included ++ [member]) []

def memberOrder (left right : Member) : Prop :=
  left.contactId < right.contactId ∨
    (left.contactId = right.contactId ∧ left.channel ≤ right.channel)

instance : DecidableRel memberOrder := fun _ _ =>
  inferInstanceAs (Decidable (_ ∨ _))

def Member.proof (member : Member) : CohortProof where
  contactId := member.contactId
  channel := member.channel
  addressId := member.addressId
  branchId := member.branchId

def cohortProof (members : List Member) : List CohortProof :=
  (members.insertionSort memberOrder).map Member.proof

def Hashing.envelopeOf (definition : Definition) (cohortHash : String) :
    String :=
  hashing.envelope definition.sorted (hashing.definition definition.sorted)
    cohortHash

structure Exclusion where
  contactId : String
  channel : Option String := none
  addressId : Option String := none
  branchId : Option String := none
  maskedDestination : Option String := none
  reason : String

def Exclusion.member (exclusion : Exclusion) (definition : Definition) :
    Member where
  contactId := exclusion.contactId
  channel := exclusion.channel.getD "sms"
  addressId := exclusion.addressId.getD ("excluded:" ++ exclusion.contactId)
  branchId := exclusion.branchId.getD definition.branchId
  maskedDestination := exclusion.maskedDestination.getD "redacted"

def insertCampaign (row : CampaignRow) : Except CampaignError CampaignStore :=
  match store.campaigns.insert? row with
  | some campaigns => .ok { store with campaigns }
  | none => .error .integrityError

def insertCohort (row : CohortRow) : Except CampaignError CampaignStore :=
  match store.cohort.insert? row with
  | some cohort => .ok { store with cohort }
  | none => .error .integrityError

def insertCohortOrIgnore (row : CohortRow) : CampaignStore :=
  match store.cohort.insert? row with
  | some cohort => { store with cohort }
  | none => store

def createPreview (key : String × String) (principalId : String)
    (definition : Definition) (audience : List Member)
    (exclusions : List Exclusion)
    (estimatedSpendMicros approvalTtlSeconds now : Int) :
    Except CampaignError Unit × CampaignStore :=
  transaction store fun store => do
    validateDefinition definition
    let included := distinctMembers audience
    require (decide ((included.length : Int) ≤ definition.audienceCeiling))
      (.valueError "campaign audience exceeds its ceiling")
    let cohortHash := hashing.cohort (cohortProof included)
    let row : CampaignRow := {
      tenantId := key.1
      campaignId := key.2
      createdBy := principalId
      definition := definition.sorted
      definitionHash := hashing.definition definition.sorted
      cohortHash
      envelopeHash := hashing.envelopeOf definition cohortHash
      status := .audiencePreviewed
      approvalExpiresAt := now + approvalTtlSeconds
      estimatedSpendMicros
      createdAt := now
      updatedAt := now }
    let created ← insertCampaign store row
    let filled ← included.foldlM (fun store member =>
      insertCohort store ⟨key.1, key.2, member, .included⟩) created
    pure ((), exclusions.foldl (fun store exclusion =>
      insertCohortOrIgnore store ⟨key.1, key.2,
        exclusion.member definition, .excluded exclusion.reason⟩) filled)

def insertEffect (row : Effect) : Except CampaignError CampaignStore :=
  match store.effects.insert? row with
  | some effects => .ok { store with effects }
  | none => .error .integrityError

def get (key : String × String) : Except CampaignError CampaignRow :=
  match store.campaigns.find? key with
  | some row => .ok row
  | none => .error (.lookupError "campaign not found")

def cohortMembers (key : String × String) (inclusion : Inclusion) :
    List Member :=
  ((store.cohort.rows.filter fun row =>
    decide (row.key.campaign = key) && row.inclusion == inclusion).map
      CohortRow.member)

def Member.effect (member : Member) (key : String × String)
    (notBefore now : Int) : Effect where
  key := ⟨key.1, key.2, member.contactId, member.channel⟩
  addressId := member.addressId
  notBefore := notBefore
  updatedAt := now

/-- The transaction of `authorize`, behind its permission check. -/
def authorize (key : String × String) (principalId : String) (permitted : Bool)
    (now : Int) : Except CampaignError Unit × CampaignStore :=
  transaction store fun store => do
    let campaign ← get store key
    let definition := campaign.definition
    require permitted (.permissionDenied "campaign_use permission is required")
    require (campaign.status == .audiencePreviewed)
      (.stateConflict "campaign is not ready for authorization")
    require (decide (now ≤ campaign.approvalExpiresAt))
      (.stateConflict "campaign preview authorization expired")
    let envelopeHash := hashing.envelope definition.sorted
      campaign.definitionHash campaign.cohortHash
    require (envelopeHash == campaign.envelopeHash)
      (.envelopeChanged "campaign preview binding changed")
    let envelopeExpiresAt :=
      min (definition.startsAt + definition.durationSeconds) definition.endsAt
    require (decide (now < envelopeExpiresAt))
      (.stateConflict "campaign envelope is already expired")
    let opened := updateCampaign store key
      (fun row => { row with
        status := .authorized, authorizedBy := some principalId, envelopeHash,
        envelopeExpiresAt := some envelopeExpiresAt, updatedAt := now })
      (fun _ => rfl)
    let filled ← (cohortMembers store key .included).foldlM
      (fun store member => insertEffect store
        (member.effect key definition.startsAt now)) opened
    pure ((), filled)

/-- What `add_late_audience_member` asks of the campaign it read. -/
def admitsLate (campaign : CampaignRow) : Bool :=
  campaign.definition.includeLateArrivals && campaign.status.selectable

def addLateAudienceMember (campaign : CampaignRow) (member : Member)
    (now : Int) : Except CampaignError Bool × CampaignStore :=
  let key := campaign.key
  let counted := cohortMembers store key .included ++
    cohortMembers store key .late
  if campaign.definition.audienceCeiling ≤ (counted.length : Int) then
    (.ok false, store)
  else match store.cohort.insert? ⟨key.1, key.2, member, .late⟩ with
    | none => (.ok false, store)
    | some cohort => transaction store fun store => do
        let filled ← insertEffect { store with cohort }
          (member.effect key (max now campaign.definition.startsAt) now)
        pure (true, filled)

/-- The comparison of `assert_envelope`, on the definition its caller holds. -/
def envelopeHolds (campaign : CampaignRow) (definition : Definition) : Bool :=
  let cohortHash :=
    hashing.cohort (cohortProof (cohortMembers store campaign.key .included))
  hashing.definition definition.sorted == campaign.definitionHash &&
  cohortHash == campaign.cohortHash &&
  hashing.envelopeOf definition cohortHash == campaign.envelopeHash

def invalidate (key : String × String) (now : Int) : CampaignStore :=
  closeOpenEffects (setStatus store key .invalidated now) key .cancelled
    "envelope_changed" now

def pausable : CampaignStatus → Bool
  | .authorized | .scheduled | .running => true
  | _ => false

/-- The guarded update of `check_authority`. -/
def requireReaffirmation (key : String × String)
    (reaffirmWithinSeconds now : Int) : CampaignStore :=
  { store with
    campaigns := store.campaigns.updateWhere
      (fun row => decide (row.key = key) && pausable row.status)
      (fun row => { row with
        status := .paused, reaffirmBy := some (now + reaffirmWithinSeconds),
        updatedAt := now })
      (fun _ => rfl) }

def selectionOrder (left right : CampaignRow) : Prop :=
  left.updatedAt < right.updatedAt ∨ (left.updatedAt = right.updatedAt ∧
    (left.tenantId < right.tenantId ∨ (left.tenantId = right.tenantId ∧
      left.campaignId ≤ right.campaignId)))

instance : DecidableRel selectionOrder := fun _ _ =>
  inferInstanceAs (Decidable (_ ∨ _))

def nextCampaign : Option (String × String) :=
  (((store.campaigns.rows.filter fun row =>
    row.status.selectable).insertionSort selectionOrder).head?).map
      CampaignRow.key

def claimOrder (left right : CampaignRow × Effect) : Prop :=
  left.1.updatedAt < right.1.updatedAt ∨
  (left.1.updatedAt = right.1.updatedAt ∧
    (left.2.updatedAt < right.2.updatedAt ∨
    (left.2.updatedAt = right.2.updatedAt ∧
      (left.2.key.contactId < right.2.key.contactId ∨
      (left.2.key.contactId = right.2.key.contactId ∧
        left.2.key.channel ≤ right.2.key.channel)))))

instance : DecidableRel claimOrder := fun _ _ =>
  inferInstanceAs (Decidable (_ ∨ _))

def claimCandidate (now : Int) (scope : Option (String × String))
    (effect : Effect) : Option (CampaignRow × Effect) :=
  if effect.status.open && decide (effect.notBefore ≤ now) &&
      (scope == none || scope == some effect.key.campaign) then
    ((store.campaigns.find? effect.key.campaign).filter fun campaign =>
      campaign.status.claimable).map fun campaign => (campaign, effect)
  else none

def claimedCount (key : String × String) : Nat :=
  (store.effects.rows.filter fun row =>
    decide (row.key.campaign = key) && row.status == .claimed).length

def chooseClaim (now : Int) (scope : Option (String × String)) :
    Option (CampaignRow × Effect) :=
  ((store.effects.rows.filterMap (claimCandidate store now
    scope)).insertionSort claimOrder).find? fun candidate =>
      decide ((claimedCount store candidate.1.key : Int) <
        candidate.1.definition.concurrency)

def claimedEffect (workerId : String) (now leaseSeconds : Int)
    (effect : Effect) : Effect :=
  { effect with
    status := .claimed
    claimedBy := some workerId
    claimedAt := some now
    leaseExpiresAt := some (now + leaseSeconds)
    updatedAt := now }

def claimNext (workerId : String) (now leaseSeconds : Int)
    (scope : Option (String × String)) : Option Effect × CampaignStore :=
  match chooseClaim store now scope with
  | none => (none, store)
  | some (campaign, effect) =>
      (some (claimedEffect workerId now leaseSeconds effect),
        setStatus
          { store with
            effects := store.effects.updateWhere
              (fun row => decide (row.key = effect.key) && row.status.open)
              (claimedEffect workerId now leaseSeconds) (fun _ => rfl) }
          campaign.key .running now)

/-- The columns `complete_effect` writes. -/
structure Completion where
  status : EffectStatus
  reason : Option String := none
  providerId : Option String := none
  deferUntil : Option Int := none
  countAttempt : Bool := false

def completeEffect (effect : Effect) (completion : Completion) (now : Int) :
    Bool × CampaignStore :=
  let owned := fun row : Effect =>
    row.status == .claimed && row.claimedBy.isSome &&
      row.claimedBy == effect.claimedBy
  (((store.effects.find? effect.key).filter owned).isSome,
    { store with
      effects := store.effects.updateWhere
        (fun row => decide (row.key = effect.key) && owned row)
        (fun row => { row with
          status := completion.status
          reason := completion.reason
          providerId := completion.providerId
          notBefore := completion.deferUntil.getD effect.notBefore
          claimedBy := none
          claimedAt := none
          leaseExpiresAt := none
          attemptCount := row.attemptCount +
            (if completion.countAttempt then 1 else 0)
          updatedAt := now })
        (fun _ => rfl) })

def leaseExpired (now : Int) (row : Effect) : Bool :=
  row.status == .claimed &&
    row.leaseExpiresAt.any fun expiry => decide (expiry < now)

def recoverExpiredClaims (now : Int) : CampaignStore :=
  { store with
    effects := store.effects.updateWhere (leaseExpired now)
      (fun row => { row with
        status := .uncertain
        reason := some "worker_lease_expired"
        claimedBy := none
        claimedAt := none
        leaseExpiresAt := none
        updatedAt := now })
      (fun _ => rfl) }

/-- The update of `reconcile_effect`; true when it found the effect
uncertain. -/
def reconcileEffect (key : EffectKey) (verdict : String)
    (providerId : Option String) (now : Int) : Bool × CampaignStore :=
  let delivered := verdict == "delivered"
  (((store.effects.find? key).filter fun row =>
      row.status == .uncertain).isSome,
    { store with
      effects := store.effects.updateWhere
        (fun row => decide (row.key = key) && row.status == .uncertain)
        (fun row => { row with
          status := if delivered then .completed else .prevented
          reason := if delivered then none else some verdict
          providerId := providerId.or row.providerId
          updatedAt := now })
        (fun _ => rfl) })

def expire (key : String × String) (now : Int) : CampaignStore :=
  closeOpenEffects (setStatus store key .expired now) key .cancelled
    "envelope_expired" now

def stop (key : String × String) (reason : String) (now : Int) :
    CampaignStore :=
  closeOpenEffects (setStatus store key .stopped now) key .prevented reason now

def drainRemaining (key : String × String) (reason : String) (now : Int) :
    CampaignStore :=
  closeOpenEffects (setStatus store key .draining now) key .prevented reason now

/-- What `resume` and `reaffirm` ask of the campaign they read. -/
def resumable (campaign : CampaignRow) : Bool :=
  campaign.status == .paused && campaign.reaffirmBy.isNone

def reaffirmable (campaign : CampaignRow) (now : Int) : Bool :=
  campaign.status == .paused &&
    campaign.reaffirmBy.any fun deadline => decide (now ≤ deadline)

def reaffirm (key : String × String) (principalId : String) (now : Int) :
    Bool × CampaignStore :=
  (((store.campaigns.find? key).filter fun row =>
      row.status == .paused).isSome,
    { store with
      campaigns := store.campaigns.updateWhere
        (fun row => decide (row.key = key) && row.status == .paused)
        (fun row => { row with
          status := .running, authorizedBy := some principalId,
          reaffirmBy := none, updatedAt := now })
        (fun _ => rfl) })

def listEffects (key : String × String) : List Effect :=
  store.effects.rows.filter fun row => decide (row.key.campaign = key)

/-- The status `finalize` computes from the effects it read, if none is still
under way. -/
def finalStatus (key : String × String) : Option CampaignStatus :=
  let rows := listEffects store key
  if rows.any fun row => row.status.open || row.status == .claimed then none
  else if rows.any fun row => row.status == .uncertain then some .reconciling
  else some .drained

/-- The statuses `finalize` leaves alone. -/
def CampaignStatus.ended : CampaignStatus → Bool
  | .expired | .stopped | .invalidated => true
  | _ => false

end AcpTask.Campaign
