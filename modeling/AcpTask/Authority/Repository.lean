import AcpTask.Library.Run
import AcpTask.Library.Table
import AcpTask.Library.Transaction

namespace AcpTask.Authority

open Library

inductive ProfileKind where
  | bot
  | user
  | enterpriseAdmin
  deriving DecidableEq

inductive ProfileStatus where
  | active
  | revoked
  deriving DecidableEq

def ProfileStatus.text : ProfileStatus → String
  | .active => "active"
  | .revoked => "revoked"

structure ProfileKey where
  tenantId : String
  connectionId : String
  profileKind : ProfileKind
  consentOwnerPrincipalId : String
  deriving DecidableEq

structure AuthorityProfile where
  authorityProfileId : String
  key : ProfileKey
  slackSubjectId : Option String
  credentialId : String
  credentialVersion : Int
  grantedScopes : List String
  status : ProfileStatus
  enabled : Bool
  createdAt : Int
  updatedAt : Int
  revokedAt : Option Int

structure DelegationKey where
  tenantId : String
  authorityProfileId : String
  audiencePrincipalId : String
  operationFamily : String
  deriving DecidableEq

structure AuthorityDelegation where
  delegationId : String
  key : DelegationKey
  purpose : String
  grantedByPrincipalId : String
  expiresAt : Int
  createdAt : Int
  revokedAt : Option Int

structure AuthorityStore where
  profiles : Table AuthorityProfile AuthorityProfile.key
  delegations : Table AuthorityDelegation AuthorityDelegation.key

inductive AuthorityError where
  | valueError (message : String)
  /-- The identifier that was drawn is taken. -/
  | integrityError

/-- What `record_authority_profile` is given, and the identifier that it
draws. -/
structure ConsentCall where
  key : ProfileKey
  credentialId : String
  grantedScopes : List String
  nowTs : Int
  slackSubjectId : Option String
  credentialVersion : Int
  enabled : Bool
  profileId : String

/-- What `grant_authority_delegation` is given, and the identifier that it
draws. -/
structure GrantCall where
  key : DelegationKey
  purpose : String
  grantedByPrincipalId : String
  expiresAt : Int
  nowTs : Int
  delegationId : String

inductive AuthorityCall where
  | recordAuthorityProfile (call : ConsentCall)
  | grantAuthorityDelegation (call : GrantCall)
  | setAuthorityProfileEnabled (key : ProfileKey) (enabled : Bool)
      (nowTs : Int)
  | revokeAuthorityProfile (key : ProfileKey) (nowTs : Int)

inductive AuthorityResult where
  | profile (profile : Option AuthorityProfile)
  | delegationId (delegationId : String)
  | changed (changed : Bool)

structure AuthorityQuery where
  tenantId : String
  connectionId : String
  profileKind : ProfileKind
  requesterPrincipalId : String
  operationFamily : String
  nowTs : Int
  consentOwnerPrincipalId : Option String

structure AuthorityVerdict where
  allowed : Bool
  reason : String
  authorityProfileId : Option String := none
  delegationId : Option String := none

namespace AuthorityStore

def empty : AuthorityStore := ⟨.empty, .empty⟩

variable (store : AuthorityStore)

def getAuthorityProfile (key : ProfileKey) : Option AuthorityProfile :=
  store.profiles.find? key

def consented (call : ConsentCall) (profile : AuthorityProfile) :
    AuthorityProfile :=
  { profile with
    slackSubjectId := call.slackSubjectId
    credentialId := call.credentialId
    credentialVersion := call.credentialVersion
    grantedScopes := call.grantedScopes.dedup.mergeSort
      fun first second => decide (first ≤ second)
    status := .active
    revokedAt := none
    updatedAt := call.nowTs }

def newProfile (call : ConsentCall) : AuthorityProfile :=
  consented call {
    authorityProfileId := call.profileId
    key := call.key
    slackSubjectId := call.slackSubjectId
    credentialId := call.credentialId
    credentialVersion := call.credentialVersion
    grantedScopes := call.grantedScopes
    status := .active
    enabled := call.enabled
    createdAt := call.nowTs
    updatedAt := call.nowTs
    revokedAt := none }

def recordAuthorityProfile (call : ConsentCall) :
    Except AuthorityError (AuthorityResult × AuthorityStore) := do
  require (call.key.profileKind == .bot ||
      call.slackSubjectId.any fun subject => subject != "")
    (.valueError "a personal authority profile needs its subject")
  require (call.key.tenantId != "" && call.key.connectionId != "" &&
      call.key.consentOwnerPrincipalId != "" && call.credentialId != "")
    (.valueError "authority profile binding is required")
  require (store.profiles.rows.all fun row =>
      !(row.authorityProfileId == call.profileId &&
        row.key.tenantId == call.key.tenantId)) .integrityError
  let profiles := store.profiles.upsert (newProfile call) (consented call)
    fun _ => rfl
  pure (.profile (profiles.find? call.key), { store with profiles })

def granted (call : GrantCall) (delegation : AuthorityDelegation) :
    AuthorityDelegation :=
  { delegation with
    purpose := call.purpose
    grantedByPrincipalId := call.grantedByPrincipalId
    expiresAt := call.expiresAt
    revokedAt := none }

def grantAuthorityDelegation (call : GrantCall) :
    Except AuthorityError (AuthorityResult × AuthorityStore) := do
  require (call.purpose != "" && call.key.operationFamily != "")
    (.valueError "a delegation needs a purpose and a family")
  require (decide (call.nowTs < call.expiresAt))
    (.valueError "a delegation must expire in the future")
  require (store.delegations.rows.all fun row =>
      !(row.delegationId == call.delegationId &&
        row.key.tenantId == call.key.tenantId)) .integrityError
  let delegations := store.delegations.upsert {
    delegationId := call.delegationId
    key := call.key
    purpose := call.purpose
    grantedByPrincipalId := call.grantedByPrincipalId
    expiresAt := call.expiresAt
    createdAt := call.nowTs
    revokedAt := none } (granted call) fun _ => rfl
  pure (.delegationId call.delegationId, { store with delegations })

/-- An `UPDATE` of the active profile with a key. -/
def updateActive (key : ProfileKey)
    (assign : AuthorityProfile → AuthorityProfile)
    (keepsKey : ∀ row, (assign row).key = row.key) :
    AuthorityResult × AuthorityStore :=
  let profiles := store.profiles.updateWhere
    (fun row => decide (row.key = key) && row.status == .active) assign
    keepsKey
  (.changed ((store.profiles.find? key).any fun row => row.status == .active),
    { store with profiles })

def setAuthorityProfileEnabled (key : ProfileKey) (enabled : Bool)
    (nowTs : Int) : AuthorityResult × AuthorityStore :=
  store.updateActive key
    (fun row => { row with enabled, updatedAt := nowTs }) fun _ => rfl

def revokeAuthorityProfile (key : ProfileKey) (nowTs : Int) :
    AuthorityResult × AuthorityStore :=
  store.updateActive key
    (fun row => { row with
      status := .revoked
      enabled := false
      revokedAt := some nowTs
      updatedAt := nowTs }) fun _ => rfl

def liveDelegation (key : DelegationKey) (nowTs : Int) :
    Option AuthorityDelegation :=
  (store.delegations.find? key).filter fun row =>
    row.revokedAt.isNone && decide (nowTs < row.expiresAt)

/-- `consent_owner_principal_id or requester_principal_id`. -/
def ownerOf (query : AuthorityQuery) : String :=
  (query.consentOwnerPrincipalId.filter (· ≠ "")).getD
    query.requesterPrincipalId

def profileKeyOf (query : AuthorityQuery) : ProfileKey where
  tenantId := query.tenantId
  connectionId := query.connectionId
  profileKind := query.profileKind
  consentOwnerPrincipalId := ownerOf query

def delegationKeyOf (query : AuthorityQuery) (profile : AuthorityProfile) :
    DelegationKey where
  tenantId := query.tenantId
  authorityProfileId := profile.authorityProfileId
  audiencePrincipalId := query.requesterPrincipalId
  operationFamily := query.operationFamily

def authorizePersonalAuthority (query : AuthorityQuery) : AuthorityVerdict :=
  match store.getAuthorityProfile (profileKeyOf query) with
  | none => { allowed := false, reason := "authority_profile_absent" }
  | some profile =>
      if profile.status ≠ .active then
        { allowed := false
          reason := "authority_profile_" ++ profile.status.text }
      else if profile.enabled = false then
        { allowed := false, reason := "authority_profile_disabled" }
      else if query.profileKind = .bot then
        { allowed := true
          reason := "tenant_bot_authority"
          authorityProfileId := some profile.authorityProfileId }
      else if profile.key.consentOwnerPrincipalId =
          query.requesterPrincipalId then
        { allowed := true
          reason := "requester_is_subject"
          authorityProfileId := some profile.authorityProfileId }
      else match store.liveDelegation (delegationKeyOf query profile)
          query.nowTs with
      | none => { allowed := false, reason := "delegation_absent" }
      | some delegation =>
          { allowed := true
            reason := "delegated"
            authorityProfileId := some profile.authorityProfileId
            delegationId := some delegation.delegationId }

def call : AuthorityCall →
    Except AuthorityError (AuthorityResult × AuthorityStore)
  | .recordAuthorityProfile call => store.recordAuthorityProfile call
  | .grantAuthorityDelegation call => store.grantAuthorityDelegation call
  | .setAuthorityProfileEnabled key enabled nowTs =>
      .ok (store.setAuthorityProfileEnabled key enabled nowTs)
  | .revokeAuthorityProfile key nowTs =>
      .ok (store.revokeAuthorityProfile key nowTs)

end AuthorityStore

def authorityStep (store : AuthorityStore) (call : AuthorityCall) :
    Except AuthorityError AuthorityResult × AuthorityStore :=
  transaction store fun store => store.call call

end AcpTask.Authority
