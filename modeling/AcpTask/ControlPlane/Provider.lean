import AcpTask.ControlPlane.Accounts
import AcpTask.Library.Table

namespace AcpTask.ControlPlane

open Library

/-! Verified accounts in Postgres, and the scopes derived from them. -/

structure ConnectionKey where
  connectionId : String
  tenantId : String
  deriving DecidableEq

structure Connection where
  key : ConnectionKey
  effectiveScopes : List String
  deriving DecidableEq

structure ProviderAccount where
  key : ConnectionKey
  provider : String
  providerAccountId : String
  status : AccountStatus

structure FamilyKey where
  connection : ConnectionKey
  family : FamilyName
  deriving DecidableEq

structure AccountFamily where
  key : FamilyKey
  enabled : Bool
  providerState : String

structure SenderKey where
  connection : ConnectionKey
  senderId : String
  deriving DecidableEq

structure ProviderSender where
  key : SenderKey
  family : String
  countries : List String
  enabled : Bool

structure TemplateKey where
  connection : ConnectionKey
  templateId : String

structure ProviderTemplate where
  key : TemplateKey
  approved : Bool

structure DerivedScope where
  connection : ConnectionKey
  scope : String
  dimension : String
  sourceId : String

structure TenantStop where
  tenantId : String
  stopped : Bool

structure ProviderStore where
  connections : Table Connection Connection.key
  accounts : Table ProviderAccount ProviderAccount.key
  families : Table AccountFamily AccountFamily.key
  senders : Table ProviderSender ProviderSender.key
  templates : Table ProviderTemplate ProviderTemplate.key
  derivedScopes : List DerivedScope
  stops : Table TenantStop TenantStop.tenantId

/-- The rows of `_scope_sources`: where several facts give a scope, the last
family does, or else the first of the others. -/
def scopeSources (state : VerifiedAccountState) (scopes : List String) :
    Except AccountError (List (String × String × String)) := do
  let families ← state.families.mapM fun family => do
    let scope ← familyScope state.provider family
    pure (scope, "family", (partition family).1)
  let senders ← (state.senders.filter VerifiedSender.enabled).mapM
    fun sender => do
      let own ← syntheticScope state.provider senderDimension sender.senderId
      let countries ← sender.countries.mapM fun country => do
        let scope ← syntheticScope state.provider geoDimension country
        pure (scope, geoDimension, country)
      pure ((own, senderDimension, sender.senderId) :: countries)
  let templates ← state.templates.mapM fun template => do
    let scope ← syntheticScope state.provider templateDimension template
    pure (scope, templateDimension, template)
  let sources := families.reverse ++ senders.flatten ++ templates
  pure ((sortedSet scopes).map fun scope =>
    (scope, (sources.lookup scope).getD ("family", scope)))

namespace ProviderStore

variable (store : ProviderStore)

def storedFamilies (key : ConnectionKey) : List String :=
  (store.families.rows.filter fun row =>
    row.key.connection == key && row.enabled).map
      fun row => row.key.family.1 ++ ":send"

def storedSenders (key : ConnectionKey) : List VerifiedSender :=
  (store.senders.rows.filter fun row => row.key.connection == key).map
    fun row => ⟨row.key.senderId, row.family, row.countries, row.enabled⟩

def storedTemplates (key : ConnectionKey) : List String :=
  (store.templates.rows.filter fun row =>
    row.key.connection == key && row.approved).map fun row => row.key.templateId

theorem mem_storedFamilies {key : ConnectionKey} {family : String} :
    family ∈ store.storedFamilies key ↔ ∃ row ∈ store.families,
      (row.key.connection = key ∧ row.enabled = true) ∧
        family = row.key.family.1 ++ ":send" := by
  simp only [storedFamilies, List.mem_map, List.mem_filter, Bool.and_eq_true,
    beq_iff_eq, Table.mem_def]
  constructor
  · rintro ⟨row, ⟨member, fits⟩, rfl⟩
    exact ⟨row, member, fits, rfl⟩
  · rintro ⟨row, member, fits, rfl⟩
    exact ⟨row, ⟨member, fits⟩, rfl⟩

theorem partition_send (family : FamilyName) :
    partition (family.1 ++ ":send") = (family.1, "send") := by
  have split : family.1 ++ ":send" = family.1 ++ ":" ++ "send" := by
    rw [String.append_assoc]
    rfl
  rw [split, partition_append family.2.2]

theorem named_storedFamilies {key : ConnectionKey} :
    ∀ family ∈ store.storedFamilies key,
      (partition family).1 ≠ "" ∧ (partition family).2 ≠ "" := by
  intro family member
  obtain ⟨row, _, _, rfl⟩ := store.mem_storedFamilies.mp member
  have action : ("send" : String) ≠ "" := by decide
  rw [partition_send]
  exact ⟨row.key.family.2.1, action⟩

def accountState (key : ConnectionKey) :
    Except AccountError (Option VerifiedAccountState) :=
  match store.accounts.find? key with
  | none => .ok none
  | some account =>
      if identified : account.provider ≠ "" ∧ account.providerAccountId ≠ ""
      then .ok (some {
        provider := account.provider
        accountId := account.providerAccountId
        status := account.status
        families := store.storedFamilies key
        senders := store.storedSenders key
        templates := store.storedTemplates key
        identified := identified
        named := store.named_storedFamilies })
      else .error (.valueError "a verified account needs a provider and an id")

def rederive (key : ConnectionKey) :
    Except AccountError (List String × ProviderStore) := do
  match ← store.accountState key with
  | none => .error (.connectionConflict "connection has no provider account")
  | some state =>
      let scopes ← deriveSyntheticScopes state
      let sources ← scopeSources state scopes
      pure (scopes, { store with
        derivedScopes := store.derivedScopes.filter
          (fun row => row.connection != key) ++
            sources.map fun row => ⟨key, row.1, row.2.1, row.2.2⟩
        connections := store.connections.updateWhere
          (fun row => decide (row.key = key))
          (fun row => { row with effectiveScopes := sortedSet scopes })
          fun _ => rfl })

/-- The account row; the first one needs its connection, and the account of no
other connection. -/
def recordAccount (key : ConnectionKey) (provider providerAccountId : String)
    (status : AccountStatus) : Except AccountError ProviderStore := do
  require ((store.accounts.find? key).isSome ||
      ((store.connections.find? key).isSome &&
        !store.accounts.rows.any fun row =>
          row.provider == provider &&
            row.providerAccountId == providerAccountId)) .integrityError
  pure { store with
    accounts := store.accounts.upsert
      ⟨key, provider, providerAccountId, status⟩
      (fun row => { row with status }) fun _ => rfl }

def recordFamily (key : ConnectionKey) (family : FamilyName) : ProviderStore :=
  { store with
    families := store.families.upsert ⟨⟨key, family⟩, true, "live"⟩
      (fun row => { row with providerState := "live" }) fun _ => rfl }

def recordSender (key : ConnectionKey) (sender : VerifiedSender) :
    Except AccountError ProviderStore := do
  require (store.families.rows.any fun row =>
    row.key.connection == key && row.key.family.1 == sender.family)
      .integrityError
  pure { store with
    senders := store.senders.upsert
      ⟨⟨key, sender.senderId⟩, sender.family, sortedSet sender.countries,
        sender.enabled⟩
      (fun row => { row with
        family := sender.family
        countries := sortedSet sender.countries }) fun _ => rfl }

def recordFamilies (key : ConnectionKey) (families : List FamilyName) :
    ProviderStore :=
  families.foldl (fun store family => store.recordFamily key family) store

def recordVerifiedAccount (key : ConnectionKey)
    (provider providerAccountId : String) (state : VerifiedAccountState) :
    Except AccountError (List String × ProviderStore) := do
  let recorded ←
    store.recordAccount key provider providerAccountId state.status
  let sent ← state.senders.foldlM
    (fun store sender => store.recordSender key sender)
    (recorded.recordFamilies key state.familyNames)
  sent.rederive key

def setSenderEnabled (key : ConnectionKey) (senderId : String)
    (enabled : Bool) : Except AccountError (List String × ProviderStore) := do
  require (store.senders.find? ⟨key, senderId⟩).isSome
    (.connectionConflict "sender is not part of this connection")
  rederive { store with
    senders := store.senders.updateWhere
      (fun row => decide (row.key = ⟨key, senderId⟩))
      (fun row => { row with enabled }) fun _ => rfl } key

def setFamilyEnabled (key : ConnectionKey) (family : String)
    (enabled : Bool) : Except AccountError (List String × ProviderStore) := do
  require (store.families.rows.any fun row =>
    row.key.connection == key && row.key.family.1 == family)
      (.connectionConflict "family is not part of this connection")
  rederive { store with
    families := store.families.updateWhere
      (fun row => decide (row.key.connection = key) &&
        row.key.family.1 == family)
      (fun row => { row with enabled }) fun _ => rfl } key

end ProviderStore

end AcpTask.ControlPlane
