import AcpTask.Data.Value
import AcpTask.Library.Table
import AcpTask.Library.Transaction

namespace AcpTask.Registry

open Data Library

inductive PrincipalType where
  | user
  | agent
  | verifier
  | service
  deriving DecidableEq

inductive PrincipalStatus where
  | active
  | suspended
  | revoked
  deriving DecidableEq

/-- A row of `identity.principals`. -/
structure Principal where
  principalId : String
  principalType : PrincipalType
  createdBy : Option String := none
  deriving DecidableEq

/-- A row of `identity.principal_keys`. -/
structure PrincipalKey where
  keyId : String
  principalId : String
  publicKey : String
  keyAlgorithm : String := "ed25519"
  status : PrincipalStatus := .active

/-- A row of `registry.agents`. -/
structure AgentRow where
  principalId : String
  agentCard : Value

/-- A row of `registry.agent_ownership`. -/
structure Ownership where
  principalId : String
  organizationId : String
  createdBy : String

structure RegistryStore where
  organizations : List String := []
  principals : Table Principal Principal.principalId := .empty
  keys : Table PrincipalKey PrincipalKey.keyId := .empty
  capabilities : List String := []
  agents : Table AgentRow AgentRow.principalId := .empty
  agentCapabilities : List (String × String) := []
  ownership : Table Ownership Ownership.principalId := .empty
  /-- The foreign key of an ownership row. -/
  owned : ∀ row ∈ ownership, agents.find? row.principalId ≠ none := by
    exact fun row member => absurd member (Table.not_mem_empty row)

inductive RegistryError where
  | valueError
  /-- What the database or its driver raises. -/
  | database

/-- What the database stores of text and of `json.dumps(value)`. -/
structure Postgres where
  storesText : String → Bool
  storesJson : Value → Bool

abbrev RegistryM := ExceptT RegistryError (StateM RegistryStore)

/-- `with self._db.transaction()`. -/
def committing {Result : Type}
    (body : RegistryStore → Except RegistryError (Result × RegistryStore)) :
    RegistryM Result :=
  fun store => transaction store body

def sends (database : Postgres) (text : String) :
    Except RegistryError Unit :=
  require (database.storesText text) .database

/-- The value of a `varchar` column: spaces beyond the limit are cut off. -/
def varchar (limit : Nat) (text : String) : Option String :=
  if text.length ≤ limit then some text
  else if (text.toList.drop limit).all (· = ' ') then
    some (String.ofList (text.toList.take limit))
  else none

def inserted {Row : Type} {Key : Type} {keyOf : Row → Key} [DecidableEq Key]
    (table : Table Row keyOf) (row : Row) (error : RegistryError) :
    Except RegistryError (Table Row keyOf) :=
  match table.insert? row with
  | some result => .ok result
  | none => .error error

section Identity

variable (database : Postgres)

def registerPrincipal (principalId : String) (principalType : PrincipalType)
    (createdBy : Option String) : RegistryM Unit :=
  committing fun store => do
    sends database principalId
    createdBy.toList.forM (sends database)
    let principals ← inserted store.principals
      { principalId, principalType, createdBy } .valueError
    return ((), { store with principals })

def getPrincipal (principalId : String) : RegistryM (Option Principal) :=
  committing fun store => do
    sends database principalId
    return (store.principals.find? principalId, store)

/-- `UPDATE identity.principals SET …`, which keeps a creator there is. -/
def upgraded (store : RegistryStore) (principalId : String)
    (principalType : PrincipalType) (createdBy : String) :
    Table Principal Principal.principalId :=
  store.principals.updateWhere (fun row => row.principalId == principalId)
    (fun row => { row with
      principalType, createdBy := row.createdBy.or (some createdBy) })
    fun _ => rfl

def upgradePrincipalType (principalId : String)
    (principalType : PrincipalType) (createdBy : String) : RegistryM Unit :=
  committing fun store => do
    sends database principalId
    sends database createdBy
    return ((), { store with
      principals := upgraded store principalId principalType createdBy })

/-- The unique indexes on the keys: one active key of a principal, and no key
of it twice. -/
def keyTaken (store : RegistryStore) (principalId publicKey : String) : Bool :=
  store.keys.rows.any fun row => row.principalId == principalId &&
    (row.status == .active || row.publicKey == publicKey)

def registerKey (keyId principalId publicKey : String) : RegistryM Unit :=
  committing fun store => do
    sends database publicKey
    let some publicKey := varchar 44 publicKey | .error .database
    require (!keyTaken store principalId publicKey) .database
    let keys ← inserted store.keys { keyId, principalId, publicKey } .database
    return ((), { store with keys })

def principalExists (principalId : String) : RegistryM Bool :=
  committing fun store => do
    sends database principalId
    return ((store.principals.find? principalId).isSome, store)

/-- `_ensure_principal`; a `ValueError` of the registration is passed over. -/
def ensurePrincipal (principalId : String) (principalType : PrincipalType) :
    RegistryM Unit := do
  if ← principalExists database principalId then return
  else fun store =>
    match registerPrincipal database principalId principalType none store with
    | (.error .valueError, later) => (.ok (), later)
    | result => result

end Identity

/-- The arguments of one registration, with the id drawn for its key and the
organization bound to the request. -/
structure Registration where
  principalId : String
  agentCard : Value
  createdBy : String
  capabilityIds : List String
  publicKey : Option String := none
  keyId : String
  organizationId : Option String := none

/-- `if public_key`. -/
def Registration.key? (call : Registration) : Option String :=
  call.publicKey.filter (· ≠ "")

structure RegisteredAgent where
  principalId : String
  agentCard : Value
  createdBy : String
  publicKey : Option String

/-- `get_agent_principal(principal_id) is not None`, of a principal read
before. -/
def firstClass (store : RegistryStore) (principal : Principal) : Bool :=
  principal.createdBy.isSome &&
    (store.agents.find? principal.principalId).isSome

/-- `_ensure_capability` of each: a capability of the catalog stays. -/
def ensuredCapabilities (store : RegistryStore) (capabilityIds : List String) :
    List String :=
  store.capabilities ++ capabilityIds.dedup.filter (· ∉ store.capabilities)

/-- `_reindex_capabilities`. -/
def reindexed (store : RegistryStore) (principalId : String)
    (capabilityIds : List String) : List (String × String) :=
  store.agentCapabilities.filter (·.1 ≠ principalId) ++
    capabilityIds.dedup.map (principalId, ·)

/-- The store with one more row of `registry.agents`. -/
def RegistryStore.withAgent? (store : RegistryStore) (agent : AgentRow) :
    Option RegistryStore :=
  match added : store.agents.insert? agent with
  | none => none
  | some agents => some { store with
      agents
      owned := by
        intro row member
        rw [Table.find?_of_insert? added]
        split
        · exact Option.some_ne_none agent
        · exact store.owned row member }

/-- The store with one more row of `registry.agent_ownership`. -/
def RegistryStore.withOwner? (store : RegistryStore) (owner : Ownership) :
    Option RegistryStore :=
  if known : store.agents.find? owner.principalId ≠ none then
    match claimed : store.ownership.insert? owner with
    | none => none
    | some ownership => some { store with
        ownership
        owned := by
          intro row member
          rcases (Table.mem_of_insert? claimed).mp member with before | rfl
          · exact store.owned row before
          · exact known }
  else none

section Agents

variable (database : Postgres)

def createAgent (call : Registration) : RegistryM Unit :=
  committing fun store => do
    call.capabilityIds.forM (sends database)
    require (database.storesJson call.agentCard) .database
    let some listed := store.withAgent? ⟨call.principalId, call.agentCard⟩
      | .error .database
    let indexed := { listed with
      capabilities := ensuredCapabilities store call.capabilityIds
      agentCapabilities := reindexed store call.principalId call.capabilityIds }
    match call.organizationId with
    | none => return ((), indexed)
    | some organizationId =>
        require (decide (organizationId ∈ store.organizations)) .database
        let some owned := indexed.withOwner?
            ⟨call.principalId, organizationId, call.createdBy⟩
          | .error .database
        return ((), owned)

def claimPrincipal (call : Registration) : RegistryM Unit := do
  let existing ← getPrincipal database call.principalId
  match existing with
  | none =>
      registerPrincipal database call.principalId .agent (some call.createdBy)
  | some principal =>
      if firstClass (← get) principal then throw .valueError
      else
        upgradePrincipalType database call.principalId .agent call.createdBy

def claimKey (call : Registration) : RegistryM Unit :=
  match call.key? with
  | some publicKey => registerKey database call.keyId call.principalId publicKey
  | none => pure ()

def registerAgentPrincipal (call : Registration) :
    RegistryM RegisteredAgent := do
  ensurePrincipal database call.createdBy .user
  claimPrincipal database call
  claimKey database call
  createAgent database call
  let _ ← getPrincipal database call.principalId
  return {
    principalId := call.principalId
    agentCard := call.agentCard
    createdBy := call.createdBy
    publicKey := call.key? }

end Agents

end AcpTask.Registry
