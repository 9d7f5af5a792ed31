import AcpTask.Registry.Agents

namespace AcpTask.Registry

open Library

variable {database : Postgres} {store : RegistryStore} {call : Registration}

theorem bind_run {First Result : Type} (first : RegistryM First)
    (next : First → RegistryM Result) (store : RegistryStore) :
    (first >>= next) store =
      match first store with
      | (.ok value, later) => next value later
      | (.error error, later) => (.error error, later) := by
  show (match first store with
    | (outcome, later) => ExceptT.bindCont next outcome later) = _
  rcases first store with ⟨outcome, later⟩
  cases outcome <;> rfl

@[simp] theorem sends_of {text : String}
    (stored : database.storesText text = true) :
    sends database text = .ok () := by
  simp [sends, require, stored]

theorem sends_refused {text : String}
    (refused : database.storesText text = false) :
    sends database text = .error .database := by
  simp [sends, require, refused]

variable {principalId : String}

theorem getPrincipal_run (stored : database.storesText principalId = true) :
    getPrincipal database principalId store =
      (.ok (store.principals.find? principalId), store) := by
  simp [getPrincipal, committing, transaction, stored, bind, Except.bind,
    pure, Except.pure]

theorem getPrincipal_refused (refused : database.storesText principalId = false) :
    getPrincipal database principalId store = (.error .database, store) := by
  simp [getPrincipal, committing, transaction, sends_refused refused, bind,
    Except.bind]

theorem principalExists_run (stored : database.storesText principalId = true) :
    principalExists database principalId store =
      (.ok (store.principals.find? principalId).isSome, store) := by
  simp [principalExists, committing, transaction, stored, bind, Except.bind,
    pure, Except.pure]

variable {createdBy : String}

theorem ensurePrincipal_refused
    (refused : database.storesText createdBy = false) :
    ensurePrincipal database createdBy .user store =
      (.error .database, store) := by
  unfold ensurePrincipal
  rw [bind_run]
  simp [principalExists, committing, transaction, sends_refused refused, bind,
    Except.bind]

def ensured (store : RegistryStore) (createdBy : String) : RegistryStore :=
  match store.principals.insert? ⟨createdBy, .user, none⟩ with
  | some principals => { store with principals }
  | none => store

theorem registerPrincipal_run {principalId : String}
    {principalType : PrincipalType} {createdBy : Option String}
    (stored : database.storesText principalId = true)
    (creator : ∀ text ∈ createdBy, database.storesText text = true) :
    registerPrincipal database principalId principalType createdBy store =
      match store.principals.insert?
          ⟨principalId, principalType, createdBy⟩ with
      | some principals => (.ok (), { store with principals })
      | none => (.error .valueError, store) := by
  have sent : createdBy.toList.forM (sends database) = .ok () :=
    forM_eq_ok.mpr fun text member =>
      sends_of (creator text (by simpa using member))
  simp only [registerPrincipal, committing, transaction, sends_of stored, sent,
    inserted, bind, Except.bind, pure, Except.pure]
  cases store.principals.insert? ⟨principalId, principalType, createdBy⟩ <;> rfl

theorem ensurePrincipal_run (stored : database.storesText createdBy = true) :
    ensurePrincipal database createdBy .user store =
      (.ok (), ensured store createdBy) := by
  unfold ensurePrincipal ensured
  rw [bind_run, principalExists_run stored]
  dsimp only
  cases added : store.principals.insert? ⟨createdBy, .user, none⟩ with
  | none =>
      have present := Option.isSome_iff_ne_none.mpr
        (Table.insert?_eq_none_iff.mp added)
      rw [if_pos present]
      rfl
  | some =>
      have absent := (Table.insert?_eq_some_iff.mp added).1
      rw [if_neg (by simp [absent])]
      have created := @registerPrincipal_run database store createdBy .user none
        stored (by simp)
      rw [added] at created
      rw [created]

def converted (store : RegistryStore) (principalId createdBy : String) :
    RegistryStore :=
  match store.principals.insert? ⟨principalId, .agent, some createdBy⟩ with
  | some principals => { store with principals }
  | none => { store with
      principals := upgraded store principalId .agent createdBy }

theorem upgradePrincipalType_run
    (stored : database.storesText principalId = true)
    (creator : database.storesText createdBy = true) :
    upgradePrincipalType database principalId .agent createdBy store =
      (.ok (), { store with
        principals := upgraded store principalId .agent createdBy }) := by
  simp [upgradePrincipalType, committing, transaction, stored, creator, bind,
    Except.bind, pure, Except.pure]

def Registered (store : RegistryStore) (principalId : String) : Prop :=
  ∃ principal, store.principals.find? principalId = some principal ∧
    firstClass store principal = true

theorem claimPrincipal_refused
    (refused : database.storesText call.principalId = false) :
    claimPrincipal database call store = (.error .database, store) := by
  unfold claimPrincipal
  rw [bind_run, getPrincipal_refused refused]

theorem claimPrincipal_registered
    (stored : database.storesText call.principalId = true)
    (registered : Registered store call.principalId) :
    claimPrincipal database call store = (.error .valueError, store) := by
  obtain ⟨principal, found, first⟩ := registered
  unfold claimPrincipal
  rw [bind_run, getPrincipal_run stored, found]
  dsimp only
  rw [bind_run]
  show (if firstClass store principal then _ else _ : RegistryM Unit) store = _
  rw [if_pos first]
  rfl

theorem claimPrincipal_run
    (stored : database.storesText call.principalId = true)
    (creator : database.storesText call.createdBy = true)
    (fresh : ¬ Registered store call.principalId) :
    claimPrincipal database call store =
      (.ok (), converted store call.principalId call.createdBy) := by
  unfold claimPrincipal converted
  rw [bind_run, getPrincipal_run stored]
  dsimp only
  cases added : store.principals.insert?
      ⟨call.principalId, .agent, some call.createdBy⟩ with
  | none =>
      obtain ⟨principal, found⟩ := Option.ne_none_iff_exists'.mp
        (Table.insert?_eq_none_iff.mp added)
      dsimp only at found
      rw [found]
      dsimp only
      rw [bind_run]
      show (if firstClass store principal then _ else _ : RegistryM Unit)
        store = _
      rw [if_neg fun first => fresh ⟨principal, found, first⟩]
      exact upgradePrincipalType_run stored creator
  | some =>
      have absent := (Table.insert?_eq_some_iff.mp added).1
      dsimp only at absent
      rw [absent]
      dsimp only
      have created := @registerPrincipal_run database store call.principalId
        .agent (some call.createdBy) stored (by simpa using creator)
      rw [added] at created
      exact created

def storedKey (database : Postgres) (store : RegistryStore)
    (call : Registration) (publicKey : String) : Option String :=
  if database.storesText publicKey then
    (varchar 44 publicKey).filter fun stored =>
      !keyTaken store call.principalId stored &&
        (store.keys.find? call.keyId).isNone
  else none

theorem registerKey_run {publicKey : String} :
    registerKey database call.keyId call.principalId publicKey store =
      match storedKey database store call publicKey with
      | some stored =>
          match store.keys.insert? ⟨call.keyId, call.principalId, stored,
              "ed25519", .active⟩ with
          | some keys => (.ok (), { store with keys })
          | none => (.error .database, store)
      | none => (.error .database, store) := by
  unfold registerKey storedKey
  cases sent : database.storesText publicKey with
  | false =>
      simp [committing, transaction, sends_refused sent, bind, Except.bind]
  | true =>
      simp only [committing, transaction, sends_of sent, bind, Except.bind,
        if_true]
      cases varchar 44 publicKey with
      | none => rfl
      | some stored =>
          dsimp only
          cases taken : keyTaken store call.principalId stored with
          | true => simp [require, taken, Option.filter]
          | false =>
              cases added : store.keys.insert? ⟨call.keyId, call.principalId,
                  stored, "ed25519", .active⟩ with
              | none =>
                  have used := Table.insert?_eq_none_iff.mp added
                  simp_all [require, inserted, Option.filter]
              | some =>
                  have free := (Table.insert?_eq_some_iff.mp added).1
                  dsimp only at free
                  simp_all [require, inserted, Option.filter, pure, Except.pure]

theorem free_of_storedKey {publicKey stored : String}
    (accepted : storedKey database store call publicKey = some stored) :
    keyTaken store call.principalId stored = false ∧
      store.keys.find? call.keyId = none := by
  unfold storedKey at accepted
  split at accepted
  next =>
    have free := (Option.filter_eq_some_iff.mp accepted).2
    rw [Bool.and_eq_true, Option.isNone_iff_eq_none] at free
    exact ⟨by simpa using free.1, free.2⟩
  next => cases accepted

theorem claimKey_refused
    (refused : ∃ publicKey ∈ call.key?,
      storedKey database store call publicKey = none) :
    claimKey database call store = (.error .database, store) := by
  obtain ⟨_, given, refused⟩ := refused
  rw [claimKey, Option.mem_def.mp given]
  dsimp only
  rw [registerKey_run, refused]

theorem claimKey_none (absent : call.key? = none) :
    claimKey database call store = (.ok (), store) := by
  rw [claimKey, absent]
  rfl

theorem claimKey_stored {publicKey stored : String}
    (given : call.key? = some publicKey)
    (accepted : storedKey database store call publicKey = some stored) :
    ∃ keys, claimKey database call store = (.ok (), { store with keys }) ∧
      store.keys.insert? ⟨call.keyId, call.principalId, stored, "ed25519",
        .active⟩ = some keys := by
  rw [claimKey, given]
  dsimp only
  rw [registerKey_run, accepted]
  dsimp only
  cases added : store.keys.insert? ⟨call.keyId, call.principalId, stored,
      "ed25519", .active⟩ with
  | some keys => exact ⟨keys, rfl, rfl⟩
  | none =>
      have taken := Table.insert?_eq_none_iff.mp added
      exact absurd (free_of_storedKey accepted).2 taken

def creates (database : Postgres) (store : RegistryStore)
    (call : Registration) : Bool :=
  call.capabilityIds.all database.storesText &&
    database.storesJson call.agentCard &&
    (store.agents.find? call.principalId).isNone &&
    call.organizationId.all (· ∈ store.organizations)

theorem ownership_free (store : RegistryStore)
    (free : store.agents.find? principalId = none) :
    store.ownership.find? principalId = none := by
  refine Table.find?_eq_none_iff.mpr fun row member same => ?_
  exact store.owned row member (same ▸ free)

theorem withAgent?_of_free {agent : AgentRow}
    (free : store.agents.find? agent.principalId = none) :
    ∃ later, store.withAgent? agent = some later ∧
      store.agents.insert? agent = some later.agents ∧
        later.principals = store.principals ∧ later.keys = store.keys ∧
          later.ownership = store.ownership := by
  unfold RegistryStore.withAgent?
  split
  next refused => exact absurd free (Table.insert?_eq_none_iff.mp refused)
  next agents added => exact ⟨_, rfl, added, rfl, rfl, rfl⟩

theorem withAgent?_of_taken {agent : AgentRow}
    (taken : store.agents.find? agent.principalId ≠ none) :
    store.withAgent? agent = none := by
  unfold RegistryStore.withAgent?
  split
  next => rfl
  next agents added => exact absurd (Table.insert?_eq_some_iff.mp added).1 taken

theorem withOwner?_of_free {owner : Ownership}
    (known : store.agents.find? owner.principalId ≠ none)
    (free : store.ownership.find? owner.principalId = none) :
    ∃ later, store.withOwner? owner = some later ∧
      later.agents = store.agents ∧ later.principals = store.principals ∧
        later.keys = store.keys := by
  unfold RegistryStore.withOwner?
  rw [dif_pos known]
  split
  next refused => exact absurd free (Table.insert?_eq_none_iff.mp refused)
  next ownership claimed => exact ⟨_, rfl, rfl, rfl, rfl⟩

theorem createAgent_ok (accepted : creates database store call = true) :
    ∃ later, createAgent database call store = (.ok (), later) ∧
      later.principals = store.principals ∧ later.keys = store.keys ∧
        store.agents.insert? ⟨call.principalId, call.agentCard⟩ =
          some later.agents := by
  simp only [creates, Bool.and_eq_true, List.all_eq_true,
    Option.isNone_iff_eq_none] at accepted
  obtain ⟨⟨⟨texts, card⟩, free⟩, known⟩ := accepted
  have sent : call.capabilityIds.forM (sends database) = .ok () :=
    forM_eq_ok.mpr fun text member => sends_of (texts text member)
  obtain ⟨listed, listing, added, principals, keys, ownership⟩ :=
    @withAgent?_of_free store ⟨call.principalId, call.agentCard⟩ free
  simp only [createAgent, committing, transaction, sent, require, card,
    listing, bind, Except.bind, if_true]
  cases bound : call.organizationId with
  | none => exact ⟨_, rfl, principals, keys, added⟩
  | some organizationId =>
      have member : organizationId ∈ store.organizations := by
        simpa [bound] using known
      have present : listed.agents.find? call.principalId ≠ none := by
        rw [Table.find?_of_insert?_self added]
        exact Option.some_ne_none _
      have unowned : listed.ownership.find? call.principalId = none := by
        rw [ownership]
        exact ownership_free store free
      obtain ⟨owned, owning, sameAgents, samePrincipals, sameKeys⟩ :=
        @withOwner?_of_free
          { listed with
            capabilities := ensuredCapabilities store call.capabilityIds
            agentCapabilities :=
              reindexed store call.principalId call.capabilityIds }
          ⟨call.principalId, organizationId, call.createdBy⟩ present unowned
      simp only [decide_eq_true member, if_true, owning]
      refine ⟨owned, rfl, samePrincipals.trans principals,
        sameKeys.trans keys, ?_⟩
      rw [sameAgents]
      exact added

theorem creates_of_createAgent {later : RegistryStore}
    (created : createAgent database call store = (.ok (), later)) :
    creates database store call = true := by
  rw [createAgent, committing, transaction_ok_iff] at created
  obtain ⟨_, sent, created⟩ := bind_eq_ok.mp created
  obtain ⟨_, card, created⟩ := bind_eq_ok.mp created
  have free : store.agents.find? call.principalId = none := by
    by_contra taken
    rw [@withAgent?_of_taken store ⟨call.principalId, call.agentCard⟩ taken]
      at created
    cases created
  have known : call.organizationId.all (· ∈ store.organizations) = true := by
    cases bound : call.organizationId with
    | none => rfl
    | some =>
        simp only [bound] at created
        split at created
        next =>
          obtain ⟨_, member, _⟩ := bind_eq_ok.mp created
          simpa [require] using member
        next => cases created
  have texts : call.capabilityIds.all database.storesText = true := by
    refine List.all_eq_true.mpr fun text member => ?_
    have stored := forM_eq_ok.mp sent text member
    by_contra refused
    rw [sends_refused (by simpa using refused)] at stored
    cases stored
  have stored : database.storesJson call.agentCard = true := by
    simpa [require] using card
  simp [creates, texts, stored, free, known]

theorem createAgent_refused (refused : creates database store call = false) :
    ∃ error, createAgent database call store = (.error error, store) := by
  cases outcome : createAgent database call store with
  | mk result =>
      cases result with
      | ok =>
          rw [creates_of_createAgent outcome] at refused
          cases refused
      | error error =>
          unfold createAgent committing at outcome
          exact ⟨error, congrArg (Prod.mk _) (transaction_error outcome)⟩

end AcpTask.Registry
