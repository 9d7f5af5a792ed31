import AcpTask.Registry.Calls

namespace AcpTask.Registry

open Library

variable {database : Postgres} {store : RegistryStore} {call : Registration}

/-! The registration of an agent is atomic exactly when it is refused before it
writes anything, or not refused at all. -/

structure Unchanged (before after : RegistryStore) : Prop where
  principals : after.principals = before.principals
  keys : after.keys = before.keys
  agents : after.agents = before.agents
  agentCapabilities : after.agentCapabilities = before.agentCapabilities
  ownership : after.ownership = before.ownership

structure Complete (call : Registration) (store : RegistryStore) : Prop where
  agent : ∃ principal ∈ store.principals,
    principal.principalId = call.principalId ∧ principal.principalType = .agent
  key : ∀ publicKey ∈ call.key?, ∃ row ∈ store.keys,
    row.principalId = call.principalId ∧ row.publicKey = publicKey ∧
      row.status = .active
  listed : ∃! row, row ∈ store.agents ∧ row.principalId = call.principalId

structure RegistersAtomically (database : Postgres) (store : RegistryStore)
    (call : Registration) : Prop where
  raised : ∀ error later,
    registerAgentPrincipal database call store = (.error error, later) →
      Unchanged store later
  succeeded : ∀ agent later,
    registerAgentPrincipal database call store = (.ok agent, later) →
      Complete call later

structure Settled (store : RegistryStore) (call : Registration) : Prop where
  creator : store.principals.find? call.createdBy ≠ none
  principal : ∃ principal,
    store.principals.find? call.principalId = some principal ∧
      principal.principalType = .agent ∧ principal.createdBy ≠ none

def RefusedFirst (database : Postgres) (store : RegistryStore)
    (call : Registration) : Prop :=
  database.storesText call.createdBy = false ∨
    store.principals.find? call.createdBy ≠ none ∧
      (database.storesText call.principalId = false ∨
        Registered store call.principalId)

def RefusedNext (database : Postgres) (store : RegistryStore)
    (call : Registration) : Prop :=
  (∃ publicKey ∈ call.key?, storedKey database store call publicKey = none) ∨
    call.key? = none ∧ creates database store call = false

structure Accepted (database : Postgres) (store : RegistryStore)
    (call : Registration) : Prop where
  creator : database.storesText call.createdBy = true
  principal : database.storesText call.principalId = true
  fresh : ¬ Registered store call.principalId
  key : ∀ publicKey ∈ call.key?,
    storedKey database store call publicKey = some publicKey
  created : creates database store call = true

def prepared (store : RegistryStore) (call : Registration) : RegistryStore :=
  converted (ensured store call.createdBy) call.principalId call.createdBy

section Prepared

theorem find?_ensured (store : RegistryStore) (createdBy principalId : String) :
    (ensured store createdBy).principals.find? principalId =
      if store.principals.find? createdBy = none ∧ createdBy = principalId
      then some ⟨createdBy, .user, none⟩
      else store.principals.find? principalId := by
  unfold ensured
  cases added : store.principals.insert? ⟨createdBy, .user, none⟩ with
  | none =>
      have present := Table.insert?_eq_none_iff.mp added
      dsimp only at present ⊢
      rw [if_neg (fun absent => present absent.1)]
  | some =>
      have absent := (Table.insert?_eq_some_iff.mp added).1
      dsimp only at absent ⊢
      simp only [Table.find?_of_insert? added, absent, true_and]

theorem find?_converted (store : RegistryStore)
    (principalId createdBy other : String) :
    (converted store principalId createdBy).principals.find? other =
      if principalId = other then
        some ⟨principalId, .agent, (store.principals.find? principalId).elim
          (some createdBy) fun row => row.createdBy.or (some createdBy)⟩
      else store.principals.find? other := by
  unfold converted
  cases added : store.principals.insert?
      ⟨principalId, .agent, some createdBy⟩ with
  | none =>
      obtain ⟨_, found⟩ := Option.ne_none_iff_exists'.mp
        (Table.insert?_eq_none_iff.mp added)
      dsimp only at found ⊢
      rw [upgraded, Table.find?_updateWhere, found]
      split
      next same =>
        subst same
        have key := (Table.find?_eq_some_iff.mp found).2
        simp [found, key]
      next other_ne =>
        cases there : store.principals.find? other with
        | none => rfl
        | some principal =>
            have key := (Table.find?_eq_some_iff.mp there).2
            have differs : principal.principalId ≠ principalId :=
              fun same => other_ne (same ▸ key)
            simp [differs]
  | some =>
      have absent := (Table.insert?_eq_some_iff.mp added).1
      dsimp only at absent ⊢
      simp only [Table.find?_of_insert? added, absent, Option.elim_none]

@[simp] theorem agents_ensured (store : RegistryStore) (createdBy : String) :
    (ensured store createdBy).agents = store.agents := by
  unfold ensured
  split <;> rfl

theorem registered_ensured {createdBy principalId : String} :
    Registered (ensured store createdBy) principalId ↔
      Registered store principalId := by
  simp only [Registered, firstClass, agents_ensured, find?_ensured]
  split
  next added =>
    obtain ⟨absent, rfl⟩ := added
    simp [absent]
  next => rfl

theorem ensured_of_known {createdBy : String}
    (known : store.principals.find? createdBy ≠ none) :
    ensured store createdBy = store := by
  have refused : store.principals.insert? ⟨createdBy, .user, none⟩ = none :=
    Table.insert?_eq_none_iff.mpr known
  rw [ensured, refused]

theorem prepared_of_settled (settled : Settled store call) :
    prepared store call = store := by
  obtain ⟨known, principal, found, agent, creator⟩ := settled
  have refused : store.principals.insert?
      ⟨call.principalId, .agent, some call.createdBy⟩ = none :=
    Table.insert?_eq_none_iff.mpr (by simp [found])
  have same : upgraded store call.principalId .agent call.createdBy =
      store.principals := by
    refine Table.updateWhere_eq_self _ _ _ _ fun row member selected => ?_
    obtain ⟨there, key⟩ := Table.find?_eq_some_iff.mp found
    have equal : row = principal := Table.eq_of_key member there
      ((beq_iff_eq.mp selected).trans key.symm)
    obtain ⟨_, recorded⟩ := Option.ne_none_iff_exists'.mp creator
    rw [equal]
    simp only [← agent, recorded, Option.some_or]
    rw [← recorded]
  rw [prepared, ensured_of_known known, converted, refused]
  dsimp only
  rw [same]

theorem prepared_principals_iff :
    (prepared store call).principals = store.principals ↔
      Settled store call := by
  refine ⟨fun same => ?_, fun settled => by rw [prepared_of_settled settled]⟩
  have found := find?_converted (ensured store call.createdBy) call.principalId
    call.createdBy
  rw [show converted _ _ _ = prepared store call from rfl, same] at found
  constructor
  · rw [found]
    split
    · exact Option.some_ne_none _
    · rw [find?_ensured]
      split
      · exact Option.some_ne_none _
      next kept => exact fun absent => kept ⟨absent, rfl⟩
  · have agent := found call.principalId
    rw [if_pos rfl] at agent
    refine ⟨_, agent, rfl, ?_⟩
    cases (ensured store call.createdBy).principals.find? call.principalId with
    | none => exact Option.some_ne_none _
    | some row => cases creator : row.createdBy <;> simp [creator]

theorem prepared_frame (store : RegistryStore) (call : Registration) :
    ∃ principals, prepared store call = { store with principals } := by
  have ensuring : ∃ principals, ensured store call.createdBy =
      { store with principals } := by
    unfold ensured
    split
    next principals _ => exact ⟨principals, rfl⟩
    next => exact ⟨store.principals, rfl⟩
  obtain ⟨_, same⟩ := ensuring
  unfold prepared converted
  rw [same]
  split
  next converted _ => exact ⟨converted, rfl⟩
  next => exact ⟨_, rfl⟩

end Prepared

section Outcomes

theorem atomic_iff_of_raised {error : RegistryError} {later : RegistryStore}
    (raised : registerAgentPrincipal database call store =
      (.error error, later)) :
    RegistersAtomically database store call ↔ Unchanged store later := by
  refine ⟨fun atomic => atomic.raised error later raised, fun same => ⟨?_, ?_⟩⟩
  · intro error' later' outcome
    rw [raised] at outcome
    cases outcome
    exact same
  · intro agent later' outcome
    rw [raised] at outcome
    cases outcome

theorem atomic_iff_of_succeeded {agent : RegisteredAgent}
    {later : RegistryStore}
    (succeeded : registerAgentPrincipal database call store =
      (.ok agent, later)) :
    RegistersAtomically database store call ↔ Complete call later := by
  refine ⟨fun atomic => atomic.succeeded agent later succeeded,
    fun complete => ⟨?_, ?_⟩⟩
  · intro error later' outcome
    rw [succeeded] at outcome
    cases outcome
  · intro agent' later' outcome
    rw [succeeded] at outcome
    cases outcome
    exact complete

def agentOf (call : Registration) : RegisteredAgent where
  principalId := call.principalId
  agentCard := call.agentCard
  createdBy := call.createdBy
  publicKey := call.key?

theorem run_creator_refused
    (refused : database.storesText call.createdBy = false) :
    registerAgentPrincipal database call store = (.error .database, store) := by
  unfold registerAgentPrincipal
  rw [bind_run, ensurePrincipal_refused refused]

theorem run_claim_refused {error : RegistryError}
    (creator : database.storesText call.createdBy = true)
    (refused : claimPrincipal database call (ensured store call.createdBy) =
      (.error error, ensured store call.createdBy)) :
    registerAgentPrincipal database call store =
      (.error error, ensured store call.createdBy) := by
  unfold registerAgentPrincipal
  rw [bind_run, ensurePrincipal_run creator]
  dsimp only
  rw [bind_run, refused]

theorem run_prepared (creator : database.storesText call.createdBy = true)
    (stored : database.storesText call.principalId = true)
    (fresh : ¬ Registered store call.principalId) :
    registerAgentPrincipal database call store =
      (do
        claimKey database call
        createAgent database call
        let _ ← getPrincipal database call.principalId
        return agentOf call) (prepared store call) := by
  unfold registerAgentPrincipal
  rw [bind_run, ensurePrincipal_run creator]
  dsimp only
  rw [bind_run, claimPrincipal_run stored creator
    (fun registered => fresh (registered_ensured.mp registered))]
  rfl

theorem unchanged_prepared_iff :
    Unchanged store (prepared store call) ↔ Settled store call := by
  refine ⟨fun same => prepared_principals_iff.mp same.principals,
    fun settled => ?_⟩
  rw [prepared_of_settled settled]
  exact ⟨rfl, rfl, rfl, rfl, rfl⟩

theorem storedKey_prepared (publicKey : String) :
    storedKey database (prepared store call) call publicKey =
      storedKey database store call publicKey := by
  obtain ⟨_, same⟩ := prepared_frame store call
  rw [same]
  rfl

variable {keys : Table PrincipalKey PrincipalKey.keyId}

theorem creates_prepared :
    creates database { prepared store call with keys } call =
      creates database store call := by
  obtain ⟨_, same⟩ := prepared_frame store call
  rw [same]
  rfl

section Creator

variable (creator : database.storesText call.createdBy = true)
  (stored : database.storesText call.principalId = true)

include creator stored

section Fresh

variable (fresh : ¬ Registered store call.principalId)
  (keyed : claimKey database call (prepared store call) = (.ok (), { prepared store call with keys }))

include fresh keyed

theorem run_key_kept (refused : creates database store call = false) :
    ∃ error, registerAgentPrincipal database call store =
      (.error error, { prepared store call with keys }) := by
  obtain ⟨error, refused⟩ := createAgent_refused
    (creates_prepared.trans refused : creates database
      { prepared store call with keys } call = false)
  refine ⟨error, ?_⟩
  rw [run_prepared creator stored fresh, bind_run, keyed]
  dsimp only
  rw [bind_run, refused]

theorem run_accepted (accepted : creates database store call = true) :
    ∃ later, registerAgentPrincipal database call store =
        (.ok (agentOf call), later) ∧
      later.principals = (prepared store call).principals ∧
        later.keys = keys ∧
          store.agents.insert? ⟨call.principalId, call.agentCard⟩ =
            some later.agents := by
  obtain ⟨later, created, principals, sameKeys, agents⟩ := createAgent_ok
    (creates_prepared.trans accepted : creates database
      { prepared store call with keys } call = true)
  refine ⟨later, ?_, principals, sameKeys, ?_⟩
  · rw [run_prepared creator stored fresh, bind_run, keyed]
    dsimp only
    rw [bind_run, created]
    dsimp only
    rw [bind_run, getPrincipal_run stored]
    rfl
  · obtain ⟨_, same⟩ := prepared_frame store call
    rw [same] at agents
    exact agents

end Fresh

end Creator

theorem agent_prepared (store : RegistryStore) (call : Registration) :
    ∃ principal ∈ (prepared store call).principals,
      principal.principalId = call.principalId ∧
        principal.principalType = .agent := by
  have found := find?_converted (ensured store call.createdBy) call.principalId
    call.createdBy call.principalId
  rw [if_pos rfl] at found
  obtain ⟨member, key⟩ := Table.find?_eq_some_iff.mp found
  exact ⟨_, member, key, rfl⟩

theorem listed_once {agents : Table AgentRow AgentRow.principalId}
    {agent : AgentRow} (added : store.agents.insert? agent = some agents) :
    ∃! row, row ∈ agents ∧ row.principalId = agent.principalId := by
  have member := (Table.mem_of_insert? added).mpr (.inr rfl)
  refine ⟨agent, ⟨member, rfl⟩, fun row listed => ?_⟩
  exact Table.eq_of_key listed.1 member listed.2

theorem active_iff_of_stored {publicKey stored : String}
    (accepted : storedKey database store call publicKey = some stored)
    (added : store.keys.insert? ⟨call.keyId, call.principalId, stored,
      "ed25519", .active⟩ = some keys) (given : String) :
    (∃ row ∈ keys, row.principalId = call.principalId ∧
      row.publicKey = given ∧ row.status = .active) ↔ stored = given := by
  constructor
  · rintro ⟨row, member, principal, key, active⟩
    rcases (Table.mem_of_insert? added).mp member with before | rfl
    · have taken : keyTaken store call.principalId stored = true :=
        List.any_eq_true.mpr ⟨row, before, by simp [principal, active]⟩
      rw [(free_of_storedKey accepted).1] at taken
      cases taken
    · exact key
  · intro same
    exact ⟨_, (Table.mem_of_insert? added).mpr (.inr rfl), rfl, same, rfl⟩

end Outcomes

section Exactly

theorem refusedFirst_iff (creator : database.storesText call.createdBy = true)
    (refused : database.storesText call.principalId = false ∨
      Registered store call.principalId) :
    RegistersAtomically database store call ↔
      store.principals.find? call.createdBy ≠ none := by
  have outcome : ∃ error, claimPrincipal database call
      (ensured store call.createdBy) =
        (.error error, ensured store call.createdBy) := by
    by_cases stored : database.storesText call.principalId = true
    · have registered := refused.resolve_left (by simp [stored])
      exact ⟨_, claimPrincipal_registered stored
        (registered_ensured.mpr registered)⟩
    · exact ⟨_, claimPrincipal_refused (by simpa using stored)⟩
  obtain ⟨_, outcome⟩ := outcome
  rw [atomic_iff_of_raised (run_claim_refused creator outcome)]
  constructor
  · intro same absent
    have found := find?_ensured store call.createdBy call.createdBy
    rw [if_pos ⟨absent, rfl⟩, same.principals, absent] at found
    cases found
  · intro known
    rw [ensured_of_known known]
    exact ⟨rfl, rfl, rfl, rfl, rfl⟩

section Creator

variable (creator : database.storesText call.createdBy = true)
  (stored : database.storesText call.principalId = true)

include creator stored

theorem refusedNext_iff (fresh : ¬ Registered store call.principalId)
    (refused : RefusedNext database store call) :
    RegistersAtomically database store call ↔ Settled store call := by
  have raised : ∃ error, registerAgentPrincipal database call store =
      (.error error, prepared store call) := by
    rcases refused with ⟨publicKey, given, refused⟩ | ⟨absent, refused⟩
    · refine ⟨.database, ?_⟩
      rw [run_prepared creator stored fresh, bind_run, claimKey_refused
        ⟨publicKey, given, (storedKey_prepared publicKey).trans refused⟩]
    · exact run_key_kept creator stored fresh (claimKey_none absent) refused
  obtain ⟨_, raised⟩ := raised
  rw [atomic_iff_of_raised raised, unchanged_prepared_iff]

theorem keyed_iff {publicKey key : String}
    (fresh : ¬ Registered store call.principalId)
    (given : call.key? = some publicKey)
    (accepted : storedKey database store call publicKey = some key) :
    RegistersAtomically database store call ↔
      key = publicKey ∧ creates database store call = true := by
  obtain ⟨keys, keyed, added⟩ := @claimKey_stored database
    (prepared store call) call publicKey key given
    ((storedKey_prepared publicKey).trans accepted)
  have storing := (storedKey_prepared publicKey).trans accepted
  cases created : creates database store call with
  | false =>
      obtain ⟨_, raised⟩ := run_key_kept creator stored fresh keyed created
      rw [atomic_iff_of_raised raised]
      refine ⟨fun same => ?_, fun impossible => by cases impossible.2⟩
      have grown := (Table.insert?_eq_some_iff.mp added).2
      obtain ⟨principals, frame⟩ := prepared_frame store call
      rw [show keys = store.keys from same.keys, frame] at grown
      simp at grown
  | true =>
      obtain ⟨_, succeeded, principals, sameKeys, agents⟩ :=
        run_accepted creator stored fresh keyed created
      rw [atomic_iff_of_succeeded succeeded]
      constructor
      · intro complete
        have active := complete.key publicKey given
        rw [sameKeys] at active
        exact ⟨(active_iff_of_stored storing added publicKey).mp active, rfl⟩
      · rintro ⟨same, _⟩
        refine ⟨?_, fun other otherGiven => ?_, listed_once agents⟩
        · rw [principals]
          exact agent_prepared store call
        · have equal : publicKey = other :=
            Option.some.inj (given.symm.trans otherGiven)
          rw [sameKeys]
          exact (active_iff_of_stored storing added other).mpr
            (same.trans equal)

theorem accepted_without_key (fresh : ¬ Registered store call.principalId)
    (absent : call.key? = none) (created : creates database store call = true) :
    RegistersAtomically database store call := by
  obtain ⟨_, succeeded, principals, _, agents⟩ :=
    run_accepted creator stored fresh (claimKey_none absent) created
  refine (atomic_iff_of_succeeded succeeded).mpr
    ⟨?_, fun publicKey given => ?_, listed_once agents⟩
  · rw [principals]
    exact agent_prepared store call
  · rw [absent] at given
    cases given

end Creator

theorem not_accepted_of_refusedNext (next : RefusedNext database store call) :
    ¬ Accepted database store call := by
  rintro ⟨_, _, _, key, created⟩
  rcases next with ⟨publicKey, given, refusal⟩ | ⟨_, refusal⟩
  · rw [key publicKey given] at refusal
    cases refusal
  · rw [created] at refusal
    cases refusal

/-- The registration is atomic exactly when it is accepted, or refused before a
write that changes something. -/
theorem registration_atomic_iff (database : Postgres) (store : RegistryStore)
    (call : Registration) :
    RegistersAtomically database store call ↔
      RefusedFirst database store call ∨
        Settled store call ∧ RefusedNext database store call ∨
          Accepted database store call := by
  by_cases creator : database.storesText call.createdBy = true
  case neg =>
    have refused : database.storesText call.createdBy = false := by
      simpa using creator
    refine iff_of_true ?_ (.inl (.inl refused))
    exact (atomic_iff_of_raised (run_creator_refused refused)).mpr
      ⟨rfl, rfl, rfl, rfl, rfl⟩
  by_cases refused : database.storesText call.principalId = false ∨
      Registered store call.principalId
  case pos =>
    rw [refusedFirst_iff creator refused]
    constructor
    · exact fun known => .inl (.inr ⟨known, refused⟩)
    · rintro (first | ⟨settled, _⟩ | accepted)
      · exact (first.resolve_left (by simp [creator])).1
      · exact settled.creator
      · exact (refused.elim (by simp [accepted.principal]) accepted.fresh).elim
  obtain ⟨notRefused, fresh⟩ := not_or.mp refused
  have stored : database.storesText call.principalId = true := by
    simpa using notRefused
  have notFirst : ¬ RefusedFirst database store call := fun first =>
    refused (first.resolve_left (by simp [creator])).2
  rw [or_iff_right notFirst]
  by_cases next : RefusedNext database store call
  case pos =>
    rw [refusedNext_iff creator stored fresh next]
    refine ⟨fun settled => .inl ⟨settled, next⟩, ?_⟩
    rintro (⟨settled, _⟩ | accepted)
    · exact settled
    · exact absurd accepted (not_accepted_of_refusedNext next)
  rw [or_iff_right fun refusal => next refusal.2]
  cases given : call.key? with
  | none =>
      have created : creates database store call = true := by
        by_contra refusal
        exact next (.inr ⟨given, by simpa using refusal⟩)
      exact iff_of_true
        (accepted_without_key creator stored fresh given created)
        ⟨creator, stored, fresh, by simp [given], created⟩
  | some publicKey =>
      obtain ⟨_, accepted⟩ := Option.ne_none_iff_exists'.mp
        fun refusal => next (.inl ⟨publicKey, given, refusal⟩)
      rw [keyed_iff creator stored fresh given accepted]
      constructor
      · rintro ⟨rfl, created⟩
        refine ⟨creator, stored, fresh, fun other otherGiven => ?_, created⟩
        rw [Option.some.inj (given.symm.trans otherGiven)] at accepted
        exact accepted
      · intro all
        have same := all.key publicKey given
        rw [accepted] at same
        exact ⟨Option.some.inj same, all.created⟩

def legacy : RegistryStore where
  principals := ⟨[⟨"alice", .user, none⟩, ⟨"bot", .agent, none⟩], by decide⟩
  agents := ⟨[⟨"bot", .dict []⟩], by decide⟩

def takenOver : Registration where
  principalId := "bot"
  agentCard := .dict []
  createdBy := "alice"
  capabilityIds := []
  keyId := "key"

/-- The legacy agent gets a creator although its registration raises. -/
theorem legacy_halfRegistered :
    ¬ RegistersAtomically ⟨fun _ => true, fun _ => true⟩ legacy takenOver := by
  intro atomic
  have same := atomic.raised .database (prepared legacy takenOver) rfl
  exact absurd same.principals (by decide +kernel)

end Exactly

end AcpTask.Registry
