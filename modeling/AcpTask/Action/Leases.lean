import AcpTask.Action.Repository

namespace AcpTask.Action

open Library

/-! Leases by their tokens.  The repository keeps a token's digest only, and
the one call that revokes is `issue_lease`, which takes from its step what the
step still holds. -/

inductive LeaseAction where
  | issue (token : String) (request : LeaseRequest) (now : Int)
  | consume (token : String) (binding : Binding) (now : Int)
  | validate (token : String) (binding : Binding) (now : Int)

inductive LeaseAnswer where
  | issued (result : Except ActionError Unit)
  | consumed (allowed : Bool)
  | valid (allowed : Bool)

abbrev LeaseEvent := LeaseAction × LeaseAnswer

section Machine

variable (sha256 : String → String)

def tokenHash (token : String) : Option String :=
  if token = "" then none else some (sha256 token)

def leaseCall (store : ActionStore) : LeaseAction → LeaseAnswer × ActionStore
  | .issue token request now =>
      let result :=
        issueLease store { request with leaseHash := sha256 token } now
      (.issued result.1, result.2)
  | .consume token binding now =>
      let result := consumeLease store (tokenHash sha256 token) binding now
      (.consumed result.1, result.2)
  | .validate token binding now =>
      (.valid (validateLease store (tokenHash sha256 token) binding now), store)

def leaseRun (actions : List LeaseAction) :
    Logged ActionStore LeaseAction LeaseAnswer :=
  run (logStep (leaseCall sha256)) ⟨ActionStore.empty, []⟩ actions

end Machine

/-- The binding is one the lease was issued for: the same user, agent, task and
credential, one of its capabilities, not after its expiry, for a tenant other
than the legacy one the same tenant, and for a step of a workflow the same
revision, step, graph, connection, attempt and authority. -/
structure LeaseRequest.Covers (request : LeaseRequest) (binding : Binding)
    (now : Int) : Prop where
  user : request.userPrincipalId = binding.userPrincipalId
  agent : request.agentPrincipalId = binding.agentPrincipalId
  task : some request.taskId = binding.taskId
  credential : request.credentialId = binding.credentialId
  capability : binding.capabilityId ∈ request.capabilities
  unexpired : now ≤ request.expiresAt
  tenant : tenantOr request.tenantId ≠ legacyTenant →
    tenantOr request.tenantId = tenantOr binding.tenantId
  step : request.workflowRevisionId ≠ "legacy" →
    request.workflowRevisionId = binding.workflowRevisionId.getD "legacy" ∧
    request.stepId = binding.stepId.getD "legacy" ∧
    request.planGraphHash = binding.planGraphHash.getD "legacy" ∧
    request.connectionId = binding.connectionId.getD "legacy" ∧
    request.attempt = binding.attempt.getD 0 ∧
    request.authority.orDefaults = binding.authority.orDefaults

/-- A call that revokes the lease issued for `request`, if its step still holds
it. -/
def Reissues (event : LeaseEvent) (request : LeaseRequest) : Prop :=
  request.workflowRevisionId ≠ "legacy" ∧
    ∃ token other now answer, event = (.issue token other now, answer) ∧
      other.workflowRevisionId = request.workflowRevisionId ∧
      other.stepId = request.stepId

def IssuedFor (sha256 : String → String) (token : String) (binding : Binding)
    (now : Int) (request : LeaseRequest) (event : LeaseEvent) : Prop :=
  ∃ issued issuedAt,
    event = (.issue issued request issuedAt, .issued (.ok ())) ∧
    sha256 issued = sha256 token ∧ request.Covers binding now

def Consumes (sha256 : String → String) (event : LeaseEvent)
    (hash : String) : Prop :=
  ∃ token binding now,
    event = (.consume token binding now, .consumed true) ∧
    sha256 token = hash

/-- What the log, newest first, owes to single use: a lease that is consumed was
issued for the binding, its step asked for no other since, and it was not
consumed before. -/
def LeaseAdmissible (sha256 : String → String) (event : LeaseEvent)
    (older : List LeaseEvent) : Prop :=
  (∀ token binding now,
    event = (.consume token binding now, .consumed true) →
      (∃ later issuance earlier request,
        older = later ++ issuance :: earlier ∧
        IssuedFor sha256 token binding now request issuance ∧
        ∀ event ∈ later, ¬ Reissues event request) ∧
      ∀ earlier ∈ older, ¬ Consumes sha256 earlier (sha256 token)) ∧
  (∀ token binding now,
    event = (.validate token binding now, .valid true) →
      ∃ issuance ∈ older, ∃ request,
        IssuedFor sha256 token binding now request issuance)

def SingleHolder (leases : Table Lease Lease.key) : Prop :=
  ∀ first ∈ leases, ∀ second ∈ leases,
    first.active = true → second.active = true →
    first.workflowRevisionId ≠ "legacy" →
    first.workflowRevisionId = second.workflowRevisionId →
    first.stepId = second.stepId → first = second

variable {request : LeaseRequest}

theorem covers_of_leaseValid {binding : Binding} {now : Int}
    (valid : leaseValid binding now request.row = true) :
    request.Covers binding now := by
  simp only [leaseValid, LeaseRequest.row, Bool.and_eq_true, beq_iff_eq,
    List.contains_iff_mem] at valid
  obtain ⟨⟨⟨⟨⟨⟨⟨⟨user, agent⟩, task⟩, credential⟩, -⟩, unexpired⟩, tenant⟩,
    capability⟩, step⟩ := valid
  refine ⟨user, agent, task, credential, capability,
    of_decide_eq_true unexpired, ?_, ?_⟩
  · intro named
    simp only [tenantScope, Bool.or_eq_true, beq_iff_eq] at tenant
    exact tenant.resolve_left named
  · intro dynamic
    simp only [workflowLeaseBindingMatches, Bool.or_eq_true, Bool.and_eq_true,
      beq_iff_eq] at step
    have same := step.resolve_left dynamic
    exact ⟨same.1.1.1.1.1, same.1.1.1.1.2, same.1.1.1.2, same.1.1.2, same.1.2,
      same.2⟩

/-! The two statements of `issue_lease`. -/

def revokeHeld (leases : Table Lease Lease.key) (request : LeaseRequest)
    (now : Int) : Table Lease Lease.key :=
  if request.workflowRevisionId != "legacy" then
    leases.updateWhere
      (fun row => row.workflowRevisionId == request.workflowRevisionId &&
        row.stepId == request.stepId && row.active)
      (fun row => { row with revokedAt := some now }) (Lease.key_revoked now)
  else leases

theorem issueLease_cases (store : ActionStore) (request : LeaseRequest)
    (now : Int) :
    ((issueLease store request now).1 = .ok () ∧
      (revokeHeld store.leases request now).insert? request.row =
        some (issueLease store request now).2.leases) ∨
    ((issueLease store request now).1 = .error .integrityError ∧
      (revokeHeld store.leases request now).insert? request.row = none ∧
      (issueLease store request now).2.leases =
        revokeHeld store.leases request now) := by
  unfold issueLease
  dsimp only
  split
  · rename_i leases inserted
    exact .inl ⟨rfl, inserted⟩
  · rename_i refused
    exact .inr ⟨rfl, refused, rfl⟩

theorem issueLease_proposals (store : ActionStore) (request : LeaseRequest)
    (now : Int) :
    (issueLease store request now).2.proposals = store.proposals := by
  simp only [issueLease]
  split <;> rfl

variable {leases : Table Lease Lease.key}

theorem mem_revokeHeld {now : Int} {row : Lease}
    (member : row ∈ revokeHeld leases request now) :
    (row ∈ leases ∧
      ¬ (request.workflowRevisionId ≠ "legacy" ∧
        row.workflowRevisionId = request.workflowRevisionId ∧
        row.stepId = request.stepId ∧ row.active = true)) ∨
    (∃ old ∈ leases, row = { old with revokedAt := some now }) := by
  unfold revokeHeld at member
  split at member
  · rename_i dynamic
    simp only [Table.mem_updateWhere] at member
    obtain ⟨old, oldMember, updated⟩ := member
    split at updated
    · exact .inr ⟨old, oldMember, updated.symm⟩
    · rename_i kept
      subst updated
      simp only [Bool.and_eq_true, beq_iff_eq] at kept
      exact .inl ⟨oldMember, fun held => kept ⟨⟨held.2.1, held.2.2.1⟩,
        held.2.2.2⟩⟩
  · rename_i legacy
    simp only [bne_iff_ne, ne_eq, not_not] at legacy
    exact .inl ⟨member, fun held => held.1 legacy⟩

theorem find?_revokeHeld {now : Int} {hash : String} {row : Lease}
    (found : leases.find? hash = some row) :
    ∃ later, (revokeHeld leases request now).find? hash = some later ∧
      later.consumedAt = row.consumedAt := by
  unfold revokeHeld
  split
  · refine ⟨_, by rw [Table.find?_updateWhere, found]; rfl, ?_⟩
    dsimp only
    split <;> rfl
  · exact ⟨row, found, rfl⟩

theorem find?_revokeHeld_eq_none_iff {now : Int} {hash : String} :
    (revokeHeld leases request now).find? hash = none ↔
      leases.find? hash = none := by
  unfold revokeHeld
  split
  · rw [Table.find?_updateWhere, Option.map_eq_none_iff]
  · rfl

theorem issueLease_answer (store : ActionStore) (request : LeaseRequest)
    (now : Int) :
    (issueLease store request now).1 =
      if store.leases.find? request.leaseHash = none then .ok ()
      else .error .integrityError := by
  rcases issueLease_cases store request now with
    ⟨answer, inserted⟩ | ⟨answer, refused, _⟩
  · have fresh := (Table.insert?_eq_some_iff.mp inserted).1
    have absent := find?_revokeHeld_eq_none_iff.mp fresh
    simp only [LeaseRequest.row] at absent
    rw [answer, if_pos absent]
  · have present := (Table.insert?_eq_none_iff.mp refused)
    have taken := mt find?_revokeHeld_eq_none_iff.mpr present
    simp only [LeaseRequest.row] at taken
    rw [answer, if_neg taken]

/-- The lease is as the log has it issued, and while it is not consumed no call
has revoked it. -/
def IssuedBy (sha256 : String → String) (row : Lease)
    (log : List LeaseEvent) : Prop :=
  ∃ later token request issuedAt earlier,
    log = later ++
      (.issue token request issuedAt, .issued (.ok ())) :: earlier ∧
    row = { ({ request with leaseHash := sha256 token }).row with
      consumedAt := row.consumedAt } ∧
    (row.consumedAt = none → ∀ event ∈ later, ¬ Reissues event request)

namespace IssuedBy

variable {sha256 : String → String} {row : Lease} {log : List LeaseEvent}

theorem logged (issuedBy : IssuedBy sha256 row log) {event : LeaseEvent}
    (keeps : row.consumedAt = none → ∀ request : LeaseRequest,
      row.workflowRevisionId = request.workflowRevisionId →
      row.stepId = request.stepId → ¬ Reissues event request) :
    IssuedBy sha256 row (event :: log) := by
  obtain ⟨later, token, request, issuedAt, earlier, rfl, same, unrevoked⟩ :=
    issuedBy
  refine ⟨event :: later, token, request, issuedAt, earlier, rfl, same, ?_⟩
  intro unconsumed other member
  rcases List.mem_cons.mp member with rfl | older
  · exact keeps unconsumed request (by rw [same]; rfl) (by rw [same]; rfl)
  · exact unrevoked unconsumed other older

theorem consume (issuedBy : IssuedBy sha256 row log) (now : Int) :
    IssuedBy sha256 { row with consumedAt := some now } log := by
  obtain ⟨later, token, request, issuedAt, earlier, logged, same, -⟩ := issuedBy
  refine ⟨later, token, request, issuedAt, earlier, logged, ?_, ?_⟩
  · rw [same]
  · intro unconsumed
    cases unconsumed

theorem granted (issuedBy : IssuedBy sha256 row log)
    {token : String} {binding : Binding} {now : Int}
    (sameHash : row.leaseHash = sha256 token)
    (valid : leaseValid binding now row = true) :
    ∃ later issuance earlier request, log = later ++ issuance :: earlier ∧
      IssuedFor sha256 token binding now request issuance ∧
      (row.consumedAt = none → ∀ event ∈ later, ¬ Reissues event request) := by
  obtain ⟨later, issued, request, issuedAt, earlier, logged, same,
    unrevoked⟩ := issuedBy
  refine ⟨later, _, earlier, request, logged, ⟨issued, issuedAt, rfl, ?_, ?_⟩,
    unrevoked⟩
  · rw [← sameHash, same]
    rfl
  · rw [same] at valid
    exact covers_of_leaseValid valid

end IssuedBy

structure Ledgered (sha256 : String → String) (leases : Table Lease Lease.key)
    (log : List LeaseEvent) : Prop where
  issued : ∀ {row}, row ∈ leases → row.revokedAt = none →
    IssuedBy sha256 row log
  consumed : ∀ {event hash}, event ∈ log → Consumes sha256 event hash →
    ∃ row, leases.find? hash = some row ∧ row.consumedAt.isSome
  single : SingleHolder leases

namespace Ledgered

variable {sha256 : String → String} {leases : Table Lease Lease.key}
  {log : List LeaseEvent}

theorem initial : Ledgered sha256 Table.empty [] where
  issued member := absurd member (Table.not_mem_empty _)
  consumed member := absurd member List.not_mem_nil
  single _ member := absurd member (Table.not_mem_empty _)

theorem logged (ledgered : Ledgered sha256 leases log) {event : LeaseEvent}
    (issuesNot : ∀ request, ¬ Reissues event request)
    (consumesNot : ∀ hash, ¬ Consumes sha256 event hash) :
    Ledgered sha256 leases (event :: log) where
  issued member standing :=
    (ledgered.issued member standing).logged (fun _ request _ _ =>
      issuesNot request)
  consumed member consumes := by
    rcases List.mem_cons.mp member with rfl | older
    · exact absurd consumes (consumesNot _)
    · exact ledgered.consumed older consumes
  single := ledgered.single

theorem revoked (ledgered : Ledgered sha256 leases log) {token : String}
    {request : LeaseRequest} {now : Int} {answer : LeaseAnswer}
    (quiet : ∀ hash,
      ¬ Consumes sha256 (.issue token request now, answer) hash) :
    Ledgered sha256
      (revokeHeld leases { request with leaseHash := sha256 token } now)
      ((.issue token request now, answer) :: log) := by
  constructor
  · intro row member standing
    rcases mem_revokeHeld member with ⟨old, notHeld⟩ | ⟨old, _, rfl⟩
    · refine (ledgered.issued old standing).logged ?_
      rintro unconsumed other sameRevision sameStep ⟨dynamic, reissue⟩
      obtain ⟨_, _, _, _, equal, revision, step⟩ := reissue
      cases equal
      refine notHeld ⟨by rwa [revision], sameRevision.trans revision.symm,
        sameStep.trans step.symm, ?_⟩
      simp [Lease.active, unconsumed, standing]
    · cases standing
  · intro event hash member consumes
    rcases List.mem_cons.mp member with rfl | older
    · exact absurd consumes (quiet hash)
    · obtain ⟨_, found, _⟩ := ledgered.consumed older consumes
      obtain ⟨later, laterFound, same⟩ := find?_revokeHeld found
      exact ⟨later, laterFound, by rwa [same]⟩
  · intro first firstMember second secondMember firstActive secondActive
    rcases mem_revokeHeld firstMember with ⟨firstOld, _⟩ | ⟨_, _, rfl⟩
    · rcases mem_revokeHeld secondMember with ⟨secondOld, _⟩ | ⟨_, _, rfl⟩
      · exact ledgered.single first firstOld second secondOld firstActive
          secondActive
      · simp [Lease.active] at secondActive
    · simp [Lease.active] at firstActive

theorem insert {token : String} {request : LeaseRequest} {now : Int}
    {later : Table Lease Lease.key}
    (ledgered : Ledgered sha256 leases
      ((.issue token request now, .issued (.ok ())) :: log))
    (vacant : ∀ row ∈ leases, row.active = true →
      request.workflowRevisionId ≠ "legacy" →
      row.workflowRevisionId = request.workflowRevisionId →
      row.stepId ≠ request.stepId)
    (inserted : leases.insert?
      ({ request with leaseHash := sha256 token }).row = some later) :
    Ledgered sha256 later
      ((.issue token request now, .issued (.ok ())) :: log) := by
  constructor
  · intro row member standing
    rcases (Table.mem_of_insert? inserted).mp member with old | rfl
    · exact ledgered.issued old standing
    · exact ⟨[], token, request, now, log, rfl, rfl,
        fun _ _ impossible => absurd impossible List.not_mem_nil⟩
  · intro event hash member consumes
    obtain ⟨row, found, marked⟩ := ledgered.consumed member consumes
    exact ⟨row, Table.insert?_keeps inserted found, marked⟩
  · intro first firstMember second secondMember firstActive secondActive
      dynamic sameRevision sameStep
    rcases (Table.mem_of_insert? inserted).mp firstMember with firstOld | rfl
    · rcases (Table.mem_of_insert? inserted).mp secondMember with
        secondOld | rfl
      · exact ledgered.single first firstOld second secondOld firstActive
          secondActive dynamic sameRevision sameStep
      · exact absurd sameStep (vacant first firstOld firstActive
          (by rwa [sameRevision] at dynamic) sameRevision)
    · rcases (Table.mem_of_insert? inserted).mp secondMember with
        secondOld | rfl
      · exact absurd sameStep.symm (vacant second secondOld secondActive
          dynamic sameRevision.symm)
      · rfl

variable {store : ActionStore}

section Ledgered

variable (ledgered : Ledgered sha256 store.leases log)

include ledgered

theorem issue (token : String) (request : LeaseRequest) (now : Int) :
    Ledgered sha256
      (issueLease store { request with leaseHash := sha256 token } now).2.leases
      ((.issue token request now, .issued (issueLease store
        { request with leaseHash := sha256 token } now).1) :: log) := by
  have quiet : ∀ answer hash,
      ¬ Consumes sha256 (.issue token request now, answer) hash := by
    rintro answer hash ⟨_, _, _, equal, _⟩
    cases equal
  rcases issueLease_cases store { request with leaseHash := sha256 token } now
    with ⟨answer, inserted⟩ | ⟨answer, _, refused⟩
  · rw [answer]
    refine (ledgered.revoked (quiet _)).insert ?_ inserted
    intro row member active dynamic sameRevision sameStep
    rcases mem_revokeHeld member with ⟨_, notHeld⟩ | ⟨_, _, rfl⟩
    · exact notHeld ⟨dynamic, sameRevision, sameStep, active⟩
    · simp [Lease.active] at active
  · rw [answer, refused]
    exact ledgered.revoked (quiet _)

theorem consume (token : String) (binding : Binding) (now : Int) :
    Ledgered sha256
      (consumeLease store (tokenHash sha256 token) binding now).2.leases
      ((.consume token binding now, .consumed
        (consumeLease store (tokenHash sha256 token) binding now).1) ::
          log) := by
  have issuesNot : ∀ answer request,
      ¬ Reissues (.consume token binding now, answer) request := by
    rintro answer request ⟨_, _, _, _, _, equal, _⟩
    cases equal
  unfold tokenHash
  split
  · refine ledgered.logged (issuesNot _) ?_
    rintro hash ⟨_, _, _, equal, _⟩
    cases equal
  · constructor
    · intro row member standing
      simp only [consumeLease, Table.mem_updateWhere] at member
      obtain ⟨old, oldMember, updated⟩ := member
      split at updated
      · subst updated
        exact ((ledgered.issued oldMember standing).consume now).logged
          (fun _ request _ _ => issuesNot _ request)
      · subst updated
        exact (ledgered.issued oldMember standing).logged
          (fun _ request _ _ => issuesNot _ request)
    · intro event hash member consumes
      simp only [consumeLease, Table.find?_updateWhere]
      rcases List.mem_cons.mp member with rfl | older
      · obtain ⟨_, _, _, equal, rfl⟩ := consumes
        simp only [consumeLease, Prod.mk.injEq, LeaseAction.consume.injEq,
          LeaseAnswer.consumed.injEq] at equal
        obtain ⟨⟨rfl, _, _⟩, taken⟩ := equal
        obtain ⟨row, usable⟩ := Option.isSome_iff_exists.mp taken
        obtain ⟨found, holds⟩ := Option.filter_eq_some_iff.mp usable
        have sameHash := (Table.find?_eq_some_iff.mp found).2
        refine ⟨_, by rw [found, Option.map_some], ?_⟩
        rw [if_pos (by simpa [sameHash] using holds)]
        rfl
      · obtain ⟨row, found, marked⟩ := ledgered.consumed older consumes
        refine ⟨_, by rw [found, Option.map_some], ?_⟩
        split
        · rfl
        · exact marked
    · have unchanged : ∀ row ∈
          (consumeLease store (some (sha256 token)) binding now).2.leases,
          row.active = true → row ∈ store.leases := by
        intro row member active
        simp only [consumeLease, Table.mem_updateWhere] at member
        obtain ⟨old, oldMember, rfl⟩ := member
        split at active
        · simp [Lease.active] at active
        · rename_i kept
          rwa [if_neg kept]
      intro first firstMember second secondMember firstActive secondActive
      exact ledgered.single first (unchanged first firstMember firstActive)
        second (unchanged second secondMember secondActive) firstActive
        secondActive

theorem call (action : LeaseAction) :
    Ledgered sha256 (leaseCall sha256 store action).2.leases
      ((action, (leaseCall sha256 store action).1) :: log) := by
  cases action with
  | issue token request now => exact ledgered.issue token request now
  | consume token binding now => exact ledgered.consume token binding now
  | validate =>
      refine ledgered.logged ?_ ?_
      · rintro request ⟨_, _, _, _, _, equal, _⟩
        cases equal
      · rintro hash ⟨_, _, _, equal, _⟩
        cases equal

theorem admits (action : LeaseAction) :
    LeaseAdmissible sha256 (action, (leaseCall sha256 store action).1) log := by
  constructor
  · intro token binding now equal
    obtain rfl : action = .consume token binding now := congrArg Prod.fst equal
    have taken : (consumeLease store (tokenHash sha256 token) binding
        now).1 = true := by
      simpa [leaseCall] using congrArg Prod.snd equal
    unfold tokenHash at taken
    split at taken
    · cases taken
    obtain ⟨row, usable⟩ := Option.isSome_iff_exists.mp taken
    obtain ⟨found, holds⟩ := Option.filter_eq_some_iff.mp usable
    obtain ⟨member, sameHash⟩ := Table.find?_eq_some_iff.mp found
    simp only [Bool.and_eq_true, Option.isNone_iff_eq_none] at holds
    obtain ⟨valid, unconsumed⟩ := holds
    have standing : row.revokedAt = none := by
      simp only [leaseValid, Bool.and_eq_true, Option.isNone_iff_eq_none]
        at valid
      exact valid.1.1.1.1.2
    constructor
    · obtain ⟨later, issuance, earlier, request, logged, issuedFor,
        unrevoked⟩ := (ledgered.issued member standing).granted sameHash valid
      exact ⟨later, issuance, earlier, request, logged, issuedFor,
        unrevoked unconsumed⟩
    · intro earlier older consumes
      obtain ⟨_, otherFound, marked⟩ := ledgered.consumed older consumes
      obtain rfl := Option.some.inj (found.symm.trans otherFound)
      rw [unconsumed] at marked
      cases marked
  · intro token binding now equal
    obtain rfl : action = .validate token binding now := congrArg Prod.fst equal
    have accepted : validateLease store (tokenHash sha256 token) binding
        now = true := by
      simpa [leaseCall] using congrArg Prod.snd equal
    unfold tokenHash at accepted
    split at accepted
    · cases accepted
    obtain ⟨row, passes⟩ := Option.isSome_iff_exists.mp accepted
    obtain ⟨found, valid⟩ := Option.filter_eq_some_iff.mp passes
    obtain ⟨member, sameHash⟩ := Table.find?_eq_some_iff.mp found
    have standing : row.revokedAt = none := by
      simp only [leaseValid, Bool.and_eq_true, Option.isNone_iff_eq_none]
        at valid
      exact valid.1.1.1.1.2
    obtain ⟨_, issuance, _, request, logged, issuedFor, -⟩ :=
      (ledgered.issued member standing).granted sameHash valid
    exact ⟨issuance, by simp [logged], request, issuedFor⟩

end Ledgered

end Ledgered

theorem ledgered_leaseRun (sha256 : String → String)
    (actions : List LeaseAction) :
    Ledgered sha256 (leaseRun sha256 actions).state.leases
      (leaseRun sha256 actions).log :=
  run_invariant (logStep (leaseCall sha256))
    (fun logged => Ledgered sha256 logged.state.leases logged.log)
    (fun _ action ledgered => ledgered.call action) Ledgered.initial actions

/-- In every sequence of lease calls, a lease is consumed at most once, only for
a binding it was issued for, by its expiry and before its step asks for
another; and no step of a workflow ever holds two leases. -/
theorem lease_consumed_once (sha256 : String → String)
    (actions : List LeaseAction) :
    Lawful (LeaseAdmissible sha256) (leaseRun sha256 actions).log ∧
      SingleHolder (leaseRun sha256 actions).state.leases :=
  ⟨lawful_run (leaseCall sha256) (LeaseAdmissible sha256)
      (fun store log => Ledgered sha256 store.leases log)
      (fun action ledgered => ledgered.call action)
      (fun action ledgered => ledgered.admits action)
      Ledgered.initial actions,
    (ledgered_leaseRun sha256 actions).single⟩

def tokenDigest (token : String) : String :=
  if token = "token" then
    "3c469e9d6c5875d37a43f353d4f88e61fcf812c66eee3457465a40b0da4153e0"
  else token

/-- A lease that names no revision is consumed for a step of a workflow, under
an authority it was not issued for. -/
theorem legacy_lease_covers_any_step :
    ¬ ∀ (actions : List LeaseAction) (token : String) (binding : Binding)
      (now : Int),
      (.consume token binding now, .consumed true) ∈
        (leaseRun tokenDigest actions).log →
      ∃ request issuedAt,
        (.issue token request issuedAt, .issued (.ok ())) ∈
          (leaseRun tokenDigest actions).log ∧
        request.workflowRevisionId = binding.workflowRevisionId.getD "legacy" ∧
        request.authority.orDefaults = binding.authority.orDefaults := by
  intro equalBinding
  have granted := equalBinding
    [.issue "token" ⟨"", "user", "agent", "task", "credential",
        ["slack.message.send"], 100, "legacy", "legacy", "legacy", "legacy", 0,
        {}, none⟩ 0,
      .consume "token"
        { userPrincipalId := "user", agentPrincipalId := "agent",
          taskId := some "task", credentialId := "credential",
          capabilityId := "slack.message.send",
          workflowRevisionId := some "revision", stepId := some "step",
          authority := ⟨"user", "profile", "subject"⟩ } 50]
    "token" _ 50 List.mem_cons_self
  obtain ⟨_, _, member, revision, _⟩ := granted
  simp only [leaseRun, run_cons, run_nil, logStep, List.mem_cons,
    Prod.mk.injEq, reduceCtorEq, false_and, false_or] at member
  rcases member with ⟨sameCall, _⟩ | impossible
  · simp only [LeaseAction.issue.injEq] at sameCall
    rw [sameCall.2.1] at revision
    exact absurd revision (by decide)
  · cases impossible

end AcpTask.Action
