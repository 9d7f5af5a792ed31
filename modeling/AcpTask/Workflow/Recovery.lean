import AcpTask.Workflow.Claims
import AcpTask.Workflow.Completed

namespace AcpTask.Workflow

open Library

/-- A sweep moves a running step only when the lease of its current attempt has
expired. -/
def SparesLive (backend : Backend) (digests : Digests) (store : WorkflowStore)
    (now : Int) (skipped : List String) : Prop :=
  ∀ key row next, store.steps.find? key = some row →
    row.executionStatus = .running →
    (repositoryStep backend digests store
      (.recoverExpiredClaims now skipped)).steps.find? key = some next →
    next.executionStatus ≠ .running →
    ∃ lease ∈ store.leases, lease.step = key ∧ lease.attempt = row.attempt ∧
      lease.expiresAt < now

/-- A running step whose current lease is live has an unfinished, expired lease
of an earlier attempt that the sweep does not skip. -/
def staleLease (backend : Backend) (store : WorkflowStore) (now : Int)
    (skipped : List String) : Bool :=
  store.steps.rows.any fun row =>
    row.executionStatus == .running &&
    (store.leases.rows.any fun lease => decide (lease.step = row.key) &&
      lease.attempt == row.attempt && decide (now ≤ lease.expiresAt)) &&
    (store.leases.rows.any fun lease => decide (lease.step = row.key) &&
      decide (lease.attempt < row.attempt) && decide (lease.expiresAt < now) &&
      lease.isOpen &&
      (decide (backend = .sqlite) || !skipped.contains lease.leaseHash))

/-- A running step has a lease for its attempt, every lease names a step of its
tenant that reached its attempt, and Postgres keeps no lease of an earlier
attempt open. -/
structure Leased (backend : Backend) (store : WorkflowStore) : Prop where
  current : ∀ row ∈ store.steps, row.executionStatus = .running →
    ∃ lease ∈ store.leases, lease.step = row.key ∧ lease.attempt = row.attempt
  owned : ∀ lease ∈ store.leases, ∃ row,
    store.steps.find? lease.step = some row ∧
      row.tenantId = lease.tenantId ∧ lease.attempt ≤ row.attempt
  single : backend = .postgres → ∀ lease ∈ store.leases,
    lease.isOpen = true → ∀ row, store.steps.find? lease.step = some row →
      lease.attempt = row.attempt
  unique : UniqueLeases store

theorem leased_empty (backend : Backend) :
    Leased backend WorkflowStore.empty where
  current := fun _ member => by cases member
  owned := fun _ member => by cases member
  single := fun _ _ member => by cases member
  unique := fun _ member => by cases member

section Step

variable {backend : Backend} {digests : Digests} {store : WorkflowStore}
  {call : RepositoryCall}

theorem RowMove.unclaimed {row next : Step}
    (move : RowMove backend digests store row next call)
    (other : ∀ claim, grant backend digests store call = some claim →
      claim.step ≠ row.key) :
    next.attempt = row.attempt ∧
      (next.executionStatus = .running → row.executionStatus = .running) := by
  have standing : ∀ stand, next.stand = stand →
      next.executionStatus = stand.status ∧ next.attempt = stand.attempt := by
    rintro _ rfl
    exact ⟨rfl, rfl⟩
  cases move with
  | kept stand =>
      obtain ⟨status, attempt⟩ := standing _ stand
      refine ⟨attempt, ?_⟩
      rw [status]
      exact id
  | written _ writes stand =>
      obtain ⟨wrote, attempt⟩ := standing _ stand
      refine ⟨attempt, ?_⟩
      rw [wrote]
      exact fun running => ((writes_settles writes).2 running).elim
  | released _ running stand => exact ⟨(standing _ stand).2, fun _ => running⟩
  | exhausted _ _ stand =>
      obtain ⟨status, attempt⟩ := standing _ stand
      refine ⟨attempt, ?_⟩
      rw [status]
      intro running
      cases running
  | claimed _ _ grants => exact absurd rfl (other _ grants)

theorem unclaimed_row {key : StepKey} {next : Step}
    (other : ∀ claim, grant backend digests store call = some claim →
      claim.step ≠ key)
    (found : (repositoryStep backend digests store call).steps.find? key =
      some next) :
    next.executionStatus ≠ .running ∨
      ∃ row, store.steps.find? key = some row ∧ row.Alike next ∧
        next.attempt = row.attempt ∧ row.executionStatus = .running := by
  have moves := repositoryStep_rows backend digests store call key
  rw [found] at moves
  cases before : store.steps.find? key with
  | none =>
      rw [before] at moves
      cases moves with
      | planned => exact .inl ExecutionStatus.noConfusion
  | some row =>
      rw [before] at moves
      cases moves with
      | present alike move =>
          rw [← (Table.find?_eq_some_iff.mp before).2] at other
          obtain ⟨attempt, running⟩ := move.unclaimed other
          by_cases runs : next.executionStatus = .running
          · exact .inr ⟨row, rfl, alike, attempt, running runs⟩
          · exact .inl runs

theorem unclaimed_next {key : StepKey} {row : Step}
    (other : ∀ claim, grant backend digests store call = some claim →
      claim.step ≠ key)
    (found : store.steps.find? key = some row) :
    ∃ next, (repositoryStep backend digests store call).steps.find? key =
      some next ∧ row.Alike next ∧ next.attempt = row.attempt := by
  obtain ⟨next, after, alike, move⟩ :=
    repositoryStep_row backend digests call found
  rw [← (Table.find?_eq_some_iff.mp found).2] at other
  exact ⟨next, after, alike, (move.unclaimed other).1⟩

theorem leased_refused (leased : Leased backend store)
    (refused : grant backend digests store call = none) :
    Leased backend (repositoryStep backend digests store call) := by
  have kept := repositoryStep_leases digests refused
  have other : ∀ (key : StepKey) (claim : Claim),
      grant backend digests store call = some claim → claim.step ≠ key := by
    intro key claim grants
    rw [refused] at grants
    cases grants
  refine ⟨?_, ?_, ?_, kept.unique leased.unique⟩
  · intro next member running
    rcases unclaimed_row (other next.key)
        (Table.find?_eq_some_iff.mpr ⟨member, rfl⟩) with
      stopped | ⟨row, found, alike, attempt, runs⟩
    · exact absurd running stopped
    · obtain ⟨here, _⟩ := Table.find?_eq_some_iff.mp found
      obtain ⟨lease, leaseMember, step, same⟩ := leased.current row here runs
      obtain ⟨later, laterMember, leaseAlike⟩ := kept.forth lease leaseMember
      refine ⟨later, laterMember, ?_, ?_⟩
      · rw [leaseAlike.step, step, alike.key]
      · rw [leaseAlike.attempt, same, attempt]
  · intro later member
    obtain ⟨lease, leaseMember, leaseAlike⟩ := kept.back later member
    obtain ⟨row, found, tenant, reached⟩ := leased.owned lease leaseMember
    obtain ⟨next, nextFound, alike, attempt⟩ :=
      unclaimed_next (other lease.step) found
    refine ⟨next, by rw [leaseAlike.step]; exact nextFound, ?_, ?_⟩
    · rw [alike.tenantId, tenant, leaseAlike.tenantId]
    · rw [leaseAlike.attempt, attempt]
      exact reached
  · intro isPostgres later member isOpen next nextFound
    obtain ⟨lease, leaseMember, leaseAlike⟩ := kept.back later member
    obtain ⟨row, found, _⟩ := leased.owned lease leaseMember
    obtain ⟨_, afterFound, _, attempt⟩ :=
      unclaimed_next (other lease.step) found
    rw [leaseAlike.step, afterFound] at nextFound
    cases nextFound
    rw [leaseAlike.attempt, attempt]
    exact leased.single isPostgres lease leaseMember
      (leaseAlike.closes isOpen) row found

theorem leased_granted {claim : Claim} (leased : Leased backend store)
    (grants : grant backend digests store call = some claim) :
    Leased backend (repositoryStep backend digests store call) := by
  obtain ⟨_, next, lease, granted⟩ := grant_spec grants
  have members : ∀ other,
      other ∈ (repositoryStep backend digests store call).leases ↔
        other ∈ store.leases ∨ other = lease := by
    intro other
    rw [Table.mem_def, granted.leases, List.mem_append, List.mem_singleton,
      Table.mem_def]
  have elsewhere : ∀ key, claim.step ≠ key → ∀ other,
      grant backend digests store call = some other → other.step ≠ key := by
    intro key different other same
    rw [grants] at same
    cases same
    exact different
  obtain ⟨after, afterFound, alike, _⟩ :=
    repositoryStep_attempt digests call granted.found
  rw [granted.starts] at afterFound
  cases afterFound
  refine ⟨?_, ?_, ?_, granted.unique leased.unique⟩
  · intro later member running
    by_cases same : claim.step = later.key
    · have here := granted.starts
      rw [same, Table.find?_eq_some_iff.mpr ⟨member, rfl⟩] at here
      cases here
      exact ⟨lease, (members lease).mpr (.inr rfl),
        granted.leaseStep.trans same,
        granted.leaseAttempt.trans granted.started.symm⟩
    · rcases unclaimed_row (elsewhere later.key same)
          (Table.find?_eq_some_iff.mpr ⟨member, rfl⟩) with
        stopped | ⟨old, found, oldAlike, attempt, runs⟩
      · exact absurd running stopped
      · obtain ⟨here, _⟩ := Table.find?_eq_some_iff.mp found
        obtain ⟨other, otherMember, step, sameAttempt⟩ :=
          leased.current old here runs
        refine ⟨other, (members other).mpr (.inl otherMember), ?_, ?_⟩
        · rw [step, oldAlike.key]
        · rw [sameAttempt, attempt]
  · intro other member
    rcases (members other).mp member with old | rfl
    · obtain ⟨owner, found, tenant, reached⟩ := leased.owned other old
      obtain ⟨later, laterFound, ownerAlike, further⟩ :=
        repositoryStep_attempt digests call found
      exact ⟨later, laterFound, ownerAlike.tenantId.trans tenant,
        reached.trans further⟩
    · refine ⟨next, by rw [granted.leaseStep]; exact granted.starts, ?_, ?_⟩
      · rw [granted.leaseTenant, alike.tenantId]
      · rw [granted.leaseAttempt, granted.started]
  · intro isPostgres other member isOpen later found
    rcases (members other).mp member with old | rfl
    · by_cases same : claim.step = other.step
      · rw [granted.free isPostgres other old same.symm] at isOpen
        cases isOpen
      · obtain ⟨owner, ownerFound, _⟩ := leased.owned other old
        obtain ⟨_, afterFound, _, attempt⟩ :=
          unclaimed_next (elsewhere other.step same) ownerFound
        rw [afterFound] at found
        cases found
        rw [attempt]
        exact leased.single isPostgres other old isOpen owner ownerFound
    · rw [granted.leaseStep, granted.starts] at found
      cases found
      rw [granted.leaseAttempt, granted.started]

theorem repositoryStep_leased (backend : Backend) (digests : Digests)
    (store : WorkflowStore) (call : RepositoryCall)
    (leased : Leased backend store) :
    Leased backend (repositoryStep backend digests store call) := by
  cases grants : grant backend digests store call with
  | none => exact leased_refused leased grants
  | some => exact leased_granted leased grants

theorem repositoryRun_leased (backend : Backend) (digests : Digests)
    (calls : List RepositoryCall) :
    Leased backend (repositoryRun backend digests calls) :=
  run_invariant (repositoryStep backend digests) (Leased backend)
    (repositoryStep_leased backend digests) (leased_empty backend) calls

theorem strands_iff {now : Int} {skipped : List String} {row : Step}
    {lease : Lease} :
    lease.strands backend now skipped row = true ↔
      row.key = lease.step ∧ row.tenantId = lease.tenantId ∧
      lease.expiresAt < now ∧ lease.isOpen = true ∧
      (backend = .sqlite ∨ lease.leaseHash ∉ skipped) := by
  simp [Lease.strands, Step.is, and_assoc]

theorem staleLease_iff {now : Int} {skipped : List String} :
    staleLease backend store now skipped = true ↔
      ∃ row ∈ store.steps, row.executionStatus = .running ∧
        (∃ lease ∈ store.leases, lease.step = row.key ∧
          lease.attempt = row.attempt ∧ now ≤ lease.expiresAt) ∧
        ∃ lease ∈ store.leases, lease.step = row.key ∧
          lease.attempt < row.attempt ∧ lease.expiresAt < now ∧
          lease.isOpen = true ∧
          (backend = .sqlite ∨ lease.leaseHash ∉ skipped) := by
  simp [staleLease, Table.mem_def, and_assoc]

theorem sparesLive_iff (leased : Leased backend store) (now : Int)
    (skipped : List String) :
    SparesLive backend digests store now skipped ↔
      staleLease backend store now skipped = false := by
  rw [← Bool.not_eq_true, staleLease_iff]
  constructor
  · rintro spares ⟨row, member, running, ⟨live, liveMember, liveStep,
      liveAttempt, notExpired⟩, stale, staleMember, staleStep, earlier, expired,
      isOpen, taken⟩
    have found : store.steps.find? row.key = some row :=
      Table.find?_eq_some_iff.mpr ⟨member, rfl⟩
    obtain ⟨owner, ownerFound, tenant, _⟩ := leased.owned stale staleMember
    rw [staleStep, found] at ownerFound
    cases ownerFound
    have stranded : store.leases.rows.any
        (Lease.strands backend now skipped row) = true :=
      List.any_eq_true.mpr ⟨stale, staleMember, strands_iff.mpr
        ⟨staleStep.symm, tenant, expired, isOpen, taken⟩⟩
    have swept := swept_find? backend digests now skipped found
    rw [stranded, running] at swept
    obtain ⟨lease, leaseMember, step, attempt, past⟩ :=
      spares row.key row _ found running swept row.effect.recovered_ne_running
    have same := leased.unique lease leaseMember live liveMember
      (step.trans liveStep.symm) (attempt.trans liveAttempt.symm)
    rw [same] at past
    exact absurd past (Int.not_lt.mpr notExpired)
  · intro fresh key row next found running sweeps stopped
    obtain ⟨member, rfl⟩ := Table.find?_eq_some_iff.mp found
    rw [swept_find? backend digests now skipped found, Option.some.injEq]
      at sweeps
    split at sweeps
    · rename_i stranded
      rw [Bool.and_eq_true] at stranded
      obtain ⟨stale, staleMember, strands⟩ := List.any_eq_true.mp stranded.2
      obtain ⟨step, _, expired, isOpen, taken⟩ := strands_iff.mp strands
      obtain ⟨owner, ownerFound, _, reached⟩ := leased.owned stale staleMember
      rw [← step, found] at ownerFound
      cases ownerFound
      rcases Nat.lt_or_eq_of_le reached with earlier | same
      · obtain ⟨live, liveMember, liveStep, liveAttempt⟩ :=
          leased.current row member running
        refine ⟨live, liveMember, liveStep, liveAttempt, ?_⟩
        by_contra notExpired
        exact fresh ⟨row, member, running, ⟨live, liveMember, liveStep,
          liveAttempt, Int.not_lt.mp notExpired⟩, stale, staleMember,
          step.symm, earlier, expired, isOpen, taken⟩
      · exact ⟨stale, staleMember, step.symm, same, expired⟩
    · rw [← sweeps] at stopped
      exact absurd running stopped

end Step

/-- In every reachable state a sweep leaves the steps of live workers alone
exactly when no such step has a stale lease of an earlier attempt; in Postgres
none ever has. -/
theorem sweep_spares_live_workers (backend : Backend) (digests : Digests)
    (calls : List RepositoryCall) (now : Int) (skipped : List String) :
    (SparesLive backend digests (repositoryRun backend digests calls) now
        skipped ↔
      staleLease backend (repositoryRun backend digests calls) now skipped =
        false) ∧
    (backend = .postgres →
      SparesLive backend digests (repositoryRun backend digests calls) now
        skipped) := by
  have leased := repositoryRun_leased backend digests calls
  refine ⟨sparesLive_iff leased now skipped, fun isPostgres => ?_⟩
  rw [sparesLive_iff leased now skipped, ← Bool.not_eq_true, staleLease_iff]
  rintro ⟨row, member, _, _, stale, staleMember, step, earlier, _, isOpen, _⟩
  have same := leased.single isPostgres stale staleMember isOpen row
    (by rw [step]; exact Table.find?_eq_some_iff.mpr ⟨member, rfl⟩)
  exact absurd same earlier.ne

/-- A worker's call ends in a retryable error; it crashes between releasing the
step and finishing its lease, and another worker claims the next attempt. -/
def staleRun : List WorkflowAction :=
  [.createRun "run" "tenant" "user" "goal" 0,
    .createRevision sampleTarget "graph" samplePlan 0 1000,
    .authorizeRequestedRead sampleTarget "graph" "user" 0 900] ++
  dispatchingBy 0 "first" 1 ++
  [.advance 0 (.dispatched (.retryableStepError "timeout" (some 1))) 2,
    .advance 0 .proceed 2, .crash 0] ++ dispatchingBy 1 "second" 50

/-- The second lease runs until 110; at 70 the first one's end re-queues the
step. -/
theorem stale_lease_recovers_live_step :
    ¬ ∀ (config : ExecutorConfig) (actions : List WorkflowAction) (now : Int),
      SparesLive .sqlite config.digests (workflowRun config actions).store now
        [] := by
  intro spares
  have live := spares sampleConfig staleRun 70
  have moved : ((workflowRun sampleConfig staleRun).store.steps.find?
      sampleStep).any (fun row => row.executionStatus == .running &&
        row.attempt == 2 && ((repositoryStep .sqlite sampleConfig.digests
          (workflowRun sampleConfig staleRun).store
          (.recoverExpiredClaims 70 [])).steps.find? sampleStep).any
            fun next => next.executionStatus == .queued) = true := by
    decide +kernel
  have unexpired : ∀ lease ∈ (workflowRun sampleConfig staleRun).store.leases.rows,
      lease.attempt = 2 → ¬ lease.expiresAt < 70 := by
    decide +kernel
  obtain ⟨row, found, both⟩ := (Option.any_eq_true _ _).mp moved
  simp only [Bool.and_eq_true, beq_iff_eq] at both
  obtain ⟨⟨running, attempt⟩, swept⟩ := both
  obtain ⟨next, nextFound, queued⟩ := (Option.any_eq_true _ _).mp swept
  obtain ⟨lease, member, _, same, expired⟩ := live sampleStep row next found
    running nextFound (by
      rw [beq_iff_eq.mp queued]
      exact ExecutionStatus.noConfusion)
  exact unexpired lease member (same.trans attempt) expired

/-- A running step is leased for its current attempt, once; any other lease of it
is of an earlier attempt, and in Postgres closed. -/
theorem running_steps_leased (backend : Backend) (digests : Digests)
    (calls : List RepositoryCall) :
    let store := repositoryRun backend digests calls
    (∀ lease ∈ store.leases, ∃ row,
      store.steps.find? lease.step = some row ∧
        row.tenantId = lease.tenantId ∧ lease.attempt ≤ row.attempt) ∧
    ∀ row ∈ store.steps, row.executionStatus = .running →
      ∃ lease ∈ store.leases, lease.step = row.key ∧
        lease.attempt = row.attempt ∧
        ∀ other ∈ store.leases, other.step = row.key → other = lease ∨
          other.attempt < row.attempt ∧
            (backend = .postgres → other.isOpen = false) := by
  have leased := repositoryRun_leased backend digests calls
  refine ⟨leased.owned, fun row member running => ?_⟩
  obtain ⟨lease, held, step, attempt⟩ := leased.current row member running
  refine ⟨lease, held, step, attempt, fun other otherHeld same => ?_⟩
  have found := Table.mem_iff_find?.mp member
  obtain ⟨owner, ownerFound, _, reached⟩ := leased.owned other otherHeld
  rw [same, found] at ownerFound
  cases ownerFound
  rcases Nat.lt_or_eq_of_le reached with earlier | current
  · refine .inr ⟨earlier, fun postgres => Bool.eq_false_of_not_eq_true ?_⟩
    intro isOpen
    exact earlier.ne (leased.single postgres other otherHeld isOpen row
      (same ▸ found))
  · exact .inl (leased.unique other otherHeld lease held
      (same.trans step.symm) (current.trans attempt.symm))

end AcpTask.Workflow
