import AcpTask.Workflow.Rows

namespace AcpTask.Workflow

open Library

/-! The leases of a store: what a call can do to them, and the one a claim
inserts. -/

structure Lease.Alike (row next : Lease) : Prop where
  leaseHash : next.leaseHash = row.leaseHash
  step : next.step = row.step
  attempt : next.attempt = row.attempt
  tenantId : next.tenantId = row.tenantId
  expiresAt : next.expiresAt = row.expiresAt
  closes : next.isOpen = true → row.isOpen = true

theorem Lease.Alike.refl (row : Lease) : row.Alike row :=
  ⟨rfl, rfl, rfl, rfl, rfl, id⟩

theorem Lease.Alike.trans {first second third : Lease}
    (left : first.Alike second) (right : second.Alike third) :
    first.Alike third :=
  ⟨right.leaseHash.trans left.leaseHash, right.step.trans left.step,
    right.attempt.trans left.attempt, right.tenantId.trans left.tenantId,
    right.expiresAt.trans left.expiresAt,
    fun isOpen => left.closes (right.closes isOpen)⟩

structure LeasesKept (store later : WorkflowStore) : Prop where
  back : ∀ next ∈ later.leases, ∃ row ∈ store.leases, row.Alike next
  forth : ∀ row ∈ store.leases, ∃ next ∈ later.leases, row.Alike next

namespace LeasesKept

variable {store middle later : WorkflowStore}

theorem of_leases (same : later.leases = store.leases) :
    LeasesKept store later where
  back := fun next member => ⟨next, by rw [← same]; exact member, .refl next⟩
  forth := fun row member => ⟨row, by rw [same]; exact member, .refl row⟩

theorem trans (left : LeasesKept store middle)
    (right : LeasesKept middle later) : LeasesKept store later where
  back := by
    intro next member
    obtain ⟨between, betweenMember, second⟩ := right.back next member
    obtain ⟨row, rowMember, first⟩ := left.back between betweenMember
    exact ⟨row, rowMember, first.trans second⟩
  forth := by
    intro row member
    obtain ⟨between, betweenMember, first⟩ := left.forth row member
    obtain ⟨next, nextMember, second⟩ := right.forth between betweenMember
    exact ⟨next, nextMember, first.trans second⟩

theorem update {condition : Lease → Bool} {assign : Lease → Lease}
    (keepsKey : ∀ row, (assign row).leaseHash = row.leaseHash)
    (alike : ∀ row : Lease, row.Alike (assign row))
    (updates : later.leases =
      store.leases.updateWhere condition assign keepsKey) :
    LeasesKept store later where
  back := by
    intro next member
    rw [updates, Table.mem_updateWhere] at member
    obtain ⟨row, rowMember, rfl⟩ := member
    refine ⟨row, rowMember, ?_⟩
    split
    · exact alike row
    · exact .refl row
  forth := by
    intro row member
    rw [updates]
    refine ⟨_, (Table.mem_updateWhere ..).mpr ⟨row, member, rfl⟩, ?_⟩
    split
    · exact alike row
    · exact .refl row

end LeasesKept

theorem Lease.alike_consumed (row : Lease) (now : Int) :
    row.Alike { row with consumedAt := some now } :=
  ⟨rfl, rfl, rfl, rfl, rfl, fun isOpen => by simp [Lease.isOpen] at isOpen⟩

theorem Lease.alike_revoked (row : Lease) (now : Int) :
    row.Alike { row with revokedAt := some now } :=
  ⟨rfl, rfl, rfl, rfl, rfl, fun isOpen => by simp [Lease.isOpen] at isOpen⟩

section Statements

variable {store later : WorkflowStore}

def Planning (store later : WorkflowStore) : Prop :=
  later.leases = store.leases ∧ later.receipts = store.receipts ∧
    later.attestations = store.attestations

theorem Planning.refl (store : WorkflowStore) : Planning store store :=
  ⟨rfl, rfl, rfl⟩

theorem createRun_planning
    (workflowRunId tenantId userPrincipalId goalHash : String) (now : Int) :
    Planning store (createRun store workflowRunId tenantId userPrincipalId
      goalHash now).2 :=
  createRun_preserves (.refl store) fun _ _ => .refl store

theorem createRevision_planning
    (workflowRevisionId workflowRunId tenantId planGraphHash : String)
    (plan : List PlannedStep) (now contentTtlSeconds : Int) :
    Planning store (createRevision store workflowRevisionId workflowRunId
      tenantId planGraphHash plan now contentTtlSeconds).2 :=
  createRevision_preserves (.refl store) fun _ _ _ _ _ => .refl store

theorem Authorizes.planning (authorizes : Authorizes store later) :
    Planning store later := by
  obtain ⟨_, _, _, rfl⟩ := authorizes.frame
  exact .refl store

theorem completion_leases (backend : Backend) (digests : Digests)
    (key : StepKey) (tenantId : String) (attempt : Nat)
    (result : DispatchResult) (now : Int) (missed : Bool) :
    LeasesKept store (repositoryStep backend digests store
      (.persistCompletion key tenantId attempt result now missed)) := by
  refine completion_preserves (.of_leases rfl) fun _ _ _ _ _ => ?_
  cases backend with
  | sqlite =>
      refine .of_leases ?_
      simp only [Backend.close, closeRevision]
      split <;> rfl
  | postgres =>
      have consumed : LeasesKept store
          (Postgres.consumeLease store key tenantId attempt now) :=
        .update (fun _ => by rfl) (fun row => row.alike_consumed now) rfl
      refine consumed.trans (.of_leases ?_)
      simp only [Backend.close, Postgres.closeRevision]
      split <;> rfl

theorem finishClaimLease_leases (digests : Digests) (claim : Claim)
    (tenantId : String) (now : Int) (consumed : Bool) :
    LeasesKept store
      (finishClaimLease digests store claim tenantId now consumed) := by
  refine .update (fun _ => by split <;> rfl) ?_ rfl
  intro row
  split
  · exact row.alike_consumed now
  · exact row.alike_revoked now

end Statements

/-- A claim is for a queued step whose dependencies are completed, and its lease
is the first one of the attempt. -/
structure Granted (backend : Backend) (store later : WorkflowStore)
    (claim : Claim) (row next : Step) (lease : Lease) : Prop where
  found : store.steps.find? claim.step = some row
  queued : row.executionStatus = .queued
  ready : Ready store row
  attempt : claim.attempt = row.attempt + 1
  starts : later.steps.find? claim.step = some next
  running : next.executionStatus = .running
  started : next.attempt = claim.attempt
  leases : later.leases.rows = store.leases.rows ++ [lease]
  leaseStep : lease.step = claim.step
  leaseAttempt : lease.attempt = claim.attempt
  leaseTenant : lease.tenantId = row.tenantId
  fresh : ∀ other ∈ store.leases, other.step = claim.step →
    other.attempt ≠ claim.attempt
  free : backend = .postgres → ∀ other ∈ store.leases,
    other.step = claim.step → other.isOpen = false

section Grants

variable {backend : Backend} {store later : WorkflowStore}

theorem insertLease_rows {row : Lease}
    (inserted : insertLease store row = .ok later) :
    later.leases.rows = store.leases.rows ++ [row] ∧
      ∀ other ∈ store.leases, other.step = row.step →
        other.attempt ≠ row.attempt := by
  simp only [insertLease, bind_eq_ok, require_eq_ok, insertInto, pure_eq_ok]
    at inserted
  obtain ⟨_, unique, leases, success, rfl⟩ := inserted
  split at success
  · rename_i table added
    cases success
    refine ⟨(Table.insert?_eq_some_iff.mp added).2, ?_⟩
    intro other member sameStep sameAttempt
    simp only [Bool.not_eq_true', List.any_eq_false, Bool.and_eq_true,
      decide_eq_true_eq, beq_iff_eq, not_and] at unique
    exact unique other member sameStep sameAttempt
  · cases success

variable {target : Target} {workerId token : String} {digests : Digests}
  {now leaseTtlSeconds maxAttempts : Int}

theorem granted_of_selected (backend : Backend) {selected : Step}
    (member : selected ∈ (failExhausted store target maxAttempts).steps)
    (queued : target.queued selected = true)
    (ready : Ready (failExhausted store target maxAttempts) selected)
    (inserted : insertLease (startAttempt (failExhausted store target
        maxAttempts) selected.key (selected.attempt + 1) workerId now) {
      leaseHash := digests.lease token, step := selected.key
      attempt := selected.attempt + 1, tenantId := target.tenantId, workerId
      expiresAt := now + leaseTtlSeconds } = .ok later)
    (free : backend = .postgres → ∀ other ∈ store.leases,
      other.step = selected.key → other.isOpen = false) :
    ∃ next lease, Granted backend store later
      ⟨token, selected.key, selected.attempt + 1⟩ selected next lease := by
  have trimmed := Table.find?_eq_some_iff.mpr
    (⟨member, rfl⟩ : selected ∈ (failExhausted store target
      maxAttempts).steps ∧ selected.key = selected.key)
  have isQueued := queued_status queued
  have tenant : selected.tenantId = target.tenantId := by
    simp only [Target.queued, Bool.and_eq_true, beq_iff_eq] at queued
    exact queued.1.2
  obtain ⟨rows, unique⟩ := insertLease_rows inserted
  have starts : later.steps.find? selected.key = some { selected with
      executionStatus := .running, attempt := selected.attempt + 1
      claimedBy := some workerId, claimedAt := some now, retryAt := none } := by
    rw [insertLease_steps inserted, startAttempt, updateSteps,
      Table.find?_updateWhere, trimmed, Option.map_some]
    simp [isQueued]
  exact ⟨_, _, {
    found := failExhausted_queued trimmed isQueued
    queued := isQueued
    ready := ready.of_failExhausted
    attempt := rfl
    starts
    running := rfl
    started := rfl
    leases := rows
    leaseStep := rfl
    leaseAttempt := rfl
    leaseTenant := tenant.symm
    fresh := unique
    free }⟩

variable {call : RepositoryCall}

theorem grant_spec {claim : Claim}
    (grants : grant backend digests store call = some claim) :
    ∃ row next lease, Granted backend store
      (repositoryStep backend digests store call) claim row next lease := by
  cases call with
  | claimReadyStep target workerId token now leaseTtlSeconds maxAttempts
      locked =>
      have move := claim_move backend digests store target workerId token now
        leaseTtlSeconds maxAttempts locked
      rw [grants] at move
      generalize repositoryStep backend digests store _ = later at move ⊢
      cases move with
      | started member queued ready inserted free =>
          obtain ⟨next, lease, granted⟩ :=
            granted_of_selected backend member queued ready inserted free
          exact ⟨_, next, lease, granted⟩
  | _ => cases grants

theorem repositoryStep_leases (digests : Digests)
    (refused : grant backend digests store call = none) :
    LeasesKept store (repositoryStep backend digests store call) := by
  cases call with
  | createRun => exact .of_leases (createRun_planning ..).1
  | createRevision => exact .of_leases (createRevision_planning ..).1
  | authorizeRequestedRead =>
      exact .of_leases (authorizeRequestedRead_step backend ..).planning.1
  | recordApproval => exact .of_leases (recordApproval_authorizes ..).planning.1
  | recordCampaignAuthorization =>
      exact .of_leases (recordCampaignAuthorization_step backend ..).planning.1
  | claimReadyStep target workerId token now leaseTtlSeconds maxAttempts
      locked =>
      have move := claim_move backend digests store target workerId token now
        leaseTtlSeconds maxAttempts locked
      rw [refused] at move
      generalize repositoryStep backend digests store _ = later at move ⊢
      cases move with
      | refused | trimmed => exact .of_leases rfl
  | finishClaimLease => exact finishClaimLease_leases ..
  | persistCompletion => exact completion_leases ..
  | recoverExpiredClaims now =>
      exact sweep_preserves (.of_leases rfl) fun _ _ _ kept =>
        kept.trans (.update (fun _ => by rfl)
          (fun row => row.alike_revoked now) rfl)
  | applyReconciliation =>
      exact reconciliation_preserves (.of_leases rfl)
        (fun _ _ _ => completion_leases ..) fun _ => .of_leases rfl
  | setVerificationStatus =>
      refine .of_leases ?_
      simp only [repositoryStep, setVerificationStatus]
      split <;> rfl
  | _ => cases backend <;> exact .of_leases rfl

theorem RowMove.attempt_le {row next : Step}
    (move : RowMove backend digests store row next call) :
    row.attempt ≤ next.attempt := by
  have standing : ∀ stand, next.stand = stand →
      next.attempt = stand.attempt := by
    rintro _ rfl
    rfl
  cases move with
  | kept stand | written _ _ stand | released _ _ stand | exhausted _ _ stand =>
      exact (standing _ stand).ge
  | claimed _ _ _ stand =>
      rw [standing _ stand]
      exact Nat.le_succ _

theorem repositoryStep_attempt (digests : Digests) (call : RepositoryCall)
    {key : StepKey} {row : Step}
    (found : store.steps.find? key = some row) :
    ∃ next, (repositoryStep backend digests store call).steps.find? key =
      some next ∧ row.Alike next ∧ row.attempt ≤ next.attempt := by
  obtain ⟨next, after, alike, move⟩ :=
    repositoryStep_row backend digests call found
  exact ⟨next, after, alike, move.attempt_le⟩

end Grants

structure ClaimLog where
  store : WorkflowStore
  claims : List Claim

def claimStep (backend : Backend) (digests : Digests) (log : ClaimLog)
    (call : RepositoryCall) : ClaimLog where
  store := repositoryStep backend digests log.store call
  claims := (grant backend digests log.store call).toList ++ log.claims

def claimRun (backend : Backend) (digests : Digests)
    (calls : List RepositoryCall) : ClaimLog :=
  run (claimStep backend digests) ⟨WorkflowStore.empty, []⟩ calls

def UniqueLeases (store : WorkflowStore) : Prop :=
  ∀ left ∈ store.leases, ∀ right ∈ store.leases,
    left.step = right.step → left.attempt = right.attempt → left = right

structure Disciplined (log : ClaimLog) : Prop where
  behind : ∀ claim ∈ log.claims, ∃ row,
    log.store.steps.find? claim.step = some row ∧ claim.attempt ≤ row.attempt
  unique : UniqueLeases log.store

theorem LeasesKept.unique {store later : WorkflowStore}
    (kept : LeasesKept store later) (unique : UniqueLeases store) :
    UniqueLeases later := by
  intro left leftMember right rightMember sameStep sameAttempt
  obtain ⟨oldLeft, oldLeftMember, leftAlike⟩ := kept.back left leftMember
  obtain ⟨oldRight, oldRightMember, rightAlike⟩ := kept.back right rightMember
  have same := unique oldLeft oldLeftMember oldRight oldRightMember
    (leftAlike.step.symm.trans (sameStep.trans rightAlike.step))
    (leftAlike.attempt.symm.trans (sameAttempt.trans rightAlike.attempt))
  subst same
  exact Table.eq_of_key leftMember rightMember
    (leftAlike.leaseHash.trans rightAlike.leaseHash.symm)

theorem Granted.unique {backend : Backend} {store later : WorkflowStore}
    {claim : Claim} {row next : Step} {lease : Lease}
    (granted : Granted backend store later claim row next lease)
    (unique : UniqueLeases store) : UniqueLeases later := by
  have members : ∀ other ∈ later.leases, other ∈ store.leases ∨
      other = lease := by
    intro other member
    rw [Table.mem_def, granted.leases, List.mem_append,
      List.mem_singleton] at member
    exact member
  have first : ∀ other ∈ store.leases, other.step = lease.step →
      other.attempt ≠ lease.attempt := by
    rw [granted.leaseStep, granted.leaseAttempt]
    exact granted.fresh
  intro left leftMember right rightMember sameStep sameAttempt
  rcases members left leftMember with oldLeft | rfl
  · rcases members right rightMember with oldRight | rfl
    · exact unique left oldLeft right oldRight sameStep sameAttempt
    · exact absurd sameAttempt (first left oldLeft sameStep)
  · rcases members right rightMember with oldRight | rfl
    · exact absurd sameAttempt.symm (first right oldRight sameStep.symm)
    · rfl

theorem claimStep_disciplined (backend : Backend) (digests : Digests)
    (log : ClaimLog) (call : RepositoryCall) (disciplined : Disciplined log) :
    Disciplined (claimStep backend digests log call) where
  behind := by
    intro claim member
    rcases List.mem_append.mp member with now | older
    · rw [Option.mem_toList] at now
      obtain ⟨row, next, _, granted⟩ := grant_spec now
      exact ⟨next, granted.starts, granted.started.ge⟩
    · obtain ⟨_, found, reached⟩ := disciplined.behind claim older
      obtain ⟨next, nextFound, _, later⟩ :=
        repositoryStep_attempt digests call found
      exact ⟨next, nextFound, reached.trans later⟩
  unique := by
    cases grants : grant backend digests log.store call with
    | none =>
        exact (repositoryStep_leases digests grants).unique disciplined.unique
    | some =>
        obtain ⟨_, _, _, granted⟩ := grant_spec grants
        exact granted.unique disciplined.unique

/-- In every reachable state, whatever call comes next: a claim is for a queued
step whose dependencies are all completed, its attempt is later than that of
every earlier claim of the step, and no attempt has two leases. -/
theorem claims_disciplined (backend : Backend) (digests : Digests)
    (calls : List RepositoryCall) :
    (∀ call claim,
      grant backend digests (claimRun backend digests calls).store call =
        some claim →
      ∃ row next,
        (claimRun backend digests calls).store.steps.find? claim.step =
          some row ∧
        row.executionStatus = .queued ∧
        (∀ dependency ∈ row.dependsOn, ∃ parent,
          (claimRun backend digests calls).store.steps.find?
            (row.workflowRevisionId, dependency) = some parent ∧
          parent.executionStatus = .completed) ∧
        (claimRun backend digests (calls ++ [call])).store.steps.find?
          claim.step = some next ∧
        next.attempt = claim.attempt ∧ row.attempt < claim.attempt ∧
        ∀ older ∈ (claimRun backend digests calls).claims,
          older.step = claim.step → older.attempt < claim.attempt) ∧
    (∀ left ∈ (claimRun backend digests calls).store.leases,
      ∀ right ∈ (claimRun backend digests calls).store.leases,
        left.step = right.step → left.attempt = right.attempt →
        left = right) := by
  have disciplined : Disciplined (claimRun backend digests calls) := by
    refine run_invariant (claimStep backend digests) Disciplined
      (claimStep_disciplined backend digests) ⟨?_, ?_⟩ calls
    · intro claim member
      cases member
    · intro left member
      cases member
  refine ⟨?_, disciplined.unique⟩
  intro call claim grants
  obtain ⟨row, next, _, granted⟩ := grant_spec grants
  refine ⟨row, next, granted.found, granted.queued, granted.ready, ?_,
    granted.started, ?_, ?_⟩
  · rw [claimRun, run_append]
    exact granted.starts
  · rw [granted.attempt]
    exact Nat.lt_succ_self _
  · intro older member same
    obtain ⟨_, found, reached⟩ := disciplined.behind older member
    rw [same, granted.found] at found
    cases found
    rw [granted.attempt]
    exact Nat.lt_succ_of_le reached

end AcpTask.Workflow
