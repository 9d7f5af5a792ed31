import AcpTask.Workflow.Completed
import AcpTask.Workflow.Rows

namespace AcpTask.Workflow

open Data Library

structure Watched where
  system : WorkflowSystem
  dispatched : List (StepKey × Nat)

def Watched.initial : Watched := ⟨WorkflowSystem.initial, []⟩

def invocation (system : WorkflowSystem) :
    WorkflowAction → Option (StepKey × Nat)
  | .advance worker (.decision value) _ =>
      match system.workers worker with
      | .deciding _ claim _ =>
          if value.allowed then some (claim.step, claim.attempt) else none
      | _ => none
  | _ => none

def watchedStep (config : ExecutorConfig) (watched : Watched)
    (action : WorkflowAction) : Watched where
  system := workflowStep config watched.system action
  dispatched := (invocation watched.system action).toList ++ watched.dispatched

def watchedRun (config : ExecutorConfig) (actions : List WorkflowAction) :
    Watched :=
  run (watchedStep config) Watched.initial actions

def dispatchCount (config : ExecutorConfig) (actions : List WorkflowAction)
    (key : StepKey) : Nat :=
  (watchedRun config actions).dispatched.countP fun attempt =>
    decide (attempt.1 = key)

theorem watchedRun_system (config : ExecutorConfig)
    (actions : List WorkflowAction) :
    (watchedRun config actions).system = workflowRun config actions := by
  have from_any : ∀ watched : Watched,
      (run (watchedStep config) watched actions).system =
        run (workflowStep config) watched.system actions := by
    induction actions with
    | nil => exact fun _ => rfl
    | cons action _ induction =>
        intro watched
        exact induction (watchedStep config watched action)
  exact from_any Watched.initial

def requeuesUndispatched (config : ExecutorConfig) (watched : Watched)
    (action : WorkflowAction) : Bool :=
  match action.call config watched.system with
  | none => false
  | some call => watched.system.store.steps.rows.any fun row =>
      decide (writes .sqlite watched.system.store call row = some .queued) &&
        !watched.dispatched.contains (row.key, row.attempt)

/-- The claim whose dispatcher call a worker has begun, as long as it may still
release the step without counting it. -/
def Phase.invoked : Phase → Option Claim
  | .dispatching _ claim _ => some claim
  | .writing _ claim (.releaseWithoutConsumingAttempt _ _) _ _ => some claim
  | _ => none

structure Step.Accounted (row : Step) (dispatched : List (StepKey × Nat)) :
    Prop where
  earlier : ∀ attempt, 1 ≤ attempt → attempt < row.attempt →
    (row.key, attempt) ∈ dispatched
  waiting : row.executionStatus = .queued ∨ row.executionStatus = .failed →
    1 ≤ row.attempt → (row.key, row.attempt) ∈ dispatched
  failed : row.executionStatus = .failed → 5 ≤ row.attempt

structure Accounted (watched : Watched) : Prop where
  rows : ∀ key row, watched.system.store.steps.find? key = some row →
    row.Accounted watched.dispatched
  phases : ∀ worker claim,
    (watched.system.workers worker).invoked = some claim →
    (claim.step, claim.attempt) ∈ watched.dispatched

theorem accounted_initial : Accounted Watched.initial where
  rows := fun _ _ found => by cases found
  phases := fun _ _ invoked => by cases invoked

theorem outcomePhase_invoked {seconds : Int} {target : Target} {claim : Claim}
    {outcome : DispatchOutcome} {other : Claim}
    (invoked : (outcomePhase seconds target claim outcome).invoked =
      some other) : other = claim := by
  cases outcome with
  | pausedStepError =>
      cases invoked
      rfl
  | _ => cases invoked

theorem inputPhase_invoked (target : Target) (claim : Claim) (step : Step)
    (resolved : Except ResolveError Value) :
    (inputPhase target claim step resolved).invoked = none := by
  unfold inputPhase
  split
  · rfl
  · split <;> rfl

section Phases

variable {system : WorkflowSystem} {claim : Claim}

theorem invoked_of_update {workers : Nat → Phase} {worker other : Nat}
    {phase : Phase}
    (invoked : (Function.update workers worker phase other).invoked =
      some claim) :
    (workers other).invoked = some claim ∨ phase.invoked = some claim := by
  rw [Function.update_apply] at invoked
  split at invoked
  · exact .inr invoked
  · exact .inl invoked

theorem invoked_of_quiet {workers : Nat → Phase} {worker other : Nat}
    {phase : Phase} (quiet : phase.invoked = none)
    (invoked : (Function.update workers worker phase other).invoked =
      some claim) : (workers other).invoked = some claim := by
  rcases invoked_of_update invoked with before | here
  · exact before
  · rw [quiet] at here
    cases here

theorem advance_invoked (config : ExecutorConfig) {worker other : Nat}
    {answer : Answer} {now : Int}
    (invoked : ((advance config system worker answer now).workers
      other).invoked = some claim) :
    (system.workers other).invoked = some claim ∨
      invocation system (.advance worker answer now) =
        some (claim.step, claim.attempt) := by
  unfold advance at invoked
  cases phase : system.workers worker with
  | idle =>
      rw [phase] at invoked
      exact .inl invoked
  | authorizing _ _ effects =>
      rw [phase] at invoked
      cases effects with
      | nil =>
          cases answer with
          | proceed => exact .inl (invoked_of_quiet rfl invoked)
          | _ => exact .inl invoked
      | cons =>
          cases answer with
          | proceed =>
              dsimp only at invoked
              split at invoked <;> exact .inl (invoked_of_quiet rfl invoked)
          | _ => exact .inl invoked
  | claiming =>
      rw [phase] at invoked
      cases answer with
      | lease =>
          dsimp only at invoked
          split at invoked <;> exact .inl (invoked_of_quiet rfl invoked)
      | _ => exact .inl invoked
  | examining | claimed =>
      rw [phase] at invoked
      cases answer with
      | proceed =>
          dsimp only at invoked
          split at invoked <;> exact .inl (invoked_of_quiet rfl invoked)
      | _ => exact .inl invoked
  | loaded =>
      rw [phase] at invoked
      cases answer with
      | proceed =>
          dsimp only at invoked
          split at invoked
          · exact .inl (invoked_of_quiet rfl invoked)
          · exact .inl (invoked_of_quiet (inputPhase_invoked ..) invoked)
      | _ => exact .inl invoked
  | deciding target held ready =>
      rw [phase] at invoked
      cases answer with
      | decision value =>
          dsimp only at invoked
          split at invoked
          · rename_i allowed
            rcases invoked_of_update invoked with before | here
            · exact .inl before
            · cases here
              exact .inr (by simp [invocation, phase, allowed])
          · exact .inl (invoked_of_quiet rfl invoked)
      | _ => exact .inl invoked
  | dispatching target held ready =>
      rw [phase] at invoked
      cases answer with
      | dispatched outcome =>
          simp only [WorkflowSystem.move, Function.update_apply] at invoked
          split at invoked
          · rename_i same
            rw [same, phase, outcomePhase_invoked invoked]
            exact .inl rfl
          · exact .inl invoked
      | _ => exact .inl invoked
  | writing | cancellingRevision =>
      rw [phase] at invoked
      cases answer with
      | proceed =>
          refine .inl (invoked_of_quiet ?_ invoked)
          split <;> rfl
      | _ => exact .inl invoked
  | finishing | cancellingRun =>
      rw [phase] at invoked
      cases answer with
      | proceed => exact .inl (invoked_of_quiet rfl invoked)
      | _ => exact .inl invoked

theorem workflowStep_invoked (config : ExecutorConfig)
    {action : WorkflowAction} {other : Nat}
    (invoked : ((workflowStep config system action).workers other).invoked =
      some claim) :
    (system.workers other).invoked = some claim ∨
      invocation system action = some (claim.step, claim.attempt) := by
  cases action with
  | advance => exact advance_invoked config invoked
  | runNext | cancelRevision =>
      simp only [workflowStep] at invoked
      split at invoked
      · exact .inl (invoked_of_quiet rfl invoked)
      · exact .inl invoked
  | crash => exact .inl (invoked_of_quiet rfl invoked)
  | _ => exact .inl invoked

end Phases

section Rows

variable {config : ExecutorConfig} {system : WorkflowSystem}
  {action : WorkflowAction}

theorem maxAttempts_of_call {target : Target} {workerId token : String}
    {now leaseTtlSeconds maxAttempts : Int} {locked : List StepKey}
    (calls : action.call config system = some (.claimReadyStep target workerId
      token now leaseTtlSeconds maxAttempts locked)) : maxAttempts = 5 := by
  cases action with
  | advance worker answer now =>
      simp only [WorkflowAction.call] at calls
      unfold Phase.call at calls
      split at calls
      · cases calls
        rfl
      · rename_i write _ _ _
        cases write <;> cases calls
      all_goals cases calls
  | cancelRevision =>
      simp only [WorkflowAction.call] at calls
      split at calls <;> cases calls
  | _ => cases calls

theorem invoked_of_call {key : StepKey} {tenantId reason : String}
    {retryAt : Int} {attempt : Nat}
    (calls : action.call config system = some
      (.releaseWithoutConsumingAttempt key tenantId reason retryAt attempt)) :
    ∃ worker claim, (system.workers worker).invoked = some claim ∧
      claim.step = key ∧ claim.attempt = attempt := by
  cases action with
  | advance worker answer now =>
      simp only [WorkflowAction.call] at calls
      unfold Phase.call at calls
      split at calls
      · cases calls
      · rename_i target claim write consumed result phase
        cases write with
        | releaseWithoutConsumingAttempt =>
            cases calls
            exact ⟨worker, claim, by rw [phase]; rfl, rfl, rfl⟩
        | _ => cases calls
      all_goals cases calls
  | cancelRevision =>
      simp only [WorkflowAction.call] at calls
      split at calls <;> cases calls
  | _ => cases calls

theorem Step.Accounted.mono {row : Step} {dispatched more : List (StepKey × Nat)}
    (accounted : row.Accounted dispatched) (grows : dispatched ⊆ more) :
    row.Accounted more where
  earlier := fun attempt positive less =>
    grows (accounted.earlier attempt positive less)
  waiting := fun waits positive => grows (accounted.waiting waits positive)
  failed := accounted.failed

theorem planned_accounted (planned : PlannedStep)
    (workflowRevisionId workflowRunId tenantId : String)
    (now contentTtlSeconds : Int) (dispatched : List (StepKey × Nat)) :
    (planned.row workflowRevisionId workflowRunId tenantId now
      contentTtlSeconds).Accounted dispatched where
  earlier := fun attempt positive less => absurd less (Nat.not_lt_zero attempt)
  waiting := fun _ positive => absurd positive (Nat.not_succ_le_zero 0)
  failed := fun failed => by cases failed

theorem RowMove.accounted {watched : Watched} {call : RepositoryCall}
    {row next : Step}
    (move : RowMove .sqlite config.digests watched.system.store row next call)
    (alike : row.Alike next) (accounted : Accounted watched)
    (calls : action.call config watched.system = some call)
    (found : watched.system.store.steps.find? row.key = some row)
    (counted : requeuesUndispatched config watched action = false) :
    next.Accounted watched.dispatched := by
  have before := accounted.rows row.key row found
  have standing : ∀ stand, next.stand = stand →
      next.executionStatus = stand.status ∧ next.attempt = stand.attempt := by
    rintro _ rfl
    exact ⟨rfl, rfl⟩
  cases move with
  | kept stand =>
      obtain ⟨status, attempt⟩ := standing _ stand
      refine ⟨?_, ?_, ?_⟩
      · rw [alike.key, attempt]
        exact before.earlier
      · rw [alike.key, attempt, status]
        exact before.waiting
      · rw [attempt, status]
        exact before.failed
  | written status writes stand =>
      obtain ⟨status, attempt⟩ : next.executionStatus = status ∧
        next.attempt = row.attempt := standing _ stand
      refine ⟨?_, ?_, ?_⟩
      · rw [alike.key, attempt]
        exact before.earlier
      · rw [alike.key, attempt, status]
        rintro (rfl | rfl) positive
        · by_contra missing
          have requeues : requeuesUndispatched config watched action = true := by
            simp only [requeuesUndispatched, calls, List.any_eq_true,
              Bool.and_eq_true, decide_eq_true_eq]
            exact ⟨row, (Table.find?_eq_some_iff.mp found).1, writes, by
              simpa using missing⟩
          rw [counted] at requeues
          cases requeues
        · exact ((writes_settles writes).1 rfl).elim
      · rw [status]
        rintro rfl
        exact ((writes_settles writes).1 rfl).elim
  | released selected _ stand =>
      obtain ⟨status, attempt⟩ := standing _ stand
      obtain ⟨worker, claim, invoked, step, same⟩ := invoked_of_call calls
      have dispatched := accounted.phases worker claim invoked
      rw [step, same, ← Step.key_of_is selected] at dispatched
      refine ⟨?_, ?_, ?_⟩
      · rw [alike.key, attempt]
        exact before.earlier
      · rw [alike.key, attempt]
        exact fun _ _ => dispatched
      · rw [status]
        intro failed
        cases failed
  | exhausted queued _ stand =>
      obtain ⟨status, attempt⟩ := standing _ stand
      refine ⟨?_, ?_, ?_⟩
      · rw [alike.key, attempt]
        exact before.earlier
      · rw [alike.key, attempt]
        exact fun _ positive =>
          before.waiting (.inl (queued_status queued)) positive
      · intro _
        rw [attempt]
        have five := maxAttempts_of_call calls
        change 5 ≤ row.attempt
        omega
  | claimed queued _ _ stand =>
      obtain ⟨status, attempt⟩ := standing _ stand
      refine ⟨?_, ?_, ?_⟩
      · rw [alike.key, attempt]
        intro other positive less
        rcases Nat.lt_succ_iff_lt_or_eq.mp less with earlier | rfl
        · exact before.earlier other positive earlier
        · exact before.waiting (.inl (queued_status queued)) positive
      · rw [status]
        rintro (waits | waits) <;> cases waits
      · rw [status]
        intro failed
        cases failed

theorem watchedStep_accounted (config : ExecutorConfig) (watched : Watched)
    (action : WorkflowAction) (accounted : Accounted watched)
    (counted : requeuesUndispatched config watched action = false) :
    Accounted (watchedStep config watched action) where
  rows := by
    intro key next found
    have grows : watched.dispatched ⊆
        (watchedStep config watched action).dispatched :=
      List.subset_append_right _ _
    rw [watchedStep, workflowStep_call] at found
    cases calls : action.call config watched.system with
    | none =>
        rw [calls] at found
        exact (accounted.rows key next found).mono grows
    | some call =>
        have moves := repositoryStep_rows .sqlite config.digests
          watched.system.store call key
        rw [calls, callStep] at found
        rw [found] at moves
        cases before : watched.system.store.steps.find? key with
        | none =>
            rw [before] at moves
            cases moves with
            | planned planned => exact planned_accounted planned _ _ _ _ _ _
        | some =>
            rw [before] at moves
            cases moves with
            | present alike move =>
                rw [← (Table.find?_eq_some_iff.mp before).2] at before
                exact (move.accounted alike accounted calls before
                  counted).mono grows
  phases := by
    intro worker claim invoked
    rcases workflowStep_invoked config invoked with before | now
    · exact List.mem_append_right _ (accounted.phases worker claim before)
    · exact List.mem_append_left _ (by simp [now])

end Rows

theorem attempts_le_count {dispatched : List (StepKey × Nat)} {key : StepKey}
    {attempts : Nat}
    (each : ∀ attempt, 1 ≤ attempt → attempt ≤ attempts →
      (key, attempt) ∈ dispatched) :
    attempts ≤ dispatched.countP fun attempt => decide (attempt.1 = key) := by
  have distinct : ((List.range' 1 attempts).map fun attempt =>
      (key, attempt)).Nodup :=
    List.Nodup.map (Prod.mk_right_injective key) (List.nodup_range' ..)
  have inside : (List.range' 1 attempts).map (fun attempt => (key, attempt)) ⊆
      dispatched.filter fun attempt => decide (attempt.1 = key) := by
    intro pair member
    obtain ⟨attempt, range, rfl⟩ := List.mem_map.mp member
    rw [List.mem_range'_1] at range
    exact List.mem_filter.mpr ⟨each attempt range.1 (by omega), by simp⟩
  have size := (List.subperm_of_subset distinct inside).length_le
  rwa [List.length_map, List.length_range', ← List.countP_eq_length_filter]
    at size

/-- In every run in which no step is put back in the queue while its attempt was
never dispatched, a step fails only after five dispatcher calls, and a queued
step has spent no more of its budget than it had calls. -/
theorem retry_budget_dispatched (config : ExecutorConfig)
    (actions : List WorkflowAction)
    (counted : Along (watchedStep config)
      (fun watched action => requeuesUndispatched config watched action = false)
      Watched.initial actions)
    (key : StepKey) (row : Step)
    (found : (workflowRun config actions).store.steps.find? key = some row) :
    (row.executionStatus = .failed → 5 ≤ dispatchCount config actions key) ∧
    (row.executionStatus = .queued →
      row.attempt - row.uncountedAttempts ≤
        dispatchCount config actions key) := by
  have accounted : Accounted (watchedRun config actions) :=
    Along.invariant Accounted (watchedStep_accounted config)
      accounted_initial counted
  rw [← watchedRun_system] at found
  have step := accounted.rows key row found
  have spent : row.executionStatus = .queued ∨ row.executionStatus = .failed →
      row.attempt ≤ dispatchCount config actions key := by
    intro waits
    apply attempts_le_count
    intro attempt positive bounded
    rw [← (Table.find?_eq_some_iff.mp found).2]
    rcases Nat.lt_or_eq_of_le bounded with earlier | rfl
    · exact step.earlier attempt positive earlier
    · exact step.waiting waits positive
  refine ⟨fun failed => ?_, fun queued => ?_⟩
  · exact (step.failed failed).trans (spent (.inr failed))
  · exact (Nat.sub_le _ _).trans (spent (.inl queued))

/-- A dispatcher call that ends in a retryable error, and the worker's next two
statements. -/
def retriedAttempt (token : String) (now : Int) : List WorkflowAction :=
  dispatchingBy 0 token now ++
    [.advance 0 (.dispatched (.retryableStepError "timeout" (some 1))) now,
      .advance 0 .proceed now, .advance 0 .proceed now]

def authorizedRead : List WorkflowAction :=
  [.createRun "run" "tenant" "user" "goal" 0,
    .createRevision sampleTarget "graph" samplePlan 0 1000,
    .authorizeRequestedRead sampleTarget "graph" "user" 0 900]

def retriedRun : List WorkflowAction :=
  authorizedRead ++ retriedAttempt "1" 10 ++ retriedAttempt "2" 20 ++
    retriedAttempt "3" 30 ++ retriedAttempt "4" 40 ++ retriedAttempt "5" 50 ++
    dispatchingBy 0 "6" 60

theorem retry_budget_dispatched_five :
    ∃ row, (workflowRun sampleConfig retriedRun).store.steps.find? sampleStep =
        some row ∧ row.executionStatus = .failed ∧
      5 ≤ dispatchCount sampleConfig retriedRun sampleStep := by
  have failed : ((workflowRun sampleConfig retriedRun).store.steps.find?
      sampleStep).any (fun row => row.executionStatus == .failed) = true := by
    decide +kernel
  obtain ⟨row, found, isFailed⟩ := (Option.any_eq_true _ _).mp failed
  rw [beq_iff_eq] at isFailed
  exact ⟨row, found, isFailed,
    (retry_budget_dispatched sampleConfig retriedRun (by decide +kernel)
      sampleStep row found).1 isFailed⟩

/-- One tick over the revision while an administrator's stop is in force: the
paused step is resumed, claimed and paused again. -/
def stoppedTick (token : String) (now : Int) : List WorkflowAction :=
  [.recoverExpiredClaims now, .purgeExpiredContent now, .resumePolicyPaused,
    .runNext 0 sampleTarget] ++
    [.proceed, .proceed, .lease token, .proceed, .proceed,
      .decision { allowed := false
                  reason := some "control_plane:emergency_stop" },
      .proceed, .proceed].map fun answer => .advance 0 answer now

def stoppedRun : List WorkflowAction :=
  authorizedRead ++ stoppedTick "1" 10 ++ stoppedTick "2" 20 ++
    stoppedTick "3" 30 ++ stoppedTick "4" 40 ++ stoppedTick "5" 50 ++
    stoppedTick "6" 60

theorem stopped_step_fails_undispatched :
    ¬ ∀ (config : ExecutorConfig) (actions : List WorkflowAction)
        (key : StepKey) (row : Step),
      (∀ action ∈ actions, ∀ worker, action ≠ .crash worker) →
      (workflowRun config actions).store.steps.find? key = some row →
      row.executionStatus = .failed →
      5 ≤ dispatchCount config actions key := by
  intro counted
  have failed : ((workflowRun sampleConfig stoppedRun).store.steps.find?
      sampleStep).any (fun row => row.executionStatus == .failed) = true := by
    decide +kernel
  obtain ⟨row, found, isFailed⟩ := (Option.any_eq_true _ _).mp failed
  rw [beq_iff_eq] at isFailed
  have none : dispatchCount sampleConfig stoppedRun sampleStep = 0 := by
    decide +kernel
  have crashFree : ∀ action ∈ stoppedRun, ∀ worker,
      action ≠ .crash worker := by
    intro action member worker crashes
    rw [crashes] at member
    simp [stoppedRun, stoppedTick, authorizedRead] at member
  have five := counted sampleConfig stoppedRun sampleStep row crashFree found
    isFailed
  rw [none] at five
  cases five

end AcpTask.Workflow
