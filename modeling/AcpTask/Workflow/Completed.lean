import AcpTask.Workflow.Moves

namespace AcpTask.Workflow

open Library

/-! The recording statements that ask neither for the attempt nor for the status
the step is in by then. -/

def StepWrite.unguarded : StepWrite → Bool
  | .pauseByPolicy _ | .markExecutionUnknown _ | .releaseForRetry _ _ => true
  | _ => false

def overwritesCompleted (system : WorkflowSystem) : WorkflowAction → Bool
  | .advance worker .proceed _ =>
      match system.workers worker with
      | .writing target claim write _ _ =>
          write.unguarded &&
            (system.store.steps.find? claim.step).any fun row =>
              row.tenantId == target.tenantId &&
                row.executionStatus == .completed
      | _ => false
  | _ => false

def claimCount (system : WorkflowSystem) (key : StepKey) : Nat :=
  system.claims.countP fun claim => decide (claim.step = key)

theorem StatusMove.of_completed {effect : StepEffect} {cause : Option Cause}
    {after : ExecutionStatus}
    (move : StatusMove effect cause .completed after)
    (guarded : ∀ status, cause ≠ some (.overwrite status)) :
    after = .completed := by
  cases move with
  | same => rfl
  | cancelled cancellable => cases cancellable
  | completed => rfl
  | overwritten caused => exact absurd caused (guarded after)

theorem StepsMove.keepsCompleted {named : Option Named}
    {store later : WorkflowStore} (moves : StepsMove named store later)
    {key : StepKey} {row : Step} (found : store.steps.find? key = some row)
    (completed : row.executionStatus = .completed)
    (guarded : ∀ status, causeAt named row ≠ some (.overwrite status)) :
    ∃ next, later.steps.find? key = some next ∧
      next.executionStatus = .completed := by
  obtain ⟨next, nextFound, _, move⟩ := moves key row found
  rw [completed] at move
  exact ⟨next, nextFound, move.of_completed guarded⟩

theorem Reconciliation.verdict_ne_overwrite (result : Reconciliation)
    (status : ExecutionStatus) : result.verdict ≠ .overwrite status := by
  unfold Reconciliation.verdict
  split <;> exact Cause.noConfusion

theorem StepWrite.unguarded_of_cause {write : StepWrite}
    {status : ExecutionStatus} (caused : write.cause = .overwrite status) :
    write.unguarded = true := by
  cases write with
  | releaseWithoutConsumingAttempt | persistCompletion => cases caused
  | _ => rfl

theorem overwritesCompleted_of_causeAt {system : WorkflowSystem}
    {worker : Nat} {now : Int} {target : Target} {claim : Claim}
    {write : StepWrite} {consumed : Bool} {result : RunResult}
    (writing : system.workers worker =
      .writing target claim write consumed result)
    {key : StepKey} {row : Step} {status : ExecutionStatus}
    (found : system.store.steps.find? key = some row)
    (completed : row.executionStatus = .completed)
    (caused : causeAt (some ⟨write.cause, claim.step, target.tenantId⟩) row =
      some (.overwrite status)) :
    overwritesCompleted system (.advance worker .proceed now) = true := by
  obtain ⟨selected, cause⟩ := is_of_causeAt caused
  simp only [Step.is, Bool.and_eq_true, decide_eq_true_eq, beq_iff_eq]
    at selected
  have named : claim.step = key :=
    selected.1.symm.trans (Table.find?_eq_some_iff.mp found).2
  simp [overwritesCompleted, writing, StepWrite.unguarded_of_cause cause,
    named, found, selected.2, completed]

theorem workflowStep_keepsCompleted (config : ExecutorConfig)
    (system : WorkflowSystem) (action : WorkflowAction)
    (guarded : overwritesCompleted system action = false) {key : StepKey}
    {row : Step} (found : system.store.steps.find? key = some row)
    (completed : row.executionStatus = .completed) :
    (∃ next, (workflowStep config system action).store.steps.find? key =
      some next ∧ next.executionStatus = .completed) ∧
    claimCount (workflowStep config system action) key =
      claimCount system key := by
  cases workflowStep_move config system action with
  | quiet _ _ steps _ _ claims =>
      refine ⟨steps.keepsCompleted found completed ?_, by
        rw [claimCount, claims, claimCount]⟩
      intro status caused
      cases caused
  | claim _ _ claim _ steps queued _ _ _ claims =>
      refine ⟨steps.keepsCompleted found completed ?_, ?_⟩
      · intro status caused
        cases (is_of_causeAt caused).2
      · have other : claim.step ≠ key := by
          intro same
          obtain ⟨_, oldFound, oldQueued⟩ := queued
          rw [same, found] at oldFound
          cases oldFound
          rw [completed] at oldQueued
          cases oldQueued
        rw [claimCount, claims, List.countP_cons_of_neg (by simpa using other),
          claimCount]
  | record _ _ _ _ _ _ _ advances writing steps _ _ claims =>
      refine ⟨steps.keepsCompleted found completed ?_, by
        rw [claimCount, claims, claimCount]⟩
      intro status caused
      obtain ⟨_, rfl⟩ := advances
      rw [overwritesCompleted_of_causeAt writing found completed caused]
        at guarded
      cases guarded
  | answer _ _ _ _ _ _ _ _ store _ claims =>
      exact ⟨⟨row, by rw [store]; exact found, completed⟩, by
        rw [claimCount, claims, claimCount]⟩
  | reconcile _ _ _ result _ steps _ claims =>
      refine ⟨steps.keepsCompleted found completed ?_, by
        rw [claimCount, claims, claimCount]⟩
      intro status caused
      exact result.verdict_ne_overwrite status (is_of_causeAt caused).2

/-- From any reachable state on, in every run in which no late worker's
unguarded statement reaches a completed step, a completed step stays completed
and is not claimed again. -/
theorem completed_steps_final (config : ExecutorConfig)
    (actions later : List WorkflowAction) (key : StepKey) (row : Step)
    (found : (workflowRun config actions).store.steps.find? key = some row)
    (completed : row.executionStatus = .completed)
    (guarded : Along (workflowStep config)
      (fun system action => overwritesCompleted system action = false)
      (workflowRun config actions) later) :
    (∃ next,
      (workflowRun config (actions ++ later)).store.steps.find? key =
        some next ∧ next.executionStatus = .completed) ∧
    claimCount (workflowRun config (actions ++ later)) key =
      claimCount (workflowRun config actions) key := by
  have final := Along.invariant
    (fun system =>
      (∃ next, system.store.steps.find? key = some next ∧
        next.executionStatus = .completed) ∧
      claimCount system key = claimCount (workflowRun config actions) key)
    (fun system action before guard => by
      obtain ⟨⟨_, here, isCompleted⟩, count⟩ := before
      have step := workflowStep_keepsCompleted config system action guard here
        isCompleted
      exact ⟨step.1, step.2.trans count⟩)
    ⟨⟨row, found, completed⟩, rfl⟩ guarded
  rw [workflowRun, run_append]
  exact final

def sampleConfig : ExecutorConfig where
  digests := ⟨fun token => token,
    fun _ attempt _ => String.ofList (List.replicate attempt 'r')⟩
  workerId := fun _ => "workflow-worker"
  leaseTtl := fun _ => 60
  pausedRetrySeconds := fun _ => 60

def sampleTarget : Target := ⟨"run", "revision", "tenant"⟩

def sampleStep : StepKey := ("revision", "read")

def samplePlan : List PlannedStep :=
  [{ stepId := "read", capabilityId := "slack.conversation.read"
     capabilityVersion := "1", descriptorSnapshotHash := "descriptor"
     inputHash := "input", effect := .read }]

def dispatchingBy (worker : Nat) (token : String) (now : Int) :
    List WorkflowAction :=
  .runNext worker sampleTarget ::
    [.proceed, .proceed, .lease token, .proceed, .proceed,
      .decision { allowed := true }].map fun answer =>
        .advance worker answer now

def readResult : DispatchResult where
  receipt := .dict []
  attestation := .none
  output := .dict []

/-- The first worker's lease runs out during its call; a second worker claims
the step again and completes it. -/
def completedRun : List WorkflowAction :=
  [.createRun "run" "tenant" "user" "goal" 0,
    .createRevision sampleTarget "graph" samplePlan 0 1000,
    .authorizeRequestedRead sampleTarget "graph" "user" 0 900] ++
  dispatchingBy 0 "first" 1 ++ [.recoverExpiredClaims 100] ++
  dispatchingBy 1 "second" 100 ++
  [.advance 1 (.dispatched (.returned readResult)) 101,
    .advance 1 .proceed 101, .advance 1 .proceed 101]

theorem completed_steps_final_guarded :
    ∃ next, (workflowRun sampleConfig (completedRun ++
        [.advance 0 (.dispatched (.pausedStepError "offline" none)) 102,
          .advance 0 .proceed 102])).store.steps.find? sampleStep =
      some next ∧ next.executionStatus = .completed :=
  (completed_steps_final sampleConfig completedRun _ sampleStep _ rfl rfl
    (by decide)).1

/-- The first worker's call ends in a retryable error after that: its release
puts the completed step back in the queue, where it is claimed again. -/
def reclaimedRun : List WorkflowAction :=
  [.advance 0 (.dispatched (.retryableStepError "timeout" none)) 102,
    .advance 0 .proceed 102] ++ dispatchingBy 1 "third" 200

theorem completed_step_claimed_again :
    ¬ ∀ (config : ExecutorConfig) (actions later : List WorkflowAction)
        (key : StepKey) (row : Step),
      (workflowRun config actions).store.steps.find? key = some row →
      row.executionStatus = .completed →
      (∃ next,
        (workflowRun config (actions ++ later)).store.steps.find? key =
          some next ∧ next.executionStatus = .completed) ∧
      claimCount (workflowRun config (actions ++ later)) key =
        claimCount (workflowRun config actions) key := by
  intro final
  have claims := (final sampleConfig completedRun reclaimedRun sampleStep _ rfl
    rfl).2
  have before : claimCount (workflowRun sampleConfig completedRun)
      sampleStep = 2 := by decide
  have after : claimCount (workflowRun sampleConfig (completedRun ++
      reclaimedRun)) sampleStep = 3 := by decide
  rw [before, after] at claims
  cases claims

end AcpTask.Workflow
