import AcpTask.Workflow.Closing
import AcpTask.Workflow.Completed

namespace AcpTask.Workflow

open Library

def Truthful (store : WorkflowStore) : Prop :=
  ∀ run ∈ store.runs, run.status = .completed → ∀ step ∈ store.steps,
    run.currentRevisionId = some step.workflowRevisionId →
    step.executionStatus = .completed

def RevisionStatus.retired : RevisionStatus → Bool
  | .superseded | .cancelled => true
  | _ => false

/-- A call leaves a cancelled or superseded revision retired, and completes a
run only for the run's current revision, which is neither. -/
structure StaysRetired (store later : WorkflowStore) (call : RepositoryCall) :
    Prop where
  revisions : ∀ id row next, store.revisions.find? id = some row →
    row.status.retired = true → later.revisions.find? id = some next →
    next.status.retired = true
  runs : ∀ id row next, store.runs.find? id = some row →
    row.status ≠ .completed → later.runs.find? id = some next →
    next.status = .completed →
    ∃ key tenantId attempt, call.completes = some (key, tenantId, attempt) ∧
      row.currentRevisionId = some key.1 ∧
      ∀ revision, store.revisions.find? key.1 = some revision →
        revision.status.retired = false

def revisesCompleted (store : WorkflowStore) : RepositoryCall → Bool
  | .createRevision target _ plan _ _ => !plan.isEmpty &&
      (store.runs.find? target.workflowRunId).any fun run =>
        run.tenantId == target.tenantId && run.status == .completed
  | _ => false

def RepositoryCall.overwrites : RepositoryCall → Option (StepKey × String)
  | .markExecutionUnknown key tenantId _ => some (key, tenantId)
  | .pauseByPolicy key tenantId _ => some (key, tenantId)
  | .releaseForRetry key tenantId _ _ => some (key, tenantId)
  | _ => none

/-- Such a statement reaches a completed step of a completed run's current
revision. -/
def reopensReported (store : WorkflowStore) (call : RepositoryCall) : Bool :=
  match call.overwrites with
  | none => false
  | some (key, tenantId) =>
      ((store.steps.find? key).any fun row =>
        row.is key tenantId && row.executionStatus == .completed) &&
      store.runs.rows.any fun run => run.status == .completed &&
        run.currentRevisionId == some key.1

def othersDone (backend : Backend) (store : WorkflowStore) (key : StepKey)
    (tenantId : String) : Bool :=
  store.steps.rows.all fun step =>
    step.workflowRevisionId != key.1 || decide (step.key = key) ||
    match backend with
    | .sqlite => step.executionStatus == .completed
    | .postgres => step.tenantId != tenantId || step.executionStatus.settled

/-- The last open step of a revision is completed although the revision is
cancelled or superseded or, which only Postgres lets through, another revision
is current or another step failed or was cancelled. -/
def closesUntruly (backend : Backend) (store : WorkflowStore)
    (call : RepositoryCall) : Bool :=
  match call.completes with
  | none => false
  | some (key, tenantId, attempt) =>
      (store.steps.find? key).any fun row =>
        row.completes key tenantId attempt &&
        othersDone backend store key tenantId &&
        (((store.revisions.find? key.1).any fun revision =>
            revision.status.retired) ||
          (decide (backend = .postgres) && !call.missed &&
            (((store.runs.find? row.workflowRunId).any fun run =>
                run.currentRevisionId != some key.1) ||
              store.steps.rows.any fun step =>
                step.workflowRevisionId == key.1 && decide (step.key ≠ key) &&
                  step.executionStatus != .completed)))

def misreports (backend : Backend) (store : WorkflowStore)
    (call : RepositoryCall) : Bool :=
  revisesCompleted store call || reopensReported store call ||
    closesUntruly backend store call

structure Bound (store : WorkflowStore) : Prop where
  runs : ∀ id run, store.runs.find? id = some run →
    ∀ current, run.currentRevisionId = some current →
      store.revisions.find? current ≠ none
  steps : ∀ key step, store.steps.find? key = some step →
    store.revisions.find? key.1 ≠ none

section Step

variable {backend : Backend} {digests : Digests} {store later : WorkflowStore}
  {call : RepositoryCall}

theorem revision_kept {id : String} (digests : Digests)
    (call : RepositoryCall) (found : store.revisions.find? id ≠ none) :
    (repositoryStep backend digests store call).revisions.find? id ≠ none := by
  have moves := (repositoryStep_tables backend digests store call).revisions id
  intro absent
  rw [absent] at moves
  cases before : store.revisions.find? id with
  | none => exact found before
  | some =>
      rw [before] at moves
      cases moves

variable {key : StepKey}

theorem createRevision_inserts {target : Target} {planGraphHash : String}
    {plan : List PlannedStep} {now contentTtlSeconds : Int}
    (absent : store.steps.find? key = none)
    (added : (createRevision store target.workflowRevisionId
      target.workflowRunId target.tenantId planGraphHash plan now
      contentTtlSeconds).2.steps.find? key ≠ none) :
    (createRevision store target.workflowRevisionId target.workflowRunId
      target.tenantId planGraphHash plan now
      contentTtlSeconds).2.revisions.find? target.workflowRevisionId ≠
        none := by
  revert added
  refine createRevision_preserves
    (motive := fun later : WorkflowStore => later.steps.find? key ≠ none →
      later.revisions.find? target.workflowRevisionId ≠ none)
    (fun added => absurd absent added) fun revisions steps insertion _ _ _ => ?_
  dsimp only
  rw [(insertInto_ok insertion).2, if_pos rfl]
  exact Option.some_ne_none _

theorem bound_empty : Bound WorkflowStore.empty where
  runs := fun _ _ found => by cases found
  steps := fun _ _ found => by cases found

theorem repositoryStep_bound (backend : Backend) (digests : Digests)
    (store : WorkflowStore) (call : RepositoryCall) (bound : Bound store) :
    Bound (repositoryStep backend digests store call) where
  runs := by
    intro id next found current named
    have moves := (repositoryStep_tables backend digests store call).runs id
    rw [found] at moves
    cases before : store.runs.find? id with
    | none =>
        rw [before] at moves
        cases moves with
        | created _ none =>
            rw [none] at named
            cases named
    | some row =>
        rw [before] at moves
        cases moves with
        | present _ move =>
            have old : next.currentRevisionId = row.currentRevisionId →
                (repositoryStep backend digests store call).revisions.find?
                  current ≠ none := by
              intro same
              rw [same] at named
              exact revision_kept digests call
                (bound.runs id row before current named)
            cases move with
            | kept _ same => exact old same
            | revised _ _ _ created _ revises =>
                rw [revises] at named
                cases named
                rw [created]
                exact Option.some_ne_none _
            | completed _ _ _ same | cancelled _ _ same => exact old same
  steps := by
    intro key next found
    have moves := repositoryStep_rows backend digests store call key
    rw [found] at moves
    cases before : store.steps.find? key with
    | none =>
        rw [before] at moves
        cases moves with
        | planned _ _ creates =>
            obtain ⟨_, rfl⟩ := Table.find?_eq_some_iff.mp found
            subst creates
            exact createRevision_inserts before
              (by rw [repositoryStep] at found; simp [found])
    | some row => exact revision_kept digests call (bound.steps key row before)

variable {row : Step}

theorem writes_completed {status : ExecutionStatus}
    (wrote : writes backend store call row = some status)
    (completed : row.executionStatus = .completed) :
    ∃ key tenantId, call.overwrites = some (key, tenantId) ∧
      row.is key tenantId = true := by
  cases call with
  | createRevision _ _ _ _ _ | recoverExpiredClaims _ _
  | persistCompletion _ _ _ _ _ _ | resumePolicyPaused | cancelSteps _
  | retryCorrectedWrite =>
      simp [writes, completed, Step.completes, ExecutionStatus.cancellable,
        ExecutionStatus.completable] at wrote
  | applyReconciliation =>
      simp only [writes] at wrote
      split at wrote <;>
        simp [completed, Step.completes, ExecutionStatus.completable] at wrote
  | markExecutionUnknown key tenantId reason
  | pauseByPolicy key tenantId reason
  | releaseForRetry key tenantId reason retryAt =>
      simp only [writes] at wrote
      split at wrote
      · rename_i selected
        exact ⟨key, tenantId, rfl, selected⟩
      · cases wrote
  | _ => cases wrote

theorem Step.status_of_stand {next : Step} {stand : Stand}
    (same : next.stand = stand) : next.executionStatus = stand.status := by
  rw [← same]
  rfl

theorem RowMove.keepsCompleted {next : Step}
    (move : RowMove backend digests store row next call)
    (completed : row.executionStatus = .completed)
    (untouched : ∀ key tenantId, call.overwrites = some (key, tenantId) →
      row.is key tenantId = false) : next.executionStatus = .completed := by
  cases move with
  | kept stand => exact (Step.status_of_stand stand).trans completed
  | written _ writes =>
      obtain ⟨key, tenantId, overwrites, selected⟩ :=
        writes_completed writes completed
      rw [untouched key tenantId overwrites] at selected
      cases selected
  | released _ running =>
      rw [completed] at running
      cases running
  | exhausted queued | claimed queued =>
      have status := queued_status queued
      rw [completed] at status
      cases status

variable {tenantId : String}

theorem writes_of_completes {attempt : Nat} {status : ExecutionStatus}
    (completes : call.completes = some (key, tenantId, attempt))
    (wrote : writes backend store call row = some status) :
    row.key = key ∧ status = .completed := by
  have named : row.completes key tenantId attempt = true ∧
      status = .completed := by
    cases call with
    | persistCompletion _ _ _ _ _ _ =>
        cases completes
        simp only [writes] at wrote
        split at wrote
        · rename_i bound
          cases wrote
          exact ⟨bound, rfl⟩
        · cases wrote
    | applyReconciliation _ _ _ result _ =>
        simp only [RepositoryCall.completes] at completes
        split at completes
        · rename_i observed
          cases completes
          simp only [writes, observed] at wrote
          split at wrote
          · rename_i bound
            cases wrote
            exact ⟨bound, rfl⟩
          · cases wrote
        · cases completes
    | _ => cases completes
  simp only [Step.completes, Bool.and_eq_true] at named
  exact ⟨Step.key_of_is named.1.1.1, named.2⟩

theorem RowMove.of_completes {attempt : Nat} {next : Step}
    (move : RowMove backend digests store row next call)
    (completes : call.completes = some (key, tenantId, attempt)) :
    next.executionStatus = row.executionStatus ∨
      (row.key = key ∧ next.executionStatus = .completed) := by
  cases move with
  | kept stand => exact .inl (Step.status_of_stand stand)
  | written _ writes stand =>
      obtain ⟨named, rfl⟩ := writes_of_completes completes writes
      exact .inr ⟨named, Step.status_of_stand stand⟩
  | released | exhausted | claimed => cases completes

theorem Closes.othersDone {step : Step}
    (closes : Closes backend store (repositoryStep backend digests store call)
      call key tenantId step) :
    othersDone backend store key tenantId = true := by
  obtain ⟨_, completes, _⟩ := closes.completes
  refine List.all_eq_true.mpr fun other member => ?_
  by_cases elsewhere : other.workflowRevisionId = key.1
  · by_cases same : other.key = key
    · simp [same]
    · obtain ⟨next, nextFound, alike, move⟩ := repositoryStep_row backend digests call
        (Table.find?_eq_some_iff.mpr ⟨member, rfl⟩)
      have kept : next.executionStatus = other.executionStatus := by
        rcases move.of_completes completes with kept | ⟨named, _⟩
        · exact kept
        · exact absurd named same
      have finished := closes.finished next
        (Table.find?_eq_some_iff.mp nextFound).1
        ((congrArg Prod.fst alike.key).trans elsewhere)
      cases backend with
      | sqlite =>
          dsimp only at finished
          rw [kept] at finished
          simp [finished]
      | postgres =>
          dsimp only at finished
          rw [kept, alike.tenantId] at finished
          by_cases tenant : other.tenantId = tenantId
          · simp [finished tenant]
          · simp [tenant]
  · simp [elsewhere]

theorem reported_step {run : WorkflowRun} (truthful : Truthful store)
    (bound : Bound store) (honest : reopensReported store call = false)
    (member : run ∈ store.runs) (completed : run.status = .completed)
    {next : Step}
    (found : (repositoryStep backend digests store call).steps.find? key =
      some next)
    (current : run.currentRevisionId = some next.workflowRevisionId) :
    next.executionStatus = .completed := by
  have moves := repositoryStep_rows backend digests store call key
  rw [found] at moves
  cases before : store.steps.find? key with
  | none =>
      rw [before] at moves
      cases moves with
      | planned _ _ _ fresh =>
          exact absurd fresh (bound.runs run.workflowRunId run
            (Table.find?_eq_some_iff.mpr ⟨member, rfl⟩) _ current)
  | some old =>
      rw [before] at moves
      cases moves with
      | present alike move =>
          obtain ⟨oldMember, rfl⟩ := Table.find?_eq_some_iff.mp before
          have revision : next.workflowRevisionId = old.workflowRevisionId :=
            congrArg Prod.fst alike.key
          rw [revision] at current
          have wasCompleted := truthful run member completed old oldMember
            current
          refine move.keepsCompleted wasCompleted ?_
          intro named tenantId overwrites
          by_contra selected
          rw [Bool.not_eq_false] at selected
          have same := Step.key_of_is selected
          subst same
          have reopens : reopensReported store call = true := by
            simp only [reopensReported, overwrites, Bool.and_eq_true,
              List.any_eq_true, beq_iff_eq]
            refine ⟨?_, run, member, completed, current⟩
            rw [before]
            simp [selected, wasCompleted]
          rw [honest] at reopens
          cases reopens

section Closes

variable {step : Step}
  (closes : Closes backend store (repositoryStep backend digests store call)
    call key tenantId step)
  (honest : closesUntruly backend store call = false)

include closes honest

theorem Closes.truly :
    (∀ revision, store.revisions.find? key.1 = some revision →
      revision.status.retired = false) ∧
    (backend = .postgres →
      (∀ run, store.runs.find? step.workflowRunId = some run →
        run.currentRevisionId = some key.1) ∧
      ∀ other ∈ store.steps, other.workflowRevisionId = key.1 →
        other.key ≠ key → other.executionStatus = .completed) := by
  have done := closes.othersDone
  obtain ⟨_, completes, bound⟩ := closes.completes
  simp only [closesUntruly, completes, closes.found, Option.any_some, bound,
    done, Bool.true_and, Bool.or_eq_false_iff] at honest
  refine ⟨?_, fun isPostgres => ?_⟩
  · intro revision found
    simpa [found] using honest.1
  · simp only [isPostgres, decide_true, closes.seen isPostgres, Bool.not_false,
      Bool.true_and, Bool.or_eq_false_iff] at honest
    refine ⟨?_, ?_⟩
    · intro run found
      simpa [found] using honest.2.1
    · intro other member named different
      have rest := List.any_eq_false.mp honest.2.2 other member
      simpa [named, different] using rest

theorem Closes.completed :
    ∀ next ∈ (repositoryStep backend digests store call).steps,
      next.workflowRevisionId = key.1 → next.executionStatus = .completed := by
  intro next member named
  have finished := closes.finished next member named
  cases backend with
  | sqlite => exact finished
  | postgres =>
      obtain ⟨_, completes, bound⟩ := closes.completes
      have moves := repositoryStep_rows .postgres digests store call next.key
      rw [Table.find?_eq_some_iff.mpr ⟨member, rfl⟩] at moves
      cases before : store.steps.find? next.key with
      | none =>
          rw [before] at moves
          cases moves with
          | planned _ _ creates =>
              rw [creates] at completes
              cases completes
      | some old =>
          rw [before] at moves
          cases moves with
          | present alike move =>
              obtain ⟨oldMember, oldKey⟩ := Table.find?_eq_some_iff.mp before
              rcases move.of_completes completes with kept | ⟨_, done⟩
              · by_cases same : next.key = key
                · rw [same, closes.found] at before
                  cases before
                  simp only [Step.completes, Step.is, Bool.and_eq_true,
                    beq_iff_eq] at bound
                  have settled := finished (alike.tenantId.trans bound.1.1.2)
                  rw [kept] at settled
                  cases status : step.executionStatus <;>
                    simp [status, ExecutionStatus.completable,
                      ExecutionStatus.settled] at bound settled
                · rw [kept]
                  refine ((closes.truly honest).2 rfl).2 old oldMember ?_
                    (by rw [oldKey]; exact same)
                  exact (congrArg Prod.fst oldKey).trans named
              · exact done

end Closes

theorem repositoryStep_truthful (digests : Digests) (truthful : Truthful store)
    (bound : Bound store) (honest : misreports backend store call = false) :
    Truthful (repositoryStep backend digests store call) := by
  simp only [misreports, Bool.or_eq_false_iff] at honest
  obtain ⟨⟨revises, reopens⟩, closing⟩ := honest
  intro next member completed step stepMember current
  have stepFound := Table.find?_eq_some_iff.mpr
    (⟨stepMember, rfl⟩ : step ∈ (repositoryStep backend digests store
      call).steps ∧ step.key = step.key)
  have rows := repositoryStep_rows backend digests store call step.key
  rw [stepFound] at rows
  have moves := (repositoryStep_tables backend digests store call).runs
    next.workflowRunId
  rw [Table.find?_eq_some_iff.mpr ⟨member, rfl⟩] at moves
  cases before : store.runs.find? next.workflowRunId with
  | none =>
      rw [before] at moves
      cases moves with
      | created status =>
          rw [status] at completed
          cases completed
  | some row =>
      rw [before] at moves
      obtain ⟨rowMember, _⟩ := Table.find?_eq_some_iff.mp before
      cases moves with
      | present alike move =>
          cases move with
          | kept status same =>
              exact reported_step truthful bound reopens rowMember
                (status.symm.trans completed) stepFound
                (same.symm.trans current)
          | revised run tenant fresh _ status revised =>
              rw [revised, Option.some.injEq] at current
              cases old : store.steps.find? step.key with
              | none =>
                  rw [old] at rows
                  cases rows with
                  | planned _ planMember creates =>
                      cases creates
                      have nonempty := List.ne_nil_of_mem planMember
                      simp [revisesCompleted, nonempty, ← run, alike.symm,
                        before, tenant, status.symm.trans completed] at revises
              | some other =>
                  refine absurd ?_ (bound.steps step.key other old)
                  exact (congrArg store.revisions.find? current).symm.trans fresh
          | completed closes named _ same =>
              refine closes.completed closing step stepMember ?_
              cases backend with
              | sqlite =>
                  rw [same, named] at current
                  exact (Option.some.inj current).symm
              | postgres =>
                  have truly := ((closes.truly closing).2 rfl).1 row
                    (by rw [← named, ← alike]; exact before)
                  rw [same, truly] at current
                  exact (Option.some.inj current).symm
          | cancelled _ status =>
              rw [status] at completed
              cases completed

theorem repositoryStep_retired (digests : Digests)
    (honest : misreports backend store call = false) :
    StaysRetired store (repositoryStep backend digests store call) call := by
  simp only [misreports, Bool.or_eq_false_iff] at honest
  have closing := honest.2
  refine ⟨?_, ?_⟩
  · intro id row next found retired later
    have moves :=
      (repositoryStep_tables backend digests store call).revisions id
    rw [found, later] at moves
    cases moves with
    | present _ move =>
        cases move with
        | kept status => rw [status]; exact retired
        | superseded _ _ status | cancelled _ status => rw [status]; rfl
        | authorized draft =>
            rw [draft] at retired
            cases retired
        | completed closes named =>
            obtain ⟨_, rfl⟩ := Table.find?_eq_some_iff.mp found
            rw [named] at found
            rw [(closes.truly closing).1 row found] at retired
            cases retired
  · intro id row next found running later completed
    have moves := (repositoryStep_tables backend digests store call).runs id
    rw [found, later] at moves
    cases moves with
    | present _ move =>
        cases move with
        | kept status | revised _ _ _ _ status =>
            exact absurd (status.symm.trans completed) running
        | completed closes named =>
            obtain ⟨attempt, completes, _⟩ := closes.completes
            refine ⟨_, _, attempt, completes, ?_, (closes.truly closing).1⟩
            cases backend with
            | sqlite => exact named
            | postgres =>
                refine ((closes.truly closing).2 rfl).1 row ?_
                rw [← named, (Table.find?_eq_some_iff.mp found).2]
                exact found
        | cancelled _ status =>
            rw [status] at completed
            cases completed

end Step

/-- In both back ends, along every run whose calls do not misreport, a completed
run has completed its current revision's steps, and no such call lets a
cancelled or superseded revision become completed or complete its run. -/
theorem run_status_truthful (backend : Backend) (digests : Digests)
    (calls : List RepositoryCall)
    (honest : Along (repositoryStep backend digests)
      (fun store call => misreports backend store call = false)
      WorkflowStore.empty calls) :
    Truthful (repositoryRun backend digests calls) ∧
    ∀ call, misreports backend (repositoryRun backend digests calls) call =
        false →
      StaysRetired (repositoryRun backend digests calls)
        (repositoryRun backend digests (calls ++ [call])) call := by
  have both := Along.invariant
    (fun store => Truthful store ∧ Bound store)
    (fun store call holds honest =>
      ⟨repositoryStep_truthful digests holds.1 holds.2 honest,
        repositoryStep_bound backend digests store call holds.2⟩)
    ⟨(fun _ member => by cases member), bound_empty⟩ honest
  refine ⟨both.1, fun call honestly => ?_⟩
  rw [repositoryRun, repositoryRun, run_append]
  exact repositoryStep_retired digests honestly

def claimedCalls : List RepositoryCall :=
  [.createRun "run" "tenant" "user" "goal" 0,
    .createRevision sampleTarget "graph" samplePlan 0 1000,
    .authorizeRequestedRead sampleTarget "graph" "user" 0 900,
    .claimReadyStep sampleTarget "workflow-worker" "token" 1 60 3 []]

def completesSample : RepositoryCall :=
  .persistCompletion sampleStep "tenant" 1 readResult 2 false

def revisedTarget : Target := ⟨"run", "revised", "tenant"⟩

def revisesSample : RepositoryCall :=
  .createRevision revisedTarget "graph" samplePlan 2 1000

theorem run_status_truthful_sample :
    Truthful (repositoryRun .postgres sampleConfig.digests
      (claimedCalls ++ [completesSample])) ∧
    ∀ call, misreports .postgres (repositoryRun .postgres sampleConfig.digests
        (claimedCalls ++ [completesSample])) call = false →
      StaysRetired (repositoryRun .postgres sampleConfig.digests
          (claimedCalls ++ [completesSample]))
        (repositoryRun .postgres sampleConfig.digests
          (claimedCalls ++ [completesSample] ++ [call])) call :=
  run_status_truthful .postgres sampleConfig.digests
    (claimedCalls ++ [completesSample]) (by decide +kernel)

/-- A completed run that is revised stays completed, and the completion of a
superseded revision's running step completes the revision. -/
def Misleads (backend : Backend) : Prop :=
  ¬ (∀ (digests : Digests) (calls : List RepositoryCall),
      Truthful (repositoryRun backend digests calls)) ∧
  ¬ ∀ (digests : Digests) (calls : List RepositoryCall)
      (call : RepositoryCall),
    StaysRetired (repositoryRun backend digests calls)
      (repositoryRun backend digests (calls ++ [call])) call

theorem revised_run_misleads (backend : Backend) : Misleads backend := by
  refine ⟨fun truthful => ?_, fun stays => ?_⟩
  · have truth := truthful sampleConfig.digests
      (claimedCalls ++ [completesSample, revisesSample])
    have untrue : ∃ run ∈ (repositoryRun backend sampleConfig.digests
        (claimedCalls ++ [completesSample, revisesSample])).runs.rows,
        run.status = .completed ∧ ∃ step ∈ (repositoryRun backend
          sampleConfig.digests (claimedCalls ++
            [completesSample, revisesSample])).steps.rows,
          run.currentRevisionId = some step.workflowRevisionId ∧
          step.executionStatus = .queued := by
      cases backend <;> decide +kernel
    obtain ⟨run, member, completed, step, planned, current, queued⟩ := untrue
    have done := truth run member completed step planned current
    rw [queued] at done
    cases done
  · have stay := stays sampleConfig.digests (claimedCalls ++ [revisesSample])
      completesSample
    have before : ((repositoryRun backend sampleConfig.digests
        (claimedCalls ++ [revisesSample])).revisions.find? "revision").any
        (fun row => row.status.retired) = true := by
      cases backend <;> decide +kernel
    have after : ((repositoryRun backend sampleConfig.digests
        (claimedCalls ++ [revisesSample] ++ [completesSample])).revisions.find?
        "revision").any (fun row => row.status == .completed) = true := by
      cases backend <;> decide +kernel
    obtain ⟨row, found, retired⟩ := (Option.any_eq_true _ _).mp before
    obtain ⟨next, nextFound, completed⟩ := (Option.any_eq_true _ _).mp after
    have kept := stay.revisions "revision" row next found retired nextFound
    rw [beq_iff_eq.mp completed] at kept
    cases kept

theorem revised_run_misreports :
    Misleads .sqlite ∧ Misleads .postgres :=
  ⟨revised_run_misleads .sqlite, revised_run_misleads .postgres⟩

end AcpTask.Workflow
