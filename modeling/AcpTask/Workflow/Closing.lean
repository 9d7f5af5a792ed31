import AcpTask.Workflow.Rows

namespace AcpTask.Workflow

open Library

/-! Everything a call can do to the rows of revisions and runs, in either back
end. -/

def RepositoryCall.completes :
    RepositoryCall → Option (StepKey × String × Nat)
  | .persistCompletion key tenantId attempt _ _ _ =>
      some (key, tenantId, attempt)
  | .applyReconciliation key tenantId attempt result _ =>
      if result.executionStatus = .completed then
        some (key, tenantId, attempt)
      else none
  | _ => none

def RepositoryCall.missed : RepositoryCall → Bool
  | .persistCompletion _ _ _ _ _ missed => missed
  | .applyReconciliation _ _ _ _ missed => missed
  | _ => false

def Finished (backend : Backend) (store : WorkflowStore)
    (workflowRevisionId tenantId : String) : Prop :=
  ∀ step ∈ store.steps, step.workflowRevisionId = workflowRevisionId →
    match backend with
    | .sqlite => step.executionStatus = .completed
    | .postgres => step.tenantId = tenantId →
        step.executionStatus.settled = true

structure Closes (backend : Backend) (store later : WorkflowStore)
    (call : RepositoryCall) (key : StepKey) (tenantId : String)
    (step : Step) : Prop where
  completes : ∃ attempt, call.completes = some (key, tenantId, attempt) ∧
    step.completes key tenantId attempt = true
  found : store.steps.find? key = some step
  seen : backend = .postgres → call.missed = false
  finished : Finished backend later key.1 tenantId

structure Revision.Alike (row next : Revision) : Prop where
  workflowRevisionId : next.workflowRevisionId = row.workflowRevisionId
  workflowRunId : next.workflowRunId = row.workflowRunId
  tenantId : next.tenantId = row.tenantId
  revisionNumber : next.revisionNumber = row.revisionNumber

inductive RevisionMove (backend : Backend) (store later : WorkflowStore)
    (row next : Revision) : RepositoryCall → Prop where
  | kept {call : RepositoryCall} (status : next.status = row.status) :
      RevisionMove backend store later row next call
  | superseded {target : Target} {planGraphHash : String}
      {plan : List PlannedStep} {now contentTtlSeconds : Int}
      (run : row.workflowRunId = target.workflowRunId)
      (live : row.status.live = true) (status : next.status = .superseded) :
      RevisionMove backend store later row next
        (.createRevision target planGraphHash plan now contentTtlSeconds)
  | authorized {call : RepositoryCall} (draft : row.status = .draft)
      (status : next.status = .approved ∨ next.status = .authorized) :
      RevisionMove backend store later row next call
  | cancelled {target : Target} (named : target.unsuperseded row = true)
      (status : next.status = .cancelled) :
      RevisionMove backend store later row next (.cancelRevisionRow target)
  | completed {call : RepositoryCall} {key : StepKey} {tenantId : String}
      {step : Step}
      (closes : Closes backend store later call key tenantId step)
      (named : row.workflowRevisionId = key.1)
      (status : next.status = .completed) :
      RevisionMove backend store later row next call

inductive RevisionsMove (backend : Backend) (store later : WorkflowStore)
    (call : RepositoryCall) : Option Revision → Option Revision → Prop where
  | absent : RevisionsMove backend store later call none none
  | present {row next : Revision} (alike : row.Alike next)
      (move : RevisionMove backend store later row next call) :
      RevisionsMove backend store later call (some row) (some next)
  | created {target : Target} {planGraphHash : String}
      {plan : List PlannedStep} {now contentTtlSeconds : Int}
      (creates : call =
        .createRevision target planGraphHash plan now contentTtlSeconds) :
      RevisionsMove backend store later call none (some {
        workflowRevisionId := target.workflowRevisionId
        workflowRunId := target.workflowRunId
        tenantId := target.tenantId, planGraphHash
        revisionNumber := lastRevisionNumber store target.workflowRunId + 1
        createdAt := now })

inductive RunMove (backend : Backend) (store later : WorkflowStore)
    (row next : WorkflowRun) : RepositoryCall → Prop where
  | kept {call : RepositoryCall} (status : next.status = row.status)
      (current : next.currentRevisionId = row.currentRevisionId) :
      RunMove backend store later row next call
  | revised {target : Target} {planGraphHash : String}
      {plan : List PlannedStep} {now contentTtlSeconds : Int}
      (run : row.workflowRunId = target.workflowRunId)
      (tenant : row.tenantId = target.tenantId)
      (fresh : store.revisions.find? target.workflowRevisionId = none)
      (created : later.revisions.find? target.workflowRevisionId = some {
        workflowRevisionId := target.workflowRevisionId
        workflowRunId := target.workflowRunId
        tenantId := target.tenantId, planGraphHash
        revisionNumber := lastRevisionNumber store target.workflowRunId + 1
        createdAt := now })
      (status : next.status = row.status)
      (current : next.currentRevisionId = some target.workflowRevisionId) :
      RunMove backend store later row next
        (.createRevision target planGraphHash plan now contentTtlSeconds)
  | completed {call : RepositoryCall} {key : StepKey} {tenantId : String}
      {step : Step}
      (closes : Closes backend store later call key tenantId step)
      (named : match backend with
        | .sqlite => row.currentRevisionId = some key.1
        | .postgres => row.workflowRunId = step.workflowRunId)
      (status : next.status = .completed)
      (current : next.currentRevisionId = row.currentRevisionId) :
      RunMove backend store later row next call
  | cancelled {target : Target}
      (named : row.currentRevisionId = some target.workflowRevisionId)
      (status : next.status = .cancelled)
      (current : next.currentRevisionId = row.currentRevisionId) :
      RunMove backend store later row next (.cancelRun target)

inductive RunsMove (backend : Backend) (store later : WorkflowStore)
    (call : RepositoryCall) :
    Option WorkflowRun → Option WorkflowRun → Prop where
  | absent : RunsMove backend store later call none none
  | present {row next : WorkflowRun}
      (alike : next.workflowRunId = row.workflowRunId)
      (move : RunMove backend store later row next call) :
      RunsMove backend store later call (some row) (some next)
  | created {next : WorkflowRun} (status : next.status = .draft)
      (current : next.currentRevisionId = none) :
      RunsMove backend store later call none (some next)

section Statements

variable {backend : Backend} {store later : WorkflowStore}
  {call : RepositoryCall}

theorem RevisionsMove.refl (found : Option Revision) :
    RevisionsMove backend store later call found found := by
  cases found with
  | none => exact .absent
  | some => exact .present ⟨rfl, rfl, rfl, rfl⟩ (.kept rfl)

theorem RunsMove.refl (found : Option WorkflowRun) :
    RunsMove backend store later call found found := by
  cases found with
  | none => exact .absent
  | some => exact .present rfl (.kept rfl rfl)

structure RunTables (backend : Backend) (store later : WorkflowStore)
    (call : RepositoryCall) : Prop where
  revisions : ∀ id, RevisionsMove backend store later call
    (store.revisions.find? id) (later.revisions.find? id)
  runs : ∀ id, RunsMove backend store later call (store.runs.find? id)
    (later.runs.find? id)

theorem RunTables.of_same (revisions : later.revisions = store.revisions)
    (runs : later.runs = store.runs) :
    RunTables backend store later call where
  revisions := fun id => by
    rw [revisions]
    exact .refl _
  runs := fun id => by
    rw [runs]
    exact .refl _

theorem RevisionsMove.update {condition : Revision → Bool}
    {assign : Revision → Revision}
    (keepsKey : ∀ row, (assign row).workflowRevisionId = row.workflowRevisionId)
    (alike : ∀ row : Revision, row.Alike (assign row)) (id : String)
    (moves : ∀ row, store.revisions.find? id = some row →
      condition row = true →
      RevisionMove backend store later row (assign row) call) :
    RevisionsMove backend store later call (store.revisions.find? id)
      ((store.revisions.updateWhere condition assign keepsKey).find? id) := by
  rw [Table.find?_updateWhere]
  cases found : store.revisions.find? id with
  | none => exact .absent
  | some row =>
      rw [Option.map_some]
      split
      · rename_i selected
        exact .present (alike row) (moves row found selected)
      · exact .present ⟨rfl, rfl, rfl, rfl⟩ (.kept rfl)

theorem RunsMove.update {condition : WorkflowRun → Bool}
    {assign : WorkflowRun → WorkflowRun}
    (keepsKey : ∀ row, (assign row).workflowRunId = row.workflowRunId)
    (moves : ∀ row, condition row = true →
      RunMove backend store later row (assign row) call) (id : String) :
    RunsMove backend store later call (store.runs.find? id)
      ((store.runs.updateWhere condition assign keepsKey).find? id) := by
  rw [Table.find?_updateWhere]
  cases store.runs.find? id with
  | none => exact .absent
  | some row =>
      rw [Option.map_some]
      split
      · rename_i selected
        exact .present (keepsKey row) (moves row selected)
      · exact .present rfl (.kept rfl rfl)

theorem createRun_tables
    (workflowRunId tenantId userPrincipalId goalHash : String) (now : Int) :
    RunTables backend store (createRun store workflowRunId tenantId
      userPrincipalId goalHash now).2 call := by
  refine createRun_preserves
    (motive := fun later => RunTables backend store later call)
    (.of_same rfl rfl) fun runs inserted => ?_
  obtain ⟨absent, grown⟩ := insertInto_ok inserted
  refine ⟨fun _ => .refl _, fun id => ?_⟩
  rw [grown]
  split
  · rename_i same
    subst same
    rw [absent]
    exact .created rfl rfl
  · exact .refl _

theorem createRevision_tables {target : Target} {planGraphHash : String}
    {plan : List PlannedStep} {now contentTtlSeconds : Int} :
    RunTables backend store
      (createRevision store target.workflowRevisionId target.workflowRunId
        target.tenantId planGraphHash plan now contentTtlSeconds).2
      (.createRevision target planGraphHash plan now contentTtlSeconds) := by
  refine createRevision_preserves
    (motive := fun later => RunTables backend store later _)
    (.of_same rfl rfl) fun revisions steps insertion _ _ => ?_
  have fresh := insertRevision_fresh insertion
  have grown := (insertInto_ok insertion).2
  refine ⟨fun id => ?_, fun id => ?_⟩
  · dsimp only
    rw [grown]
    split
    · rename_i same
      subst same
      dsimp only
      rw [fresh]
      exact .created rfl
    · dsimp only [supersede, updateSteps]
      refine RevisionsMove.update (fun _ => by rfl)
        (fun _ => by exact ⟨rfl, rfl, rfl, rfl⟩) id ?_
      intro row _ selected
      simp only [Bool.and_eq_true, beq_iff_eq] at selected
      exact .superseded selected.1 selected.2 rfl
  · refine RunsMove.update (fun _ => by rfl) ?_ id
    intro row selected
    simp only [Bool.and_eq_true, beq_iff_eq] at selected
    refine .revised selected.1 selected.2 fresh ?_ rfl rfl
    exact (grown _).trans (if_pos rfl)

variable {tenantId : String} {now : Int}

theorem Authorizes.tables (authorizes : Authorizes store later) :
    RunTables backend store later call := by
  cases authorizes with
  | refused => exact .of_same rfl rfl
  | approved approved authorizes =>
      unfold approve at approved
      split at approved
      · cases approved
      · rename_i revision draft
        simp only [bind_eq_ok, pure_eq_ok] at approved
        obtain ⟨_, _, rfl⟩ := approved
        simp only [draftRevision, Option.filter_eq_some_iff, Bool.and_eq_true,
          beq_iff_eq] at draft
        refine ⟨fun id => ?_, fun id => .refl _⟩
        refine RevisionsMove.update (fun _ => by rfl)
          (fun _ => by exact ⟨rfl, rfl, rfl, rfl⟩) id ?_
        intro row found selected
        rw [beq_iff_eq] at selected
        obtain ⟨_, named⟩ := Table.find?_eq_some_iff.mp found
        rw [← named, selected, draft.1, Option.some.injEq] at found
        subst found
        exact .authorized draft.2.2 authorizes

variable {key : StepKey}

theorem closed_tables {attested : WorkflowStore} {step : Step}
    {runsOf : WorkflowRun → Bool}
    (named : ∀ row, runsOf row = true → match backend with
      | .sqlite => row.currentRevisionId = some key.1
      | .postgres => row.workflowRunId = step.workflowRunId)
    (closes : ∀ later : WorkflowStore, later.steps = attested.steps →
      Closes backend store later call key tenantId step)
    (revisions : attested.revisions = store.revisions)
    (runs : attested.runs = store.runs) :
    RunTables backend store { attested with
      revisions := attested.revisions.updateWhere
        (fun row => row.workflowRevisionId == key.1 && row.tenantId == tenantId)
        (fun row => { row with status := .completed }) (fun _ => by rfl)
      runs := attested.runs.updateWhere runsOf
        (fun row => { row with status := .completed, updatedAt := now })
        (fun _ => by rfl) } call := by
  refine ⟨fun id => ?_, fun id => ?_⟩
  · dsimp only
    rw [revisions]
    refine RevisionsMove.update (fun _ => by rfl)
      (fun _ => by exact ⟨rfl, rfl, rfl, rfl⟩) id ?_
    intro row _ selected
    simp only [Bool.and_eq_true, beq_iff_eq] at selected
    exact .completed (closes _ rfl) selected.1 rfl
  · dsimp only
    rw [runs]
    refine RunsMove.update (fun _ => by rfl) ?_ id
    intro row selected
    have run := named row selected
    cases backend <;> exact .completed (closes _ rfl) run rfl rfl

theorem closeRevision_tables {attested : WorkflowStore} {step : Step}
    (completes : ∃ attempt, call.completes = some (key, tenantId, attempt) ∧
      step.completes key tenantId attempt = true)
    (found : store.steps.find? key = some step)
    (revisions : attested.revisions = store.revisions)
    (runs : attested.runs = store.runs) :
    RunTables .sqlite store (closeRevision attested key.1 tenantId now)
      call := by
  unfold closeRevision
  split
  · exact .of_same revisions runs
  · rename_i none
    have closes : ∀ later : WorkflowStore, later.steps = attested.steps →
        Closes .sqlite store later call key tenantId step := by
      intro later same
      refine ⟨completes, found, (fun impossible => by cases impossible), ?_⟩
      intro row member named
      rw [same] at member
      by_contra unfinished
      refine none (List.any_eq_true.mpr ⟨row, member, ?_⟩)
      simpa [named] using unfinished
    refine closed_tables (fun row selected => ?_) closes revisions runs
    simp only [Bool.and_eq_true, beq_iff_eq] at selected
    exact selected.1

variable {missed : Bool}

theorem Postgres.closeRevision_tables {attested : WorkflowStore} {step : Step}
    (completes : ∃ attempt, call.completes = some (key, tenantId, attempt) ∧
      step.completes key tenantId attempt = true)
    (found : store.steps.find? key = some step) (seen : call.missed = missed)
    (revisions : attested.revisions = store.revisions)
    (runs : attested.runs = store.runs) :
    RunTables .postgres store (Postgres.closeRevision attested key.1 tenantId
      step.workflowRunId now missed) call := by
  unfold Postgres.closeRevision
  split
  · exact .of_same revisions runs
  · rename_i none
    have closes : ∀ later : WorkflowStore, later.steps = attested.steps →
        Closes .postgres store later call key tenantId step := by
      intro later same
      refine ⟨completes, found, fun _ => ?_, ?_⟩
      · rw [seen]
        simp only [Bool.or_eq_true, not_or, Bool.not_eq_true] at none
        exact none.1
      intro row member named tenant
      rw [same] at member
      by_contra unfinished
      refine none (Bool.or_eq_true_iff.mpr (.inr (List.any_eq_true.mpr
        ⟨row, member, ?_⟩)))
      simpa [named, tenant] using unfinished
    refine closed_tables (fun row selected => ?_) closes revisions runs
    simp only [Bool.and_eq_true, beq_iff_eq] at selected
    exact selected.1

variable {digests : Digests} {attempt : Nat}

theorem completion_tables {result : DispatchResult}
    (completes : call.completes = some (key, tenantId, attempt))
    (seen : call.missed = missed) :
    RunTables backend store (repositoryStep backend digests store
      (.persistCompletion key tenantId attempt result now missed)) call := by
  refine completion_preserves
    (motive := fun later => RunTables backend store later call)
    (.of_same rfl rfl) fun step _ _ found bound => ?_
  cases backend with
  | sqlite => exact closeRevision_tables ⟨attempt, completes, bound⟩ found rfl rfl
  | postgres =>
      exact Postgres.closeRevision_tables ⟨attempt, completes, bound⟩ found
        seen rfl rfl

end Statements

theorem repositoryStep_tables (backend : Backend) (digests : Digests)
    (store : WorkflowStore) (call : RepositoryCall) :
    RunTables backend store (repositoryStep backend digests store call)
      call := by
  cases call with
  | createRun => exact createRun_tables ..
  | createRevision => exact createRevision_tables
  | authorizeRequestedRead =>
      exact (authorizeRequestedRead_step backend ..).tables
  | recordApproval => exact (recordApproval_authorizes ..).tables
  | recordCampaignAuthorization =>
      exact (recordCampaignAuthorization_step backend ..).tables
  | claimReadyStep =>
      exact claim_preserves
        (motive := fun later => RunTables backend store later _)
        (.of_same rfl rfl) (.of_same rfl rfl) fun _ _ => .of_same rfl rfl
  | persistCompletion => exact completion_tables rfl rfl
  | recoverExpiredClaims now skipped =>
      have same : (repositoryStep backend digests store
          (.recoverExpiredClaims now skipped)).revisions = store.revisions ∧
          (repositoryStep backend digests store
            (.recoverExpiredClaims now skipped)).runs = store.runs :=
        sweep_preserves (motive := fun later => later.revisions =
          store.revisions ∧ later.runs = store.runs) ⟨rfl, rfl⟩
            fun _ _ _ kept => kept
      exact .of_same same.1 same.2
  | applyReconciliation =>
      refine reconciliation_preserves
        (motive := fun later => RunTables backend store later _)
        (.of_same rfl rfl) (fun observed completion _ => ?_)
        fun _ => .of_same rfl rfl
      refine completion_tables ?_ rfl
      rw [RepositoryCall.completes, if_pos observed]
  | setVerificationStatus =>
      simp only [repositoryStep, setVerificationStatus]
      split <;> exact .of_same rfl rfl
  | cancelRevisionRow =>
      cases backend with
      | sqlite =>
          refine ⟨fun id => ?_, fun _ => .refl _⟩
          dsimp only [repositoryStep, cancelRevisionRow]
          refine RevisionsMove.update (fun _ => by rfl)
            (fun _ => by exact ⟨rfl, rfl, rfl, rfl⟩) id ?_
          exact fun row _ selected => .cancelled selected rfl
      | postgres => exact .of_same rfl rfl
  | cancelRun =>
      cases backend with
      | sqlite =>
          refine ⟨fun _ => .refl _, fun id => ?_⟩
          dsimp only [repositoryStep, cancelRun]
          refine RunsMove.update (fun _ => by rfl) ?_ id
          intro row selected
          simp only [Bool.and_eq_true, beq_iff_eq] at selected
          exact .cancelled selected.1.2 rfl rfl
      | postgres => exact .of_same rfl rfl
  | _ => cases backend <;> exact .of_same rfl rfl

end AcpTask.Workflow
