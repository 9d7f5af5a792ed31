import AcpTask.Workflow.Approvals

namespace AcpTask.Workflow

open Library

/-! Which steps an approval lets through, in every state the repository can
reach. -/

/-- Approvals are of revisions as they are, steps belong to theirs, and a
revision that is authorized as a requested read has no write. -/
structure Consented (store : WorkflowStore) : Prop where
  approved : ∀ {id approval}, store.approvals.find? id = some approval →
    ∃ revision, store.revisions.find? id = some revision ∧
      revision.workflowRunId = approval.workflowRunId ∧
      revision.tenantId = approval.tenantId ∧
      revision.planGraphHash = approval.planGraphHash
  planned : ∀ {key step}, store.steps.find? key = some step →
    ∃ revision, store.revisions.find? key.1 = some revision ∧
      step.workflowRunId = revision.workflowRunId ∧
      step.tenantId = revision.tenantId
  reads : ∀ {id approval}, store.approvals.find? id = some approval →
    approval.authorizationMode = .requestedRead →
    ∀ {key step}, store.steps.find? key = some step → key.1 = id →
      step.effect = .read

theorem consented_empty : Consented WorkflowStore.empty where
  approved := fun found => by cases found
  planned := fun found => by cases found
  reads := fun found => by cases found

section Step

variable {backend : Backend} {digests : Digests} {store : WorkflowStore}
  {call : RepositoryCall}

theorem revision_plan (backend : Backend) (digests : Digests)
    (call : RepositoryCall) {id : String} {row : Revision}
    (found : store.revisions.find? id = some row) :
    ∃ next, (repositoryStep backend digests store call).revisions.find? id =
        some next ∧ row.Alike next ∧
      next.planGraphHash = row.planGraphHash := by
  have plans : ∃ next,
      (repositoryStep backend digests store call).revisions.find? id =
        some next ∧ next.planGraphHash = row.planGraphHash := by
    rcases repositoryStep_consent backend digests store call with
      keeps | ⟨_, approves⟩
    · exact keeps.plans id row found
    · exact approves.plans id row found
  obtain ⟨next, foundNext, same⟩ := plans
  have moves := (repositoryStep_tables backend digests store call).revisions id
  rw [found, foundNext] at moves
  cases moves with
  | present alike => exact ⟨next, foundNext, alike, same⟩

theorem step_origin {key : StepKey} {next : Step}
    (found : (repositoryStep backend digests store call).steps.find? key =
      some next) :
    (∃ row, store.steps.find? key = some row ∧ row.Alike next) ∨
      (store.revisions.find? key.1 = none ∧ ∃ revision,
        (repositoryStep backend digests store call).revisions.find? key.1 =
          some revision ∧ next.workflowRunId = revision.workflowRunId ∧
        next.tenantId = revision.tenantId) := by
  have moves := repositoryStep_rows backend digests store call key
  rw [found] at moves
  cases before : store.steps.find? key with
  | some row =>
      rw [before] at moves
      cases moves with
      | present alike => exact .inl ⟨row, rfl, alike⟩
  | none =>
      rw [before] at moves
      cases moves with
      | @planned target planGraphHash plan now contentTtl planned member creates
          fresh =>
          subst creates
          obtain ⟨_, rfl⟩ := Table.find?_eq_some_iff.mp found
          refine .inr ⟨fresh, ?_⟩
          have inserted : (repositoryStep backend digests store
              (.createRevision target planGraphHash plan now
                contentTtl)).revisions.find? target.workflowRevisionId ≠
                  none := by
            refine createRevision_inserts before ?_
            rw [repositoryStep] at found
            simp [found]
          have creation := (repositoryStep_tables backend digests store
            (.createRevision target planGraphHash plan now contentTtl)).revisions
              target.workflowRevisionId
          rw [fresh] at creation
          cases present : (repositoryStep backend digests store
              (.createRevision target planGraphHash plan now
                contentTtl)).revisions.find? target.workflowRevisionId with
          | none => exact absurd present inserted
          | some =>
              rw [present] at creation
              cases creation with
              | created creates =>
                  cases creates
                  exact ⟨_, present, rfl, rfl⟩

def Revision.plan (row : Revision) :=
  (row.workflowRunId, row.tenantId, row.revisionNumber, row.planGraphHash)

def Step.plan (row : Step) :=
  (row.workflowRunId, row.tenantId, row.dependsOn, row.effect)

theorem plan_step {key : StepKey} {revision : Revision}
    (found : store.revisions.find? key.1 = some revision) :
    ((repositoryStep backend digests store call).revisions.find? key.1).map
        Revision.plan = some revision.plan ∧
      ((repositoryStep backend digests store call).steps.find? key).map
        Step.plan = (store.steps.find? key).map Step.plan := by
  constructor
  · obtain ⟨next, present, alike, hash⟩ :=
      revision_plan backend digests call found
    simp [present, Revision.plan, alike.workflowRunId, alike.tenantId,
      alike.revisionNumber, hash]
  cases before : store.steps.find? key with
  | some row =>
      obtain ⟨next, present, alike, _⟩ :=
        repositoryStep_row backend digests call before
      simp [present, Step.plan, alike.workflowRunId, alike.tenantId,
        alike.dependsOn, alike.effect]
  | none =>
      rw [Option.map_none, Option.map_eq_none_iff,
        Option.eq_none_iff_forall_ne_some]
      intro next after
      rcases step_origin after with ⟨_, stored, _⟩ | ⟨fresh, _⟩
      · cases before.symm.trans stored
      · cases found.symm.trans fresh

theorem Consented.step (consented : Consented store) (backend : Backend)
    (digests : Digests) (call : RepositoryCall) :
    Consented (repositoryStep backend digests store call) := by
  have older : ∀ {id approval}, store.approvals.find? id = some approval →
      ∃ revision, (repositoryStep backend digests store
          call).revisions.find? id = some revision ∧
        revision.workflowRunId = approval.workflowRunId ∧
        revision.tenantId = approval.tenantId ∧
        revision.planGraphHash = approval.planGraphHash := by
    intro id approval found
    obtain ⟨row, present, run, tenant, plan⟩ := consented.approved found
    obtain ⟨next, presentNext, alike, same⟩ :=
      revision_plan backend digests call present
    exact ⟨next, presentNext, alike.workflowRunId.trans run,
      alike.tenantId.trans tenant, same.trans plan⟩
  have olderReads : ∀ {id approval},
      store.approvals.find? id = some approval →
      approval.authorizationMode = .requestedRead →
      ∀ {key step}, (repositoryStep backend digests store call).steps.find?
        key = some step → key.1 = id → step.effect = .read := by
    intro id approval found mode key next present named
    rcases step_origin present with ⟨row, foundRow, alike⟩ | ⟨fresh, _⟩
    · exact alike.effect.trans (consented.reads found mode foundRow named)
    · obtain ⟨_, foundRevision, _⟩ := consented.approved found
      rw [named, foundRevision] at fresh
      cases fresh
  constructor
  · intro id approval found
    rcases repositoryStep_consent backend digests store call with
      keeps | ⟨fresh, approves⟩
    · exact older (keeps.approvals ▸ found)
    · rw [approves.approvals] at found
      split at found
      · rename_i same
        subst same
        cases found
        obtain ⟨row, present, run, tenant, plan⟩ := approves.revision
        obtain ⟨next, presentNext, alike, same⟩ :=
          revision_plan backend digests call present
        exact ⟨next, presentNext, alike.workflowRunId.trans run,
          alike.tenantId.trans tenant, same.trans plan⟩
      · exact older found
  · intro key next found
    rcases step_origin found with ⟨row, foundRow, alike⟩ | ⟨_, created⟩
    · obtain ⟨revision, present, run, tenant⟩ := consented.planned foundRow
      obtain ⟨later, presentLater, alikeRevision, _⟩ :=
        revision_plan backend digests call present
      exact ⟨later, presentLater,
        alike.workflowRunId.trans (run.trans alikeRevision.workflowRunId.symm),
        alike.tenantId.trans (tenant.trans alikeRevision.tenantId.symm)⟩
    · exact created
  · intro id approval found mode key next present named
    rcases repositoryStep_consent backend digests store call with
      keeps | ⟨fresh, approves⟩
    · exact olderReads (keeps.approvals ▸ found) mode present named
    · rw [approves.approvals] at found
      split at found
      · rename_i same
        subst same
        cases found
        obtain ⟨revision, foundRevision, run, tenant, _⟩ := approves.revision
        rcases step_origin present with ⟨row, foundRow, alike⟩ | ⟨absent, _⟩
        · obtain ⟨own, foundOwn, runOf, tenantOf⟩ := consented.planned foundRow
          rw [named, foundRevision, Option.some.injEq] at foundOwn
          subst foundOwn
          obtain ⟨member, key⟩ := Table.find?_eq_some_iff.mp foundRow
          refine alike.effect.trans (approves.reads mode row member
            (runOf.trans run) ?_ (tenantOf.trans tenant))
          rw [← named, ← key]
        · rw [named, foundRevision] at absent
          cases absent
      · exact olderReads found mode present named

end Step

theorem repositoryRun_consented (backend : Backend) (digests : Digests)
    (calls : List RepositoryCall) :
    Consented (repositoryRun backend digests calls) :=
  run_invariant (repositoryStep backend digests) Consented
    (fun _ call consented => consented.step backend digests call)
    consented_empty calls

/-- The approval that stands behind a step: of the run's current revision and
of its plan, not expired at the time that is given, and given as a requested
read only if the revision has no write. -/
structure StandsBehind (store : WorkflowStore) (target : Target)
    (graphHash : String) (effect : StepEffect) (now : Option Int)
    (approval : Approval) (revision : Revision) (run : WorkflowRun) :
    Prop where
  consent : store.approvals.find? target.workflowRevisionId = some approval
  revised : store.revisions.find? target.workflowRevisionId = some revision
  started : store.runs.find? target.workflowRunId = some run
  approvalRun : approval.workflowRunId = target.workflowRunId
  revisionRun : revision.workflowRunId = target.workflowRunId
  tenants : approval.tenantId = target.tenantId ∧
    revision.tenantId = target.tenantId ∧ run.tenantId = target.tenantId
  current : run.currentRevisionId = some target.workflowRevisionId
  plan : approval.planGraphHash = revision.planGraphHash
  named : approval.planGraphHash = graphHash
  unexpired : ∀ time, now = some time →
    ∀ expiry, approval.expiresAt = some expiry → time ≤ expiry
  covers : approval.authorizationMode.covers effect = true
  reads : approval.authorizationMode = .requestedRead →
    ∀ step ∈ store.steps,
      step.workflowRevisionId = target.workflowRevisionId →
      step.effect = .read

variable {store : WorkflowStore} {target : Target} {graphHash : String}
  {effect : StepEffect} {now : Option Int}

theorem unexpired_iff {approval : Approval} :
    (now.all fun now => approval.expiresAt.all fun expiry =>
      decide (now ≤ expiry)) = true ↔
      ∀ time, now = some time →
        ∀ expiry, approval.expiresAt = some expiry → time ≤ expiry := by
  cases now <;> cases approval.expiresAt <;> simp

theorem Consented.requestedRead (consented : Consented store)
    {approval : Approval} {id : String}
    (found : store.approvals.find? id = some approval)
    (mode : approval.authorizationMode = .requestedRead) :
    ∀ step ∈ store.steps, step.workflowRevisionId = id → step.effect = .read :=
  fun _ member named => consented.reads found mode
    (Table.find?_eq_some_iff.mpr ⟨member, rfl⟩) named

theorem standsBehind (consented : Consented store)
    (authorized : stepAuthorized store target graphHash effect now = true) :
    ∃ approval revision run, StandsBehind store target graphHash effect now
      approval revision run := by
  simp only [stepAuthorized] at authorized
  split at authorized
  · rename_i approval revision run consent revised started
    simp only [Option.filter_eq_some_iff, Bool.and_eq_true, beq_iff_eq]
      at consent revised started authorized
    obtain ⟨found, ⟨approvalRun, approvalTenant⟩, named⟩ := consent
    obtain ⟨present, revisionRun, revisionTenant⟩ := revised
    obtain ⟨⟨⟨current, _⟩, fresh⟩, covers⟩ := authorized
    obtain ⟨own, foundOwn, _, _, plan⟩ := consented.approved found
    rw [present, Option.some.injEq] at foundOwn
    subst foundOwn
    exact ⟨approval, revision, run, found, present, started.1, approvalRun,
      revisionRun, ⟨approvalTenant, revisionTenant, started.2⟩, current,
      plan.symm, named, unexpired_iff.mp fresh, covers,
      consented.requestedRead found⟩
  · cases authorized

theorem Postgres.standsBehind (consented : Consented store)
    (authorized :
      Postgres.stepAuthorized store target graphHash effect now = true) :
    ∃ approval revision run, StandsBehind store target graphHash effect now
      approval revision run := by
  unfold Postgres.stepAuthorized Postgres.revisionAuthorizationMode
    at authorized
  dsimp only at authorized
  split at authorized
  · rename_i revision run revised started
    rw [revised, Option.bind_some] at started
    simp only [Option.filter_eq_some_iff, Bool.and_eq_true, beq_iff_eq,
      Option.any_eq_true, Option.map_eq_some_iff] at revised started authorized
    obtain ⟨⟨current, _⟩, _, ⟨approval, ⟨found,
      ⟨⟨approvalRun, approvalTenant⟩, named⟩, fresh⟩, rfl⟩, covers⟩ :=
        authorized
    obtain ⟨own, foundOwn, runOf, _, plan⟩ := consented.approved found
    rw [revised.1, Option.some.injEq] at foundOwn
    subst foundOwn
    have revisionRun := runOf.trans approvalRun
    rw [revisionRun] at started
    exact ⟨approval, revision, run, found, revised.1, started.1, approvalRun,
      revisionRun, ⟨approvalTenant, revised.2, started.2.trans revised.2⟩,
      current, plan.symm, named, unexpired_iff.mp fresh, covers,
      consented.requestedRead found⟩
  · cases authorized

/-- In every state of either repository, a step is authorized only by an
approval that stands behind it, and a requested read is only ever recorded for
a revision without a write. -/
theorem authorized_steps_are_approved (backend : Backend) (digests : Digests)
    (calls : List RepositoryCall) :
    (∀ target graphHash effect now, backend.stepAuthorized
        (repositoryRun backend digests calls) target graphHash effect now =
          true →
      ∃ approval revision run, StandsBehind
        (repositoryRun backend digests calls) target graphHash effect now
          approval revision run) ∧
    ∀ approval ∈ (repositoryRun backend digests calls).approvals,
      approval.authorizationMode = .requestedRead →
      ∀ step ∈ (repositoryRun backend digests calls).steps,
        step.workflowRevisionId = approval.workflowRevisionId →
        step.effect = .read := by
  have consented := repositoryRun_consented backend digests calls
  refine ⟨fun target graphHash effect now authorized => ?_,
    fun approval member mode => ?_⟩
  · cases backend with
    | sqlite => exact standsBehind consented authorized
    | postgres => exact Postgres.standsBehind consented authorized
  · exact consented.requestedRead
      (Table.find?_eq_some_iff.mpr ⟨member, rfl⟩) mode

def approvedCalls : List RepositoryCall :=
  [.createRun "run" "tenant" "user" "goal" 0,
    .createRevision sampleTarget "graph" samplePlan 0 1000,
    .recordApproval sampleTarget "graph" "user" 0 900]

theorem authorized_steps_are_approved_sample :
    ∃ approval revision run, StandsBehind
      (repositoryRun .sqlite sampleConfig.digests approvedCalls) sampleTarget
        "graph" .write (some 900) approval revision run :=
  (authorized_steps_are_approved .sqlite sampleConfig.digests
    approvedCalls).1 sampleTarget "graph" .write (some 900) (by decide +kernel)

/-- A call that gives no time is answered by an approval that has expired. -/
theorem expired_approval_authorizes :
    ¬ ∀ (calls : List RepositoryCall) (target : Target) (graphHash : String)
      (given : Option Int) (time : Int),
      (∀ now, given = some now → now = time) →
      stepAuthorized (repositoryRun .sqlite sampleConfig.digests calls) target
        graphHash .write given = true →
      ∃ approval, (repositoryRun .sqlite sampleConfig.digests
          calls).approvals.find? target.workflowRevisionId = some approval ∧
        ∀ expiry, approval.expiresAt = some expiry → time ≤ expiry := by
  intro unexpired
  obtain ⟨_, found, alive⟩ := unexpired approvedCalls sampleTarget
    "graph" none 1000 (fun _ given => by cases given) (by decide +kernel)
  have expiry : ((repositoryRun .sqlite sampleConfig.digests
      approvedCalls).approvals.find? "revision").bind Approval.expiresAt =
        some 900 := by decide +kernel
  rw [show sampleTarget.workflowRevisionId = "revision" from rfl] at found
  rw [found] at expiry
  exact absurd (alive 900 expiry) (by decide)

/-- The plan of a revision is the one it was created with: in no run is a step
added to it, taken from it or given other dependencies or another effect. -/
theorem plan_is_fixed (backend : Backend) (digests : Digests) {key : StepKey}
    (created : (store.revisions.find? key.1).isSome)
    (calls : List RepositoryCall) :
    let later := run (repositoryStep backend digests) store calls
    (later.revisions.find? key.1).map Revision.plan =
        (store.revisions.find? key.1).map Revision.plan ∧
      (later.steps.find? key).map Step.plan =
        (store.steps.find? key).map Step.plan := by
  induction calls generalizing store with
  | nil => exact ⟨rfl, rfl⟩
  | cons call _ induction =>
      obtain ⟨revision, found⟩ := Option.isSome_iff_exists.mp created
      obtain ⟨revised, steps⟩ := plan_step found
      rw [found, Option.map_some, ← revised, ← steps]
      exact induction (by rw [← Option.isSome_map, revised]; rfl)

theorem plan_is_fixed_sample :
    ((run (repositoryStep .sqlite sampleConfig.digests)
      (repositoryRun .sqlite sampleConfig.digests approvedCalls)
      [.createRevision sampleTarget "other" [] 1 1000]).steps.find?
        sampleStep).map Step.plan = some ("run", "tenant", [], .read) :=
  (plan_is_fixed .sqlite sampleConfig.digests (by decide +kernel) _).2.trans
    (by decide +kernel)

end AcpTask.Workflow
