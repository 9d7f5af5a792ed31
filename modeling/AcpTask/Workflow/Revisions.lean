import AcpTask.Workflow.Approvals

namespace AcpTask.Workflow

open Library

/-! What a new run, a new revision and an authorization leave in the store. -/

section Insertion

variable {store later : WorkflowStore}

theorem map_others {Row : Type} {found : Option Row} {condition : Row → Bool}
    {assign : Row → Row}
    (unselected : ∀ row, found = some row → condition row = false) :
    (found.map fun row => if condition row then assign row else row) =
      found := by
  cases found with
  | none => rfl
  | some row => rw [Option.map_some, unselected row rfl, if_neg (by simp)]

variable {workflowRunId tenantId : String} {now : Int}

theorem createRun_ok {userPrincipalId goalHash : String}
    (created : createRun store workflowRunId tenantId userPrincipalId goalHash
      now = (.ok (), later)) :
    later.revisions = store.revisions ∧ later.steps = store.steps ∧
      later.approvals = store.approvals ∧
      store.runs.find? workflowRunId = none := by
  have committed := transaction_ok_iff.mp created
  simp only [bind_eq_ok, pure_eq_ok, Prod.mk.injEq] at committed
  obtain ⟨_, _, _, inserted, _, rfl⟩ := committed
  exact ⟨rfl, rfl, rfl, (insertInto_ok inserted).1⟩

variable {plan : List PlannedStep}

theorem insertSteps_kept {row : PlannedStep → Step}
    (inserted : plan.foldlM (fun store planned => insertStep store
      (row planned)) store = .ok later) {key : StepKey} {step : Step}
    (found : store.steps.find? key = some step) :
    later.steps.find? key = some step := by
  rcases insertSteps_find? inserted key with same | ⟨absent, _⟩
  · exact same.trans found
  · rw [found] at absent
    cases absent

theorem insertSteps_planned {row : PlannedStep → Step}
    (inserted : plan.foldlM (fun store planned => insertStep store
      (row planned)) store = .ok later) :
    ∀ planned ∈ plan, later.steps.find? (row planned).key =
      some (row planned) := by
  induction plan generalizing store with
  | nil => exact fun _ member => by cases member
  | cons first _ induction =>
      rw [List.foldlM_cons] at inserted
      obtain ⟨_, added, others⟩ := bind_eq_ok.mp inserted
      simp only [insertStep, bind_eq_ok, pure_eq_ok] at added
      obtain ⟨_, grown, rfl⟩ := added
      have here := (insertInto_ok grown).2 (row first).key
      rw [if_pos rfl] at here
      intro planned member
      rcases List.mem_cons.mp member with rfl | member
      · exact insertSteps_kept others here
      · exact induction others planned member

def Revision.after (workflowRunId : String) (row : Revision) : Revision :=
  if row.workflowRunId == workflowRunId && row.status.live then
    { row with status := .superseded }
  else row

theorem supersede_revisions (workflowRunId id : String) :
    (supersede store workflowRunId).revisions.find? id =
      (store.revisions.find? id).map (Revision.after workflowRunId) := by
  rw [supersede, updateSteps]
  exact Table.find?_updateWhere store.revisions
    (fun row => row.workflowRunId == workflowRunId && row.status.live)
    (fun row => { row with status := .superseded }) (fun _ => rfl) id

structure Grows (store later : WorkflowStore) : Prop where
  revisions : ∀ {id row}, store.revisions.find? id = some row →
    ∃ next, later.revisions.find? id = some next ∧
      next.workflowRunId = row.workflowRunId
  runs : ∀ {id}, store.runs.find? id ≠ none → later.runs.find? id ≠ none

theorem Grows.refl (store : WorkflowStore) : Grows store store :=
  ⟨fun found => ⟨_, found, rfl⟩, id⟩

theorem Grows.trans {middle : WorkflowStore} (first : Grows store middle)
    (second : Grows middle later) : Grows store later where
  revisions := fun found => by
    obtain ⟨_, foundBetween, same⟩ := first.revisions found
    obtain ⟨next, foundNext, run⟩ := second.revisions foundBetween
    exact ⟨next, foundNext, run.trans same⟩
  runs := fun found => second.runs (first.runs found)

theorem RunTables.grows {backend : Backend} {call : RepositoryCall}
    (tables : RunTables backend store later call) : Grows store later where
  revisions := fun {id row} found => by
    have moves := tables.revisions id
    rw [found] at moves
    cases after : later.revisions.find? id with
    | none =>
        rw [after] at moves
        cases moves
    | some next =>
        rw [after] at moves
        cases moves with
        | present alike => exact ⟨next, rfl, alike.workflowRunId⟩
  runs := fun {id} present absent => by
    have moves := tables.runs id
    cases before : store.runs.find? id with
    | none => exact present before
    | some =>
        rw [before, absent] at moves
        cases moves

theorem createRun_grows
    (workflowRunId tenantId userPrincipalId goalHash : String) (now : Int) :
    Grows store (createRun store workflowRunId tenantId userPrincipalId
      goalHash now).2 := by
  have tables : RunTables .sqlite store (createRun store workflowRunId
      tenantId userPrincipalId goalHash now).2 .resumePolicyPaused :=
    createRun_tables ..
  exact tables.grows

theorem createRevision_grows
    (workflowRevisionId workflowRunId tenantId planGraphHash : String)
    (plan : List PlannedStep) (now contentTtlSeconds : Int) :
    Grows store (createRevision store workflowRevisionId workflowRunId
      tenantId planGraphHash plan now contentTtlSeconds).2 := by
  have tables := @createRevision_tables .sqlite store
    ⟨workflowRunId, workflowRevisionId, tenantId⟩ planGraphHash plan now
    contentTtlSeconds
  exact tables.grows

theorem authorizeRequestedRead_grows
    (workflowRunId workflowRevisionId tenantId graphHash requestedBy : String)
    (now ttlSeconds : Int) :
    Grows store (authorizeRequestedRead store workflowRunId
      workflowRevisionId tenantId graphHash requestedBy now ttlSeconds).2 := by
  have tables : RunTables .sqlite store (authorizeRequestedRead store
      workflowRunId workflowRevisionId tenantId graphHash requestedBy now
      ttlSeconds).2 .resumePolicyPaused := (authorizeRequestedRead_authorizes ..).tables
  exact tables.grows

structure Revised (store later : WorkflowStore)
    (workflowRevisionId workflowRunId tenantId planGraphHash : String)
    (plan : List PlannedStep) (now contentTtlSeconds : Int) : Prop where
  fresh : store.revisions.find? workflowRevisionId = none
  draft : ∃ revisionNumber, later.revisions.find? workflowRevisionId = some {
    workflowRevisionId, workflowRunId, tenantId, planGraphHash
    revisionNumber, createdAt := now }
  others : ∀ id, id ≠ workflowRevisionId → later.revisions.find? id =
    (store.revisions.find? id).map (Revision.after workflowRunId)
  approvals : later.approvals = store.approvals
  planned : ∀ planned ∈ plan,
    later.steps.find? (workflowRevisionId, planned.stepId) =
      some (planned.row workflowRevisionId workflowRunId tenantId now
        contentTtlSeconds)
  ran : later.runs.find? workflowRunId ≠ none

variable {workflowRevisionId : String}

theorem createRevision_ok {planGraphHash : String} {contentTtlSeconds : Int}
    (created : createRevision store workflowRevisionId workflowRunId tenantId
      planGraphHash plan now contentTtlSeconds = (.ok (), later)) :
    Revised store later workflowRevisionId workflowRunId tenantId
      planGraphHash plan now contentTtlSeconds := by
  have committed := transaction_ok_iff.mp created
  simp only [bind_eq_ok, pure_eq_ok, Prod.mk.injEq] at committed
  obtain ⟨_, known, _, insertion, _, inserted, _, rfl⟩ := committed
  obtain ⟨_, grown⟩ := insertInto_ok insertion
  have planned := insertSteps_planned inserted
  obtain ⟨_, rfl⟩ := insertSteps_frame inserted
  refine {
    fresh := insertRevision_fresh insertion
    draft := ⟨lastRevisionNumber store workflowRunId + 1, ?_⟩
    others := fun id other => ?_
    approvals := rfl
    planned
    ran := ?_ }
  · dsimp only
    rw [grown, if_pos rfl]
  · dsimp only
    rw [grown, if_neg fun same => other same.symm]
    exact supersede_revisions workflowRunId id
  · rw [require_eq_ok, Option.any_eq_true] at known
    obtain ⟨_, found, _⟩ := known
    dsimp only
    rw [Table.find?_updateWhere]
    change (store.runs.find? workflowRunId).map _ ≠ none
    rw [found]
    exact Option.some_ne_none _

theorem authorizeRequestedRead_ok {graphHash requestedBy : String}
    {ttlSeconds : Int} (authorized : authorizeRequestedRead store workflowRunId
      workflowRevisionId tenantId graphHash requestedBy now ttlSeconds =
        (.ok (), later)) :
    later.steps = store.steps ∧ later.runs = store.runs ∧
      (∀ id, id ≠ workflowRevisionId →
        later.revisions.find? id = store.revisions.find? id ∧
        later.approvals.find? id = store.approvals.find? id) ∧
      later.revisions.find? workflowRevisionId =
        (store.revisions.find? workflowRevisionId).map fun row =>
          { row with status := .authorized } := by
  have committed := transaction_ok_iff.mp authorized
  simp only [bind_eq_ok, pure_eq_ok, Prod.mk.injEq] at committed
  obtain ⟨_, _, approved, approval, _, rfl⟩ := committed
  unfold approve at approval
  split at approval
  · cases approval
  · rename_i revision draft
    simp only [bind_eq_ok, pure_eq_ok] at approval
    obtain ⟨approvals, inserted, rfl⟩ := approval
    rw [draftRevision, Option.filter_eq_some_iff] at draft
    obtain ⟨found, named⟩ := Table.find?_eq_some_iff.mp draft.1
    obtain ⟨_, grown⟩ := insertInto_ok inserted
    refine ⟨rfl, rfl, fun id other => ⟨?_, ?_⟩, ?_⟩
    · dsimp only
      rw [Table.find?_updateWhere]
      exact map_others fun row present => by
        have own := (Table.find?_eq_some_iff.mp present).2
        simp [own, other]
    · dsimp only
      rw [grown, if_neg]
      rintro same
      exact other (same.symm.trans named)
    · dsimp only
      rw [Table.find?_updateWhere, draft.1, Option.map_some, Option.map_some,
        if_pos (by simp [named])]

structure Spares (store later : WorkflowStore) (id : String) : Prop where
  revision : later.revisions.find? id = store.revisions.find? id
  approval : later.approvals.find? id = store.approvals.find? id

theorem Spares.refl (store : WorkflowStore) (id : String) :
    Spares store store id :=
  ⟨rfl, rfl⟩

variable {id : String}

theorem Spares.trans {middle : WorkflowStore} (first : Spares store middle id)
    (second : Spares middle later id) :
    Spares store later id :=
  ⟨second.revision.trans first.revision, second.approval.trans first.approval⟩

def WorkflowStore.liveIn (store : WorkflowStore)
    (workflowRunId id : String) : Bool :=
  (store.revisions.find? id).any fun row =>
    row.workflowRunId == workflowRunId && row.status.live

theorem Spares.liveIn (spares : Spares store later id) (workflowRunId : String) :
    later.liveIn workflowRunId id = store.liveIn workflowRunId id :=
  congrArg (Option.any _) spares.revision

theorem liveIn_fresh {row : Revision}
    (found : store.revisions.find? id = some row)
    (ran : store.runs.find? row.workflowRunId ≠ none)
    (fresh : store.runs.find? workflowRunId = none) :
    store.liveIn workflowRunId id = false := by
  have apart : row.workflowRunId ≠ workflowRunId := by
    rintro rfl
    exact ran fresh
  simp [WorkflowStore.liveIn, found, apart]

theorem after_eq_self_iff {row : Revision} :
    row.after workflowRunId = row ↔
      (row.workflowRunId == workflowRunId && row.status.live) = false := by
  unfold Revision.after
  split
  · rename_i selected
    refine iff_of_false (fun same => ?_) (by simp [selected])
    have superseded := congrArg Revision.status same
    rw [← superseded, Bool.and_eq_true] at selected
    cases selected.2
  · rename_i unselected
    exact iff_of_true rfl (by simpa using unselected)

theorem createRun_spares
    (workflowRunId tenantId userPrincipalId goalHash : String) (now : Int)
    (id : String) :
    Spares store (createRun store workflowRunId tenantId userPrincipalId
      goalHash now).2 id := by
  refine transaction_preserves
    (motive := fun later => Spares store later id) (.refl store id) ?_
  intro _ later committed
  obtain ⟨revisions, _, approvals, _⟩ :=
    createRun_ok (transaction_ok_iff.mpr committed)
  exact ⟨congrArg (Table.find? · id) revisions,
    congrArg (Table.find? · id) approvals⟩

theorem createRevision_spares {planGraphHash : String} {contentTtlSeconds : Int}
    (present : store.revisions.find? id ≠ none)
    (apart : store.liveIn workflowRunId id = false) :
    Spares store (createRevision store workflowRevisionId workflowRunId
      tenantId planGraphHash plan now contentTtlSeconds).2 id := by
  refine transaction_preserves
    (motive := fun later => Spares store later id) (.refl store id) ?_
  intro _ later committed
  have creation := createRevision_ok (transaction_ok_iff.mpr committed)
  have other : id ≠ workflowRevisionId := by
    rintro rfl
    exact present creation.fresh
  refine ⟨?_, congrArg (Table.find? · id) creation.approvals⟩
  rw [creation.others id other]
  cases found : store.revisions.find? id with
  | none => rfl
  | some =>
      rw [WorkflowStore.liveIn, found, Option.any_some] at apart
      rw [Option.map_some, after_eq_self_iff.mpr apart]

theorem authorizeRequestedRead_spares {graphHash requestedBy : String}
    {ttlSeconds : Int} (other : id ≠ workflowRevisionId) :
    Spares store (authorizeRequestedRead store workflowRunId
      workflowRevisionId tenantId graphHash requestedBy now ttlSeconds).2
      id := by
  refine transaction_preserves
    (motive := fun later => Spares store later id) (.refl store id) ?_
  intro _ later committed
  obtain ⟨_, _, others, _⟩ :=
    authorizeRequestedRead_ok (transaction_ok_iff.mpr committed)
  exact ⟨(others id other).1, (others id other).2⟩

end Insertion

end AcpTask.Workflow
