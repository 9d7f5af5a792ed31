import AcpTask.Workflow.RunStatus

namespace AcpTask.Workflow

open Library

/-- `is_step_authorized`; a call that gives no time does not look at the
expiry. -/
def stepAuthorized (store : WorkflowStore) (target : Target)
    (graphHash : String) (effect : StepEffect) (now : Option Int) : Bool :=
  let approval := (store.approvals.find? target.workflowRevisionId).filter
    fun row => row.workflowRunId == target.workflowRunId &&
      row.tenantId == target.tenantId && row.planGraphHash == graphHash
  let revision := (store.revisions.find? target.workflowRevisionId).filter
    fun row => row.workflowRunId == target.workflowRunId &&
      row.tenantId == target.tenantId
  let run := (store.runs.find? target.workflowRunId).filter
    fun row => row.tenantId == target.tenantId
  match approval, revision, run with
  | some approval, some revision, some run =>
      run.currentRevisionId == some target.workflowRevisionId &&
      revision.status.executable &&
      (now.all fun now =>
        approval.expiresAt.all fun expiry => decide (now ≤ expiry)) &&
      approval.authorizationMode.covers effect
  | _, _, _ => false

namespace Postgres

def revisionAuthorizationMode (store : WorkflowStore) (target : Target)
    (graphHash : String) (now : Option Int) : Option AuthorizationMode :=
  ((store.approvals.find? target.workflowRevisionId).filter fun row =>
    row.workflowRunId == target.workflowRunId &&
      row.tenantId == target.tenantId && row.planGraphHash == graphHash &&
      now.all fun now =>
        row.expiresAt.all fun expiry => decide (now ≤ expiry)).map
    Approval.authorizationMode

/-- The revision is looked up by its own id and tenant, and its run by the
run that the revision names. -/
def stepAuthorized (store : WorkflowStore) (target : Target)
    (graphHash : String) (effect : StepEffect) (now : Option Int) : Bool :=
  let mode := revisionAuthorizationMode store target graphHash now
  let revision := (store.revisions.find? target.workflowRevisionId).filter
    fun row => row.tenantId == target.tenantId
  let run := revision.bind fun revision =>
    (store.runs.find? revision.workflowRunId).filter
      fun row => row.tenantId == revision.tenantId
  match revision, run with
  | some revision, some run =>
      run.currentRevisionId == some target.workflowRevisionId &&
      revision.status.executable &&
      mode.any fun mode => mode.covers effect
  | _, _ => false

end Postgres

def Backend.stepAuthorized :
    Backend → WorkflowStore → Target → String → StepEffect → Option Int → Bool
  | .sqlite => Workflow.stepAuthorized
  | .postgres => Postgres.stepAuthorized

structure KeepsConsent (store later : WorkflowStore) : Prop where
  approvals : later.approvals = store.approvals
  plans : ∀ id row, store.revisions.find? id = some row →
    ∃ next, later.revisions.find? id = some next ∧
      next.planGraphHash = row.planGraphHash

section Frames

variable {backend : Backend} {digests : Digests} {store later : WorkflowStore}
  {call : RepositoryCall}

theorem KeepsConsent.of_same (approvals : later.approvals = store.approvals)
    (revisions : later.revisions = store.revisions) :
    KeepsConsent store later where
  approvals := approvals
  plans := fun _ row found => ⟨row, revisions ▸ found, rfl⟩

theorem KeepsConsent.refl (store : WorkflowStore) : KeepsConsent store store :=
  .of_same rfl rfl

theorem KeepsConsent.trans {middle : WorkflowStore}
    (first : KeepsConsent store middle) (second : KeepsConsent middle later) :
    KeepsConsent store later where
  approvals := second.approvals.trans first.approvals
  plans := fun id row found => by
    obtain ⟨next, foundNext, same⟩ := first.plans id row found
    obtain ⟨last, foundLast, sameLast⟩ := second.plans id next foundNext
    exact ⟨last, foundLast, sameLast.trans same⟩

theorem plans_update {condition : Revision → Bool}
    {assign : Revision → Revision}
    (keepsKey : ∀ row, (assign row).workflowRevisionId = row.workflowRevisionId)
    (samePlan : ∀ row, (assign row).planGraphHash = row.planGraphHash)
    (id : String) (row : Revision)
    (found : store.revisions.find? id = some row) :
    ∃ next, (store.revisions.updateWhere condition assign keepsKey).find? id =
      some next ∧ next.planGraphHash = row.planGraphHash := by
  rw [Table.find?_updateWhere, found, Option.map_some]
  split
  · exact ⟨_, rfl, samePlan row⟩
  · exact ⟨_, rfl, rfl⟩

theorem supersede_consent (workflowRunId : String) :
    KeepsConsent store (supersede store workflowRunId) :=
  ⟨rfl, plans_update (fun _ => by rfl) fun _ => by rfl⟩

theorem createRevision_consent
    (workflowRevisionId workflowRunId tenantId planGraphHash : String)
    (plan : List PlannedStep) (now contentTtlSeconds : Int) :
    KeepsConsent store (createRevision store workflowRevisionId workflowRunId
      tenantId planGraphHash plan now contentTtlSeconds).2 := by
  refine createRevision_preserves (.refl store)
    fun revisions steps insertion _ _ => ?_
  obtain ⟨absent, grown⟩ := insertInto_ok insertion
  refine ⟨rfl, fun id row found => ?_⟩
  obtain ⟨next, kept, same⟩ :=
    (supersede_consent workflowRunId).plans id row found
  refine ⟨next, ?_, same⟩
  dsimp only
  rw [grown, if_neg]
  · exact kept
  · rintro rfl
    rw [kept] at absent
    cases absent

theorem createRun_consent
    (workflowRunId tenantId userPrincipalId goalHash : String) (now : Int) :
    KeepsConsent store (createRun store workflowRunId tenantId userPrincipalId
      goalHash now).2 :=
  createRun_preserves (.refl store) fun _ _ => .of_same rfl rfl

theorem completion_consent (backend : Backend) (key : StepKey)
    (tenantId : String) (attempt : Nat) (result : DispatchResult) (now : Int)
    (missed : Bool) :
    KeepsConsent store (repositoryStep backend digests store
      (.persistCompletion key tenantId attempt result now missed)) := by
  refine completion_preserves (.refl store) fun _ _ _ _ _ => ?_
  cases backend with
  | sqlite =>
      simp only [Backend.close, closeRevision]
      split
      · exact .of_same rfl rfl
      · exact ⟨rfl, plans_update (fun _ => by rfl) fun _ => by rfl⟩
  | postgres =>
      simp only [Backend.close, Postgres.closeRevision]
      split
      · exact .of_same rfl rfl
      · exact ⟨rfl, plans_update (fun _ => by rfl) fun _ => by rfl⟩

/-- A call that approves a revision: the one whose plan it names, and which was
not approved yet. -/
structure Approves (store later : WorkflowStore) (approval : Approval) :
    Prop where
  fresh : store.approvals.find? approval.workflowRevisionId = none
  approvals : ∀ id, later.approvals.find? id =
    if approval.workflowRevisionId = id then some approval
    else store.approvals.find? id
  plans : ∀ id row, store.revisions.find? id = some row →
    ∃ next, later.revisions.find? id = some next ∧
      next.planGraphHash = row.planGraphHash
  revision : ∃ revision,
    store.revisions.find? approval.workflowRevisionId = some revision ∧
    revision.workflowRunId = approval.workflowRunId ∧
    revision.tenantId = approval.tenantId ∧
    revision.planGraphHash = approval.planGraphHash
  reads : approval.authorizationMode = .requestedRead →
    ∀ step ∈ store.steps, step.workflowRunId = approval.workflowRunId →
      step.workflowRevisionId = approval.workflowRevisionId →
      step.tenantId = approval.tenantId → step.effect = .read

theorem Authorizes.consent (authorizes : Authorizes store later) :
    KeepsConsent store later ∨ ∃ approval, Approves store later approval := by
  cases authorizes with
  | refused => exact .inl (.refl store)
  | approved approved _ reads =>
      unfold approve at approved
      split at approved
      · cases approved
      rename_i revision draft
      simp only [bind_eq_ok, pure_eq_ok] at approved
      obtain ⟨table, inserted, rfl⟩ := approved
      simp only [draftRevision, Option.filter_eq_some_iff, Bool.and_eq_true,
        beq_iff_eq] at draft
      obtain ⟨found, ⟨⟨run, tenant⟩, _⟩, _⟩ := draft
      have named := (Table.find?_eq_some_iff.mp found).2
      unfold insertInto at inserted
      split at inserted
      · rename_i added
        cases inserted
        refine .inr ⟨_, (Table.insert?_eq_some_iff.mp added).1, ?_, ?_, ?_, ?_⟩
        · intro id
          dsimp only
          rw [Table.find?_of_insert? added]
        · exact plans_update (fun _ => by rfl) (fun _ => by rfl)
        · exact ⟨revision, named ▸ found, rfl, rfl, rfl⟩
        · intro read step member runOf revisionOf tenantOf
          exact reads read step member (runOf.trans run)
            (revisionOf.trans named) (tenantOf.trans tenant)
      · cases inserted

end Frames

theorem repositoryStep_consent (backend : Backend) (digests : Digests)
    (store : WorkflowStore) (call : RepositoryCall) :
    KeepsConsent store (repositoryStep backend digests store call) ∨
      ∃ approval,
        Approves store (repositoryStep backend digests store call)
          approval := by
  cases call with
  | createRun => exact .inl (createRun_consent ..)
  | createRevision => exact .inl (createRevision_consent ..)
  | authorizeRequestedRead =>
      exact (authorizeRequestedRead_step backend ..).consent
  | recordApproval => exact (recordApproval_authorizes ..).consent
  | recordCampaignAuthorization =>
      exact (recordCampaignAuthorization_step backend ..).consent
  | claimReadyStep =>
      exact .inl (claim_preserves (.refl store) (.of_same rfl rfl)
        fun _ _ => .of_same rfl rfl)
  | persistCompletion => exact .inl (completion_consent ..)
  | recoverExpiredClaims =>
      exact .inl (sweep_preserves (.refl store) fun _ _ _ kept =>
        kept.trans (.of_same rfl rfl))
  | applyReconciliation =>
      exact .inl (reconciliation_preserves (.refl store)
        (fun _ _ _ => completion_consent ..) fun _ => .of_same rfl rfl)
  | setVerificationStatus =>
      refine .inl ?_
      simp only [repositoryStep, setVerificationStatus]
      split <;> exact .of_same rfl rfl
  | cancelRevisionRow =>
      cases backend with
      | sqlite =>
          exact .inl ⟨rfl, plans_update (fun _ => by rfl) fun _ => by rfl⟩
      | postgres => exact .inl (.refl store)
  | _ => cases backend <;> exact .inl (.of_same rfl rfl)

end AcpTask.Workflow
