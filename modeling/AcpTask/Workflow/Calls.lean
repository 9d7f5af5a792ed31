import AcpTask.Workflow.Moves

namespace AcpTask.Workflow

open Library

/-! The repository as its callers see it: calls with any arguments, in any
order.  A call is one transaction, but `cancel_revision` is three. -/

inductive Backend where
  | sqlite
  | postgres
  deriving DecidableEq

inductive RepositoryCall where
  | createRun (workflowRunId tenantId userPrincipalId goalHash : String)
      (now : Int)
  | createRevision (target : Target) (planGraphHash : String)
      (plan : List PlannedStep) (now contentTtlSeconds : Int)
  | authorizeRequestedRead (target : Target) (graphHash requestedBy : String)
      (now ttlSeconds : Int)
  | recordApproval (target : Target) (graphHash approvedBy : String)
      (now ttlSeconds : Int)
  | recordCampaignAuthorization (target : Target) (graphHash : String)
      (campaignId envelopeHash authorizedBy : String)
      (now envelopeExpiresAt : Int)
  | claimReadyStep (target : Target) (workerId token : String)
      (now leaseTtlSeconds maxAttempts : Int) (locked : List StepKey)
  | finishClaimLease (claim : Claim) (tenantId : String) (now : Int)
      (consumed : Bool)
  | markExecutionUnknown (key : StepKey) (tenantId reason : String)
  | pauseByPolicy (key : StepKey) (tenantId reason : String)
  | releaseForRetry (key : StepKey) (tenantId reason : String) (retryAt : Int)
  | releaseWithoutConsumingAttempt (key : StepKey) (tenantId reason : String)
      (retryAt : Int) (attempt : Nat)
  | persistCompletion (key : StepKey) (tenantId : String) (attempt : Nat)
      (result : DispatchResult) (now : Int) (missed : Bool)
  | recoverExpiredClaims (now : Int) (skipped : List String)
  | claimUnresolvedWriteStep (key : StepKey) (tenantId : String)
      (attempt : Nat) (workerId : String) (now visibilitySeconds : Int)
  | deferReconciliation (key : StepKey) (tenantId : String) (attempt : Nat)
      (reason : String) (retryAt : Int)
  | applyReconciliation (key : StepKey) (tenantId : String) (attempt : Nat)
      (result : Reconciliation) (missed : Bool)
  | setVerificationStatus (key : StepKey) (tenantId : String)
      (status : VerificationStatus)
  | resumePolicyPaused
  | cancelSteps (target : Target)
  | cancelRevisionRow (target : Target)
  | cancelRun (target : Target)
  | retrySafeRead (target : Target) (stepId : String)
  | retryCorrectedWrite (key : StepKey) (tenantId : String)
  | purgeExpiredContent (now : Int)

/-- The calls the Postgres repository inherits fail before their first
statement: it has no lock to take. -/
def repositoryStep (backend : Backend) (digests : Digests)
    (store : WorkflowStore) : RepositoryCall → WorkflowStore
  | .createRun workflowRunId tenantId userPrincipalId goalHash now =>
      (createRun store workflowRunId tenantId userPrincipalId goalHash now).2
  | .createRevision target planGraphHash plan now contentTtlSeconds =>
      (createRevision store target.workflowRevisionId target.workflowRunId
        target.tenantId planGraphHash plan now contentTtlSeconds).2
  | .authorizeRequestedRead target graphHash requestedBy now ttlSeconds =>
      match backend with
      | .sqlite => (authorizeRequestedRead store target.workflowRunId
          target.workflowRevisionId target.tenantId graphHash requestedBy now
          ttlSeconds).2
      | .postgres => (Postgres.authorizeRequestedRead store
          target.workflowRunId target.workflowRevisionId target.tenantId
          graphHash requestedBy now ttlSeconds).2
  | .recordApproval target graphHash approvedBy now ttlSeconds =>
      (recordApproval store target.workflowRunId target.workflowRevisionId
        target.tenantId graphHash approvedBy now ttlSeconds).2
  | .recordCampaignAuthorization target graphHash campaignId envelopeHash
      authorizedBy now envelopeExpiresAt =>
      match backend with
      | .sqlite => (recordCampaignAuthorization store target.workflowRunId
          target.workflowRevisionId target.tenantId graphHash campaignId
          envelopeHash authorizedBy now envelopeExpiresAt).2
      | .postgres => store
  | .claimReadyStep target workerId token now leaseTtlSeconds maxAttempts
      locked =>
      match backend with
      | .sqlite => (claimReadyStep digests store target workerId token now
          leaseTtlSeconds maxAttempts).2
      | .postgres => (Postgres.claimReadyStep digests store target workerId
          token now leaseTtlSeconds maxAttempts locked).2
  | .finishClaimLease claim tenantId now consumed =>
      finishClaimLease digests store claim tenantId now consumed
  | .markExecutionUnknown key tenantId reason =>
      markExecutionUnknown store key tenantId reason
  | .pauseByPolicy key tenantId reason =>
      pauseByPolicy store key tenantId reason
  | .releaseForRetry key tenantId reason retryAt =>
      match backend with
      | .sqlite => releaseForRetry store key tenantId reason retryAt
      | .postgres => Postgres.releaseForRetry store key tenantId reason retryAt
  | .releaseWithoutConsumingAttempt key tenantId reason retryAt attempt =>
      releaseWithoutConsumingAttempt store key tenantId reason retryAt attempt
  | .persistCompletion key tenantId attempt result now missed =>
      match backend with
      | .sqlite =>
          (persistCompletion digests store key tenantId attempt result now).2
      | .postgres => (Postgres.persistCompletion digests store key tenantId
          attempt result now missed).2
  | .recoverExpiredClaims now skipped =>
      match backend with
      | .sqlite => recoverExpiredClaims store now
      | .postgres => Postgres.recoverExpiredClaims store now skipped
  | .claimUnresolvedWriteStep key tenantId attempt workerId now
      visibilitySeconds =>
      claimUnresolvedWriteStep store key tenantId attempt workerId now
        visibilitySeconds
  | .deferReconciliation key tenantId attempt reason retryAt =>
      deferReconciliation store key tenantId attempt reason retryAt
  | .applyReconciliation key tenantId attempt result missed =>
      match backend with
      | .sqlite =>
          (applyReconciliation digests store key tenantId attempt result).2
      | .postgres => (Postgres.applyReconciliation digests store key tenantId
          attempt result missed).2
  | .setVerificationStatus key tenantId status =>
      setVerificationStatus store key tenantId status
  | .resumePolicyPaused =>
      match backend with
      | .sqlite => resumePolicyPaused store
      | .postgres => Postgres.resumePolicyPaused store
  | .cancelSteps target =>
      match backend with
      | .sqlite => cancelSteps store target
      | .postgres => store
  | .cancelRevisionRow target =>
      match backend with
      | .sqlite => (cancelRevisionRow store target).2
      | .postgres => store
  | .cancelRun target =>
      match backend with
      | .sqlite => cancelRun store target
      | .postgres => store
  | .retrySafeRead target stepId =>
      match backend with
      | .sqlite => retrySafeRead store target stepId
      | .postgres => store
  | .retryCorrectedWrite key tenantId =>
      match backend with
      | .sqlite => retryCorrectedWrite store key tenantId
      | .postgres => store
  | .purgeExpiredContent now => purgeExpiredContent store now

section Backends

variable {backend : Backend} {digests : Digests} {store : WorkflowStore}
  {target : Target} {now : Int} {motive : WorkflowStore → Prop}

theorem authorizeRequestedRead_step (backend : Backend)
    (graphHash requestedBy : String) (ttlSeconds : Int) :
    Authorizes store (repositoryStep backend digests store
      (.authorizeRequestedRead target graphHash requestedBy now
        ttlSeconds)) := by
  cases backend with
  | sqlite => exact authorizeRequestedRead_authorizes ..
  | postgres => exact Postgres.authorizeRequestedRead_authorizes ..

theorem recordCampaignAuthorization_step (backend : Backend)
    (graphHash campaignId envelopeHash authorizedBy : String)
    (envelopeExpiresAt : Int) :
    Authorizes store (repositoryStep backend digests store
      (.recordCampaignAuthorization target graphHash campaignId envelopeHash
        authorizedBy now envelopeExpiresAt)) := by
  cases backend with
  | sqlite => exact recordCampaignAuthorization_authorizes ..
  | postgres => exact .refused

theorem claim_preserves {workerId token : String}
    {leaseTtlSeconds maxAttempts : Int} {locked : List StepKey}
    (before : motive store)
    (trimmed : motive (failExhausted store target maxAttempts))
    (started : ∀ (selected : Step) leases, motive { startAttempt
      (failExhausted store target maxAttempts) selected.key
      (selected.attempt + 1) workerId now with leases }) :
    motive (repositoryStep backend digests store (.claimReadyStep target
      workerId token now leaseTtlSeconds maxAttempts locked)) := by
  cases backend with
  | sqlite => exact claimReadyStep_preserves before trimmed started
  | postgres => exact Postgres.claimReadyStep_preserves before trimmed started

def Backend.close (backend : Backend) (store : WorkflowStore) (key : StepKey)
    (tenantId : String) (attempt : Nat) (workflowRunId : String) (now : Int)
    (missed : Bool) : WorkflowStore :=
  match backend with
  | .sqlite => closeRevision store key.1 tenantId now
  | .postgres => Postgres.closeRevision
      (Postgres.consumeLease store key tenantId attempt now) key.1 tenantId
      workflowRunId now missed

variable {key : StepKey} {tenantId : String} {attempt : Nat} {missed : Bool}

@[simp] theorem Backend.close_steps (workflowRunId : String) :
    (backend.close store key tenantId attempt workflowRunId now missed).steps =
      store.steps := by
  cases backend with
  | sqlite => exact closeRevision_steps ..
  | postgres =>
      simp only [Backend.close, Postgres.closeRevision]
      split <;> rfl

theorem completion_preserves {result : DispatchResult}
    (before : motive store)
    (completed : ∀ current receipts attestations,
      store.steps.find? key = some current →
      current.completes key tenantId attempt = true →
      motive (backend.close { completeStep store key tenantId attempt result
        current with receipts, attestations } key tenantId attempt
        current.workflowRunId now missed)) :
    motive (repositoryStep backend digests store
      (.persistCompletion key tenantId attempt result now missed)) := by
  cases backend with
  | sqlite => exact persistCompletion_preserves before completed
  | postgres => exact Postgres.persistCompletion_preserves before completed

theorem reconciliation_preserves {result : Reconciliation}
    (before : motive store)
    (completed : result.executionStatus = .completed →
      ∀ completion : DispatchResult,
      completion.output = result.output.getD completion.receipt →
      motive (repositoryStep backend digests store (.persistCompletion key
        tenantId attempt completion result.reconciledAt missed)))
    (settled : result.executionStatus = .queued ∨
      result.executionStatus = .executionUnknown →
      motive (updateSteps store
        (fun row => row.is key tenantId && row.attempt == attempt &&
          row.executionStatus == .executionUnknown)
        (fun row => { row with
          executionStatus := result.executionStatus
          verificationStatus := result.verificationStatus
          claimedBy := none, claimedAt := none })
        (fun _ => rfl))) :
    motive (repositoryStep backend digests store
      (.applyReconciliation key tenantId attempt result missed)) := by
  cases backend with
  | sqlite =>
      simp only [repositoryStep, applyReconciliation]
      split
      · rename_i observed
        split
        · exact completed observed _ rfl
        · exact before
      · rename_i observed
        exact settled (.inl observed)
      · rename_i observed
        exact settled (.inr observed)
      · exact before
  | postgres =>
      simp only [repositoryStep, Postgres.applyReconciliation]
      split
      · rename_i observed
        split
        · exact completed observed _ rfl
        · exact before
      · unfold applyReconciliation
        split
        · rename_i other _ observed
          exact absurd observed other
        · rename_i observed
          exact settled (.inl observed)
        · rename_i observed
          exact settled (.inr observed)
        · exact before

theorem sweep_preserves {skipped : List String} (before : motive store)
    (recovered : ∀ current lease effect, motive current →
      motive (recoverClaim current now lease effect)) :
    motive (repositoryStep backend digests store
      (.recoverExpiredClaims now skipped)) := by
  have swept : ∀ items : List (Lease × Step), motive (items.foldl
      (fun store item => recoverClaim store now item.1 item.2.effect)
      store) := by
    intro items
    exact items.foldlRecOn _ before fun current held item _ =>
      recovered current item.1 item.2.effect held
  cases backend <;> exact swept _

end Backends

def repositoryRun (backend : Backend) (digests : Digests)
    (calls : List RepositoryCall) : WorkflowStore :=
  run (repositoryStep backend digests) WorkflowStore.empty calls

def StepWrite.call (target : Target) (claim : Claim) (now : Int) :
    StepWrite → RepositoryCall
  | .pauseByPolicy reason => .pauseByPolicy claim.step target.tenantId reason
  | .markExecutionUnknown reason =>
      .markExecutionUnknown claim.step target.tenantId reason
  | .releaseForRetry reason delay =>
      .releaseForRetry claim.step target.tenantId reason (now + delay)
  | .releaseWithoutConsumingAttempt reason delay =>
      .releaseWithoutConsumingAttempt claim.step target.tenantId reason
        (now + delay) claim.attempt
  | .persistCompletion result =>
      .persistCompletion claim.step target.tenantId claim.attempt result now
        false

def Phase.call (config : ExecutorConfig) (worker : Nat) (now : Int) :
    Phase → Answer → Option RepositoryCall
  | .claiming target, .lease token =>
      some (.claimReadyStep target (config.workerId worker) token now
        (config.leaseTtl worker) 5 [])
  | .writing target claim write _ _, .proceed =>
      some (write.call target claim now)
  | .finishing target claim consumed _, .proceed =>
      some (.finishClaimLease claim target.tenantId now consumed)
  | .cancellingRevision target, .proceed => some (.cancelRevisionRow target)
  | .cancellingRun target, .proceed => some (.cancelRun target)
  | _, _ => none

def WorkflowAction.call (config : ExecutorConfig) (system : WorkflowSystem) :
    WorkflowAction → Option RepositoryCall
  | .runNext _ _ | .crash _ => none
  | .advance worker answer now =>
      (system.workers worker).call config worker now answer
  | .createRun workflowRunId tenantId userPrincipalId goalHash now =>
      some (.createRun workflowRunId tenantId userPrincipalId goalHash now)
  | .createRevision target planGraphHash plan now contentTtlSeconds =>
      some (.createRevision target planGraphHash plan now contentTtlSeconds)
  | .authorizeRequestedRead target graphHash requestedBy now ttlSeconds =>
      some (.authorizeRequestedRead target graphHash requestedBy now ttlSeconds)
  | .recordApproval target graphHash approvedBy now ttlSeconds =>
      some (.recordApproval target graphHash approvedBy now ttlSeconds)
  | .recordCampaignAuthorization target graphHash campaignId envelopeHash
      authorizedBy now envelopeExpiresAt =>
      some (.recordCampaignAuthorization target graphHash campaignId
        envelopeHash authorizedBy now envelopeExpiresAt)
  | .recoverExpiredClaims now => some (.recoverExpiredClaims now [])
  | .claimUnresolvedWriteStep key tenantId attempt workerId now
      visibilitySeconds =>
      some (.claimUnresolvedWriteStep key tenantId attempt workerId now
        visibilitySeconds)
  | .deferReconciliation key tenantId attempt reason retryAt =>
      some (.deferReconciliation key tenantId attempt reason retryAt)
  | .applyReconciliation key tenantId attempt result =>
      some (.applyReconciliation key tenantId attempt result false)
  | .setVerificationStatus key tenantId status =>
      some (.setVerificationStatus key tenantId status)
  | .resumePolicyPaused => some .resumePolicyPaused
  | .cancelRevision worker target =>
      match system.workers worker with
      | .idle _ => some (.cancelSteps target)
      | _ => none
  | .retrySafeRead target stepId => some (.retrySafeRead target stepId)
  | .retryCorrectedWrite key tenantId =>
      some (.retryCorrectedWrite key tenantId)
  | .purgeExpiredContent now => some (.purgeExpiredContent now)

def callStep (digests : Digests) (store : WorkflowStore) :
    Option RepositoryCall → WorkflowStore
  | none => store
  | some call => repositoryStep .sqlite digests store call

theorem executeWrite_call (digests : Digests) (store : WorkflowStore)
    (target : Target) (claim : Claim) (now : Int) (write : StepWrite) :
    (executeWrite digests store target claim now write).2 =
      repositoryStep .sqlite digests store (write.call target claim now) := by
  cases write <;> rfl

theorem advance_call (config : ExecutorConfig) (system : WorkflowSystem)
    (worker : Nat) (answer : Answer) (now : Int) :
    (advance config system worker answer now).store =
      callStep config.digests system.store
        ((system.workers worker).call config worker now answer) := by
  unfold advance
  cases system.workers worker with
  | idle => rfl
  | authorizing _ _ effects =>
      cases effects with
      | nil => cases answer <;> rfl
      | cons =>
          cases answer with
          | proceed =>
              dsimp only
              split <;> rfl
          | _ => rfl
  | claiming =>
      cases answer with
      | lease =>
          dsimp only [Phase.call, callStep, repositoryStep]
          split <;> simp_all [WorkflowSystem.move, WorkflowSystem.write]
      | _ => rfl
  | examining | claimed | loaded =>
      cases answer with
      | proceed =>
          dsimp only
          split <;> rfl
      | _ => rfl
  | deciding =>
      cases answer with
      | decision =>
          dsimp only
          split <;> rfl
      | _ => rfl
  | dispatching | finishing | cancellingRevision | cancellingRun =>
      cases answer <;> rfl
  | writing target claim write =>
      cases answer with
      | proceed =>
          exact executeWrite_call config.digests system.store target claim now
            write
      | _ => rfl

theorem workflowStep_call (config : ExecutorConfig) (system : WorkflowSystem)
    (action : WorkflowAction) :
    (workflowStep config system action).store =
      callStep config.digests system.store (action.call config system) := by
  cases action with
  | advance worker answer now =>
      exact advance_call config system worker answer now
  | runNext =>
      simp only [workflowStep]
      split <;> rfl
  | cancelRevision =>
      simp only [workflowStep, WorkflowAction.call]
      split <;> simp_all [WorkflowSystem.move, WorkflowSystem.write, callStep,
        repositoryStep]
  | _ => rfl

theorem workflowRun_calls (config : ExecutorConfig)
    (actions : List WorkflowAction) :
    ∃ calls, (workflowRun config actions).store =
      repositoryRun .sqlite config.digests calls := by
  refine run_invariant (workflowStep config)
    (fun system => ∃ calls, system.store =
      repositoryRun .sqlite config.digests calls) ?_ ⟨[], rfl⟩ actions
  intro system action reached
  obtain ⟨calls, same⟩ := reached
  rw [workflowStep_call]
  cases action.call config system with
  | none => exact ⟨calls, same⟩
  | some call =>
      refine ⟨calls ++ [call], ?_⟩
      rw [repositoryRun, run_append, ← repositoryRun, ← same]
      rfl

end AcpTask.Workflow
