import AcpTask.Library.Run
import AcpTask.Workflow.Repository

namespace AcpTask.Workflow

open Data Library

variable (config : ExecutorConfig) (system : WorkflowSystem)
  (store : WorkflowStore)

inductive ResolveError where
  | keyError (key : String)
  | stopIteration
  | typeError (message : String)
  | indexError
  | attributeError

/-- The exceptions `run_next` turns into a pause. -/
def ResolveError.caught : ResolveError → Bool
  | .attributeError => false
  | _ => true

/-- `str(exc)`. -/
def ResolveError.text : ResolveError → String
  | .keyError key => "'" ++ key ++ "'"
  | .stopIteration => ""
  | .typeError message => message
  | .indexError => "list index out of range"
  | .attributeError => "object has no attribute 'split'"

/-- `material[part]` for a text part. -/
def subscript (material : Value) (part : String) :
    Except ResolveError Value :=
  match material with
  | .dict items =>
      match Value.get? items part with
      | some item => .ok item
      | none => .error (.keyError part)
  | .list _ =>
      .error (.typeError "list indices must be integers or slices, not str")
  | .str _ => .error (.typeError "string indices must be integers, not 'str'")
  | _ => .error (.typeError "object is not subscriptable")

structure Material where
  steps : List Step
  receipt : String → Option Value

/-- The value a `$ref` names. -/
def resolveReference (material : Material) (reference : Value) :
    Except ResolveError Value :=
  match reference with
  | .str path =>
      let parts := (path.toList.splitOn '.').map String.ofList
      match material.steps.find? fun step => step.stepId == parts.headD "" with
      | none => .error .stopIteration
      | some source =>
          match parts[1]? with
          | none => .error .indexError
          | some field =>
              let found := if field = "output" then
                  source.output.getD (.dict [])
                else (material.receipt source.stepId).getD .none
              (parts.drop 2).foldlM subscript found
  | _ => .error .attributeError

mutual
def resolveInput (material : Material) :
    Value → Except ResolveError Value
  | .dict items =>
      if !items.isEmpty && items.all fun item => item.1 == "$ref" then
        resolveReference material (Value.lookup items "$ref")
      else do
        let resolved ← resolveItems material items
        pure (.dict resolved)
  | .list items => do
      let resolved ← resolveList material items
      pure (.list resolved)
  | value => pure value

def resolveList (material : Material) :
    List Value → Except ResolveError (List Value)
  | [] => pure []
  | item :: items => do
      let first ← resolveInput material item
      let rest ← resolveList material items
      pure (first :: rest)

def resolveItems (material : Material) :
    List (String × Value) → Except ResolveError (List (String × Value))
  | [] => pure []
  | (key, item) :: items => do
      let first ← resolveInput material item
      let rest ← resolveItems material items
      pure ((key, first) :: rest)
end

def getStepReceipt (key : StepKey) (tenantId : String) : Option Value :=
  ((store.receipts.rows.filter fun row =>
    decide (row.step = key) && row.tenantId == tenantId).foldl
      (fun last row => match last with
        | none => some row
        | some other => if other.attempt < row.attempt then some row else last)
      none).map Receipt.receipt

def getRevision (target : Target) : Option (Revision × List Step) :=
  ((store.revisions.find? target.workflowRevisionId).filter fun row =>
    row.workflowRunId == target.workflowRunId &&
      row.tenantId == target.tenantId).map fun row =>
        (row, store.steps.rows.filter fun step =>
          step.workflowRevisionId == target.workflowRevisionId)

/-! One call of `run_next`, cut at every repository call and at every question
put to something outside it. -/

/-- What a step policy answers; a bare `False` carries no reason. -/
structure PolicyDecision where
  allowed : Bool
  reason : Option String := none

def defaultPolicyReason : String := "dispatch policy disabled"

def policyReason (decision : PolicyDecision) : String :=
  match decision.reason with
  | none | some "" => defaultPolicyReason
  | some reason => reason

inductive DispatchOutcome where
  | returned (result : DispatchResult)
  | ambiguousStepError (message : String)
  | pausedStepError (message : String) (retryAfter : Option Int)
  | retryableStepError (message : String) (retryAfter : Option Int)
  | permissionError (message : String)
  | correctableStepError (message : String)
  | otherException (message : String)

inductive RunResult where
  | needsApproval
  | complete
  | blocked
  | needsReplan (stepId : String)
  | pausedByPolicy (stepId reason : String)
  | executionUnknown (stepId : String)
  | retryWait (stepId : String)
  | blockedConnection (stepId : String)
  | retryableFailure (stepId recovery : String)
  | stepCompleted (stepId : String)

structure ReadyStep where
  step : Step
  approvedInput : Value
  input : Value

inductive StepWrite where
  | pauseByPolicy (reason : String)
  | markExecutionUnknown (reason : String)
  | releaseForRetry (reason : String) (delay : Int)
  | releaseWithoutConsumingAttempt (reason : String) (delay : Int)
  | persistCompletion (result : DispatchResult)

inductive Phase where
  | idle (last : Option RunResult)
  | authorizing (target : Target) (graphHash : String)
      (effects : List StepEffect)
  | claiming (target : Target)
  | examining (target : Target)
  | claimed (target : Target) (claim : Claim)
  | loaded (target : Target) (claim : Claim) (steps : List Step)
  | deciding (target : Target) (claim : Claim) (ready : ReadyStep)
  | dispatching (target : Target) (claim : Claim) (ready : ReadyStep)
  | writing (target : Target) (claim : Claim) (write : StepWrite)
      (consumed : Bool) (result : RunResult)
  | finishing (target : Target) (claim : Claim) (consumed : Bool)
      (result : RunResult)
  | cancellingRevision (target : Target)
  | cancellingRun (target : Target)

inductive Answer where
  | proceed
  | lease (token : String)
  | decision (value : PolicyDecision)
  | dispatched (outcome : DispatchOutcome)

structure ExecutorConfig where
  digests : Digests
  workerId : Nat → String
  leaseTtl : Nat → Int
  pausedRetrySeconds : Nat → Int

structure WorkflowSystem where
  store : WorkflowStore
  workers : Nat → Phase
  claims : List Claim

def WorkflowSystem.initial : WorkflowSystem :=
  ⟨WorkflowStore.empty, fun _ => .idle none, []⟩

def WorkflowSystem.move (worker : Nat) (phase : Phase) : WorkflowSystem :=
  { system with workers := Function.update system.workers worker phase }

def WorkflowSystem.write : WorkflowSystem :=
  { system with store }

/-- The delay a falsy `retry_after` leaves to its default. -/
def retryDelay (retryAfter : Option Int) (default : Int) : Int :=
  max 1 (if retryAfter.getD 0 = 0 then default else retryAfter.getD 0)

def outcomePhase (pausedRetrySeconds : Int) (target : Target)
    (claim : Claim) : DispatchOutcome → Phase
  | .returned result =>
      .writing target claim (.persistCompletion result) true
        (.stepCompleted claim.step.2)
  | .ambiguousStepError message =>
      .writing target claim (.markExecutionUnknown message) true
        (.executionUnknown claim.step.2)
  | .pausedStepError message retryAfter =>
      .writing target claim
        (.releaseWithoutConsumingAttempt message
          (retryDelay retryAfter pausedRetrySeconds)) false
        (.retryWait claim.step.2)
  | .retryableStepError message retryAfter =>
      .writing target claim
        (.releaseForRetry message
          (retryDelay retryAfter (min 300 (2 ^ claim.attempt)))) false
        (.retryWait claim.step.2)
  | .permissionError message =>
      .writing target claim (.pauseByPolicy message) false
        (.blockedConnection claim.step.2)
  | .correctableStepError message =>
      .writing target claim (.pauseByPolicy message) false
        (.retryableFailure claim.step.2 message)
  | .otherException message =>
      .writing target claim
        (.markExecutionUnknown ("unexpected dispatch outcome: " ++ message))
        true (.executionUnknown claim.step.2)

/-- Where the claimed step's input leads; an exception that is not caught ends
the call. -/
def inputPhase (target : Target) (claim : Claim) (step : Step) :
    Except ResolveError Value → Phase
  | .ok input => .deciding target claim ⟨step, step.input, input⟩
  | .error error =>
      if error.caught then
        .writing target claim (.pauseByPolicy
          ("workflow input reference is unavailable: " ++ error.text)) false
          (.needsReplan claim.step.2)
      else .idle none

def executeWrite (digests : Digests) (store : WorkflowStore)
    (target : Target) (claim : Claim) (now : Int) :
    StepWrite → Bool × WorkflowStore
  | .pauseByPolicy reason =>
      (true, pauseByPolicy store claim.step target.tenantId reason)
  | .markExecutionUnknown reason =>
      (true, markExecutionUnknown store claim.step target.tenantId reason)
  | .releaseForRetry reason delay =>
      (true, releaseForRetry store claim.step target.tenantId reason
        (now + delay))
  | .releaseWithoutConsumingAttempt reason delay =>
      (true, releaseWithoutConsumingAttempt store claim.step target.tenantId
        reason (now + delay) claim.attempt)
  | .persistCompletion result =>
      let persisted := persistCompletion digests store claim.step
        target.tenantId claim.attempt result now
      (persisted.1.isOk, persisted.2)

def advance (worker : Nat) (answer : Answer) (now : Int) : WorkflowSystem :=
  match system.workers worker, answer with
  | .authorizing target _ [], .proceed => system.move worker (.claiming target)
  | .authorizing target graphHash (effect :: effects), .proceed =>
      if isStepAuthorized system.store target.workflowRunId
          target.workflowRevisionId target.tenantId graphHash effect now then
        system.move worker (.authorizing target graphHash effects)
      else system.move worker (.idle (some .needsApproval))
  | .claiming target, .lease token =>
      match claimReadyStep config.digests system.store target
          (config.workerId worker) token now (config.leaseTtl worker) 5 with
      | (.error _, store) => (system.write store).move worker (.idle none)
      | (.ok none, store) =>
          (system.write store).move worker (.examining target)
      | (.ok (some claim), store) =>
          { (system.write store).move worker (.claimed target claim) with
            claims := claim :: system.claims }
  | .examining target, .proceed =>
      match getRevision system.store target with
      | none => system.move worker (.idle none)
      | some (_, steps) =>
          system.move worker (.idle (some
            (if !steps.isEmpty && steps.all fun step =>
                step.executionStatus == .completed then .complete
              else .blocked)))
  | .claimed target claim, .proceed =>
      match getRevision system.store target with
      | none => system.move worker (.idle none)
      | some (_, steps) => system.move worker (.loaded target claim steps)
  | .loaded target claim steps, .proceed =>
      match steps.find? fun step => step.stepId == claim.step.2 with
      | none => system.move worker (.idle none)
      | some step =>
          system.move worker (inputPhase target claim step
            (resolveInput ⟨steps, fun stepId => getStepReceipt system.store
              (target.workflowRevisionId, stepId) target.tenantId⟩
              step.input))
  | .deciding target claim ready, .decision value =>
      if value.allowed then
        system.move worker (.dispatching target claim ready)
      else
        system.move worker (.writing target claim
          (.pauseByPolicy (policyReason value)) false
          (.pausedByPolicy claim.step.2 (policyReason value)))
  | .dispatching target claim _, .dispatched outcome =>
      system.move worker (outcomePhase (config.pausedRetrySeconds worker)
        target claim outcome)
  | .writing target claim write consumed result, .proceed =>
      let written := executeWrite config.digests system.store target claim now
        write
      (system.write written.2).move worker
        (if written.1 then .finishing target claim consumed result
          else .idle none)
  | .finishing target claim consumed result, .proceed =>
      (system.write (finishClaimLease config.digests system.store claim
        target.tenantId now consumed)).move worker (.idle (some result))
  | .cancellingRevision target, .proceed =>
      let cancelled := cancelRevisionRow system.store target
      (system.write cancelled.2).move worker
        (if cancelled.1 then .cancellingRun target else .idle none)
  | .cancellingRun target, .proceed =>
      (system.write (cancelRun system.store target)).move worker (.idle none)
  | _, _ => system

inductive WorkflowAction where
  | runNext (worker : Nat) (target : Target)
  | advance (worker : Nat) (answer : Answer) (now : Int)
  | crash (worker : Nat)
  | createRun (workflowRunId tenantId userPrincipalId goalHash : String)
      (now : Int)
  | createRevision (target : Target) (planGraphHash : String)
      (plan : List PlannedStep) (now contentTtlSeconds : Int)
  | authorizeRequestedRead (target : Target) (graphHash requestedBy : String)
      (now ttlSeconds : Int)
  | recordApproval (target : Target) (graphHash approvedBy : String)
      (now ttlSeconds : Int)
  | recordCampaignAuthorization (target : Target) (graphHash : String)
      (campaignId envelopeHash authorizedBy : String)
      (now envelopeExpiresAt : Int)
  | recoverExpiredClaims (now : Int)
  | claimUnresolvedWriteStep (key : StepKey) (tenantId : String)
      (attempt : Nat) (workerId : String) (now visibilitySeconds : Int)
  | deferReconciliation (key : StepKey) (tenantId : String) (attempt : Nat)
      (reason : String) (retryAt : Int)
  | applyReconciliation (key : StepKey) (tenantId : String) (attempt : Nat)
      (result : Reconciliation)
  | setVerificationStatus (key : StepKey) (tenantId : String)
      (status : VerificationStatus)
  | resumePolicyPaused
  | cancelRevision (worker : Nat) (target : Target)
  | retrySafeRead (target : Target) (stepId : String)
  | retryCorrectedWrite (key : StepKey) (tenantId : String)
  | purgeExpiredContent (now : Int)

def revisionEffects (steps : List Step) : List StepEffect :=
  [.read, .write].filter fun effect => steps.any fun step =>
    step.effect == effect

def workflowStep :
    WorkflowAction → WorkflowSystem
  | .runNext worker target =>
      match system.workers worker, getRevision system.store target with
      | .idle _, some (revision, steps) =>
          system.move worker (.authorizing target revision.planGraphHash
            (revisionEffects steps))
      | _, _ => system
  | .advance worker answer now => advance config system worker answer now
  | .crash worker => system.move worker (.idle none)
  | .createRun workflowRunId tenantId userPrincipalId goalHash now =>
      system.write (createRun system.store workflowRunId tenantId
        userPrincipalId goalHash now).2
  | .createRevision target planGraphHash plan now contentTtlSeconds =>
      system.write (createRevision system.store target.workflowRevisionId
        target.workflowRunId target.tenantId planGraphHash plan now
        contentTtlSeconds).2
  | .authorizeRequestedRead target graphHash requestedBy now ttlSeconds =>
      system.write (authorizeRequestedRead system.store target.workflowRunId
        target.workflowRevisionId target.tenantId graphHash requestedBy now
        ttlSeconds).2
  | .recordApproval target graphHash approvedBy now ttlSeconds =>
      system.write (recordApproval system.store target.workflowRunId
        target.workflowRevisionId target.tenantId graphHash approvedBy now
        ttlSeconds).2
  | .recordCampaignAuthorization target graphHash campaignId envelopeHash
      authorizedBy now envelopeExpiresAt =>
      system.write (recordCampaignAuthorization system.store
        target.workflowRunId target.workflowRevisionId target.tenantId
        graphHash campaignId envelopeHash authorizedBy now
        envelopeExpiresAt).2
  | .recoverExpiredClaims now =>
      system.write (recoverExpiredClaims system.store now)
  | .claimUnresolvedWriteStep key tenantId attempt workerId now
      visibilitySeconds =>
      system.write (claimUnresolvedWriteStep system.store key tenantId attempt
        workerId now visibilitySeconds)
  | .deferReconciliation key tenantId attempt reason retryAt =>
      system.write (deferReconciliation system.store key tenantId attempt
        reason retryAt)
  | .applyReconciliation key tenantId attempt result =>
      system.write (applyReconciliation config.digests system.store key
        tenantId attempt result).2
  | .setVerificationStatus key tenantId status =>
      system.write (setVerificationStatus system.store key tenantId status)
  | .resumePolicyPaused => system.write (resumePolicyPaused system.store)
  | .cancelRevision worker target =>
      match system.workers worker with
      | .idle _ =>
          (system.write (cancelSteps system.store target)).move worker
            (.cancellingRevision target)
      | _ => system
  | .retrySafeRead target stepId =>
      system.write (retrySafeRead system.store target stepId)
  | .retryCorrectedWrite key tenantId =>
      system.write (retryCorrectedWrite system.store key tenantId)
  | .purgeExpiredContent now =>
      system.write (purgeExpiredContent system.store now)

def workflowRun (actions : List WorkflowAction) : WorkflowSystem :=
  run (workflowStep config) WorkflowSystem.initial actions

end AcpTask.Workflow
