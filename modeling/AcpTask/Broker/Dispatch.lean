import AcpTask.Action.Repository
import AcpTask.Broker.Receipt
import AcpTask.Data.Json

namespace AcpTask.Broker

open Data Library Workflow

/-! The dispatcher and the broker behind it, cut at every repository call and at
every question put to something outside them.  The broker is a process of its
own: it goes on when the worker that called it stops listening. -/

structure Connection where
  connected : Bool
  credentialId : String
  credentialVersion : Int
  enabledCapabilities : Option (List String)
  authority : Action.Authority

structure BrokerConfig where
  executor : ExecutorConfig
  agentPrincipalId : String
  ttl : Int
  canonicalJson : Value → String
  payloadHash : Value → String
  leaseHash : String → String
  decode : String → Value

def sideEffectingCapabilities : List String :=
  ["calendar.create", "gmail.send", "drive.upload"]

def reinforcedCapabilities : List String :=
  ["slack.channel.create", "slack.channel.rename",
    "slack.channel.set_topic", "slack.channel.archive",
    "slack.channel.invite"]

structure Job where
  claim : Claim
  effect : StepEffect
  capabilityId : String
  payload : Value
  userPrincipalId : String
  startedAt : Int
  proposal : Action.ProposalRequest
  lease : Action.LeaseRequest
  binding : Action.Binding

structure Preparation where
  connection : Option Connection
  policyDenial : Option String

def makeJob (config : BrokerConfig) (claim : Claim) (ready : ReadyStep)
    (run : WorkflowRun) (revision : Revision) (connection : Connection)
    (now : Int) : Job :=
  let step := ready.step
  let taskId := claim.step.1 ++ ":" ++ step.stepId
  let connectionId := step.connectionId.getD ""
  let payloadHash := config.payloadHash ready.input
  { claim, effect := step.effect, capabilityId := step.capabilityId
    payload := ready.input, userPrincipalId := run.userPrincipalId
    startedAt := now
    proposal := {
      proposalId := "proposal:" ++ taskId
      idempotencyKey := "workflow:" ++ taskId
      userPrincipalId := run.userPrincipalId
      agentPrincipalId := config.agentPrincipalId
      credentialId := connection.credentialId
      capabilityId := step.capabilityId
      payloadJson := config.canonicalJson ready.input
      payloadHash
      expiresAt := now + config.ttl
      workflowRevisionId := claim.step.1
      stepId := step.stepId
      planGraphHash := revision.planGraphHash
      connectionId
      attempt := claim.attempt
      authority := connection.authority
      reinforced := reinforcedCapabilities.contains step.capabilityId
      tenantId := some step.tenantId }
    lease := {
      leaseHash := ""
      userPrincipalId := run.userPrincipalId
      agentPrincipalId := config.agentPrincipalId
      taskId
      credentialId := connection.credentialId
      capabilities := [step.capabilityId]
      expiresAt := now + config.ttl
      workflowRevisionId := claim.step.1
      stepId := step.stepId
      planGraphHash := revision.planGraphHash
      connectionId
      attempt := claim.attempt
      authority := connection.authority
      tenantId := some step.tenantId }
    binding := {
      userPrincipalId := run.userPrincipalId
      agentPrincipalId := config.agentPrincipalId
      credentialId := connection.credentialId
      capabilityId := step.capabilityId
      payloadHash := if step.effect = .write then payloadHash else ""
      taskId := some taskId
      workflowRevisionId := some claim.step.1
      stepId := some step.stepId
      planGraphHash := some revision.planGraphHash
      connectionId := some connectionId
      attempt := some claim.attempt
      authority := connection.authority
      tenantId := some step.tenantId } }

def noneIsNotSubscriptable : DispatchOutcome :=
  .otherException "'NoneType' object is not subscriptable"

def prepare (config : BrokerConfig) (store : WorkflowStore) (claim : Claim)
    (ready : ReadyStep) (facts : Preparation) (now : Int) :
    Except DispatchOutcome Job :=
  let step := ready.step
  let run := (store.runs.find? step.workflowRunId).filter fun row =>
    row.tenantId == step.tenantId
  let revision := (getRevision store
    ⟨step.workflowRunId, claim.step.1, step.tenantId⟩).map Prod.fst
  match facts.connection.filter Connection.connected with
  | none => .error (.pausedStepError "connection is unavailable" none)
  | some connection =>
      if step.credentialVersion ≠ 0 ∧
          connection.credentialVersion ≠ step.credentialVersion then
        .error (.permissionError "credential version changed; replan required")
      else if !connection.enabledCapabilities.all fun enabled =>
          enabled.contains step.capabilityId then
        .error (.correctableStepError "missing_scope:reconnect_installation")
      else match revision with
        | none => .error noneIsNotSubscriptable
        | some revision =>
            if !isStepAuthorized store step.workflowRunId claim.step.1
                step.tenantId revision.planGraphHash step.effect now then
              .error (.permissionError
                "workflow approval expired before dispatch")
            else if !matchesApprovedTemplate ready.approvedInput
                ready.input then
              .error (.permissionError
                "resolved effect no longer matches the approved graph")
            else match run, facts.policyDenial with
              | none, _ => .error noneIsNotSubscriptable
              | some _, some reason =>
                  .error (.permissionError
                    ("dynamic policy denied: " ++ reason))
              | some run, none =>
                  .ok (makeJob config claim ready run revision connection now)

inductive Runtime where
  | unconfigured
  | unavailable
  | resolved (effect : StepEffect) (payloadValid : Bool)
  deriving DecidableEq

structure Checks where
  gateAllowed : Bool
  gateReason : Option String
  runtime : Runtime
  credentialActive : Bool
  connectorConfigured : Bool
  agentTrusted : Bool
  identityVerified : Bool

def Runtime.sideEffecting (runtime : Runtime) (capabilityId : String) :
    Bool :=
  match runtime with
  | .resolved effect _ => effect == .write
  | _ => sideEffectingCapabilities.contains capabilityId

def refuse (status : Nat) (error : String) : BrokerResponse :=
  ⟨status, { error := some error }⟩

/-- The checks before the proposal is looked up: whether the call has a side
effect, or the refusal. -/
def validate (store : Action.ActionStore) (job : Job) (lease : String)
    (checks : Checks) (now : Int) : Except BrokerResponse Bool := do
  let sideEffecting := checks.runtime.sideEffecting job.capabilityId
  require (match job.payload with
      | .dict _ => true
      | _ => false)
    (refuse 422 "invalid execution request")
  require (Action.validateLease store (some lease) job.binding now)
    (refuse 403 "missing, expired, or mismatched capability lease")
  require checks.gateAllowed
    ⟨403, {
      error := some (textOr checks.gateReason "capability rollout is disabled")
      recovery := some "contact_admin" }⟩
  require (checks.runtime != .unavailable)
    (refuse 403 "capability snapshot is unavailable or stale")
  require (match checks.runtime with
      | .resolved _ payloadValid => payloadValid
      | _ => true)
    (refuse 422 "payload does not match capability schema")
  require checks.credentialActive
    (refuse 403 "credential is not active for this user and capability")
  require (checks.connectorConfigured || checks.runtime != .unconfigured)
    (refuse 503 "credential refresh is not configured")
  require (!sideEffecting || checks.agentTrusted)
    (refuse 403 "agent endpoint is not trusted")
  require (!sideEffecting || checks.identityVerified)
    (refuse 403 "agent identity could not be re-verified")
  pure sideEffecting

def bindingMismatches (proposal : Option Action.Proposal)
    (binding : Action.Binding) : List String :=
  match proposal with
  | none => ["proposal is unknown"]
  | some row =>
      let fixed := [
        ("proposal_id", row.proposalId == binding.proposalId),
        ("version", row.version == binding.version),
        ("user_principal_id", row.userPrincipalId == binding.userPrincipalId),
        ("agent_principal_id",
          row.agentPrincipalId == binding.agentPrincipalId),
        ("credential_id", row.credentialId == binding.credentialId),
        ("capability_id", row.capabilityId == binding.capabilityId),
        ("payload_hash", row.payloadHash == binding.payloadHash),
        ("idempotency_key", row.idempotencyKey == binding.idempotencyKey)]
      let dynamic := [
        ("workflow_revision_id",
          some row.workflowRevisionId == binding.workflowRevisionId),
        ("step_id", some row.stepId == binding.stepId),
        ("plan_graph_hash", some row.planGraphHash == binding.planGraphHash),
        ("connection_id", some row.connectionId == binding.connectionId),
        ("attempt", some row.attempt == binding.attempt)]
      let fields := if row.workflowRevisionId = "legacy" then fixed
        else fixed ++ dynamic
      (fields.filter fun field => !field.2).map Prod.fst

def recordedResponse (decode : String → Value) (row : Action.Proposal) :
    BrokerResponse :=
  match row.brokerResponseJson.map decode with
  | some (.dict items) =>
      ⟨200, {
        receipt := Value.get? items "receipt"
        executionAttestation := Value.get? items "execution_attestation" }⟩
  | _ => ⟨200, { receipt := row.receiptJson.map decode }⟩

def existingResponse (config : BrokerConfig) (store : Action.ActionStore)
    (job : Job) : Option BrokerResponse :=
  let existing := Action.getByIdempotencyKey store job.binding.idempotencyKey
    job.binding.tenantId
  match bindingMismatches existing job.binding, existing with
  | [], some row =>
      if row.status = .completed then
        some (recordedResponse config.decode row)
      else if row.status = .executing then
        some ⟨202, { status := some "executing" }⟩
      else if row.status = .executionUnknown then
        some ⟨202, { status := some "execution_unknown" }⟩
      else if config.payloadHash job.payload ≠ row.payloadHash then
        some (refuse 403 "payload does not match approved proposal")
      else none
  | mismatched, _ =>
      some ⟨403, {
        error := some "action binding does not match proposal"
        mismatchedFields := mismatched }⟩

structure Refusal where
  reason : String
  deferredUntil : Option Int

def Refusal.response (refusal : Refusal) : BrokerResponse :=
  ⟨409, {
    error := some refusal.reason
    status := some (if refusal.deferredUntil.isSome then "deferred"
      else "prevented")
    deferredUntil := refusal.deferredUntil }⟩

def review (config : BrokerConfig) (store : Action.ActionStore) (job : Job)
    (sideEffecting policyCurrent : Bool) (refusal : Option Refusal) :
    Option BrokerResponse :=
  if sideEffecting ∧ (existingResponse config store job).isSome then
    existingResponse config store job
  else if job.binding.dynamic ∧ !policyCurrent then
    some (refuse 403 "dynamic policy decision is stale or denied")
  else if sideEffecting then refusal.map Refusal.response
  else none

def scopeException (required granted : List String) :
    Option BrokerException :=
  if required.isEmpty then
    some (.permissionError "capability has no provider scope")
  else if !granted.isEmpty && !required.all granted.contains then
    some (.permissionError "provider did not grant the required scope")
  else none

structure Evidence where
  attestation : Value
  status : String

def evidenceBody (receipt : Value) : Option Evidence → BrokerBody
  | none => { receipt := some receipt }
  | some evidence =>
      { receipt := some receipt
        executionAttestation := some evidence.attestation
        evidenceStatus := some evidence.status }

def evidenceResponse (receipt : Value) (evidence : Evidence) : Value :=
  .dict [("receipt", receipt), ("execution_attestation", evidence.attestation),
    ("evidence_status", .str evidence.status)]

abbrev ProposalKey := String × Nat

inductive DispatchPhase where
  | idle
  | proposing (job : Job)
  | deciding (job : Job)
  | leasing (job : Job)
  | requested (job : Job) (lease : String)
  | validated (job : Job) (lease : String) (sideEffecting : Bool)
  | consuming (job : Job) (lease : String)
  | spending (job : Job) (lease : String) (proposal : Option ProposalKey)
  | restoring (job : Job) (proposal : ProposalKey)
  | opening (job : Job) (proposal : Option ProposalKey)
  | marking (job : Job) (proposal : ProposalKey)
  | calling (job : Job) (proposal : Option ProposalKey)
  | failing (job : Job) (proposal : Option ProposalKey)
      (exception : BrokerException) (unknown : Bool)
  | evidencing (job : Job) (proposal : Option ProposalKey) (receipt : Value)
  | completing (job : Job) (proposal : ProposalKey) (receipt : Value)
      (evidence : Option Evidence)
  | answered (outcome : DispatchOutcome)
  | dropped

def DispatchPhase.inWorker : DispatchPhase → Bool
  | .proposing _ | .deciding _ | .leasing _ => true
  | _ => false

inductive BrokerAnswer where
  | proceed
  | token (text : String)
  | checks (facts : Checks)
  | live (policyCurrent : Bool) (refusal : Option Refusal)
  | opened (required granted : List String)
  | raised (exception : BrokerException)
  | returned (value : Value)
  | attested (evidence : Option Evidence)

inductive CallEvent where
  | called (step : StepKey)
  | succeeded (step : StepKey)
  deriving DecidableEq

def respond (job : Job) (response : BrokerResponse) : DispatchPhase :=
  .answered (brokerOutcome response job.capabilityId job.effect)

def refusalOf : Action.ActionError → String
  | .valueError _ => "pre_dispatch:ValueError"
  | .integrityError => "pre_dispatch:IntegrityError"

/-- Where an exception inside the broker's `try` leads. -/
def exceptionPhase (job : Job) (proposal : Option ProposalKey)
    (exception : BrokerException) (started : Bool) : DispatchPhase :=
  if exception.caught then
    .failing job proposal exception (started && exception.network)
  else .dropped

def receiptPhase (job : Job) (proposal : Option ProposalKey)
    (value : Value) : DispatchPhase :=
  match safeReceipt value with
  | .ok receipt => .evidencing job proposal receipt
  | .error message =>
      exceptionPhase job proposal (.valueError message) proposal.isSome

/-- The next repository call of a dispatch: where it goes, what it leaves in the
action store and what goes on record. -/
def dispatchStep (config : BrokerConfig) (store : Action.ActionStore)
    (phase : DispatchPhase) (answer : BrokerAnswer) (now : Int) :
    DispatchPhase × Action.ActionStore × List CallEvent :=
  match phase, answer with
  | .proposing job, .proceed =>
      match Action.createProposal store job.proposal with
      | (.error error, store) =>
          (.answered (.correctableStepError (refusalOf error)), store, [])
      | (.ok row, store) =>
          (.deciding { job with binding := { job.binding with
              proposalId := row.proposalId, version := row.version
              payloadHash := job.proposal.payloadHash
              idempotencyKey := row.idempotencyKey } }, store, [])
  | .deciding job, .proceed =>
      let decided := Action.decide store job.binding.proposalId
        job.binding.version job.userPrincipalId true job.startedAt
        job.binding.tenantId
      (if decided.1 then .leasing job
        else .answered (.permissionError
          "exact action approval could not be materialized"),
        decided.2, [])
  | .leasing job, .token text =>
      let hash := config.leaseHash text
      match Action.issueLease store { job.lease with leaseHash := hash }
          job.startedAt with
      | (.error error, store) =>
          (.answered (.correctableStepError (refusalOf error)), store, [])
      | (.ok (), store) => (.requested job hash, store, [])
  | .requested job lease, .checks facts =>
      match validate store job lease facts now with
      | .error response => (respond job response, store, [])
      | .ok sideEffecting =>
          if sideEffecting ∧ job.binding.idempotencyKey = "" then
            (.dropped, store, [])
          else (.validated job lease sideEffecting, store, [])
  | .validated job lease sideEffecting, .live policyCurrent refusal =>
      match review config store job sideEffecting policyCurrent refusal with
      | some response => (respond job response, store, [])
      | none =>
          (if sideEffecting then .consuming job lease
            else .spending job lease none, store, [])
  | .consuming job lease, .proceed =>
      match Action.consumeApproval store job.binding now with
      | (none, store) =>
          (respond job (refuse 403 "exact action approval is required"),
            store, [])
      | (some row, store) => (.spending job lease (some row.key), store, [])
  | .spending job lease proposal, .proceed =>
      let consumed := Action.consumeLease store (some lease) job.binding now
      let refused := respond job
        (refuse 403 "capability lease was already consumed")
      (if consumed.1 then .opening job proposal
        else match proposal with
          | some key => .restoring job key
          | none => refused,
        consumed.2, [])
  | .restoring job proposal, .proceed =>
      (respond job (refuse 403 "capability lease was already consumed"),
        (Action.recoverPreDispatchClaim store proposal.1 proposal.2).2, [])
  | .opening job proposal, .raised exception =>
      (exceptionPhase job proposal exception false, store, [])
  | .opening job proposal, .opened required granted =>
      match scopeException required granted with
      | some exception =>
          (exceptionPhase job proposal exception false, store, [])
      | none =>
          (match proposal with
            | some key => .marking job key
            | none => .calling job none, store, [])
  | .marking job proposal, .proceed =>
      let marked := Action.markDispatched store proposal.1 proposal.2 now
      if marked.1 then
        (.calling job (some proposal), marked.2, [.called job.claim.step])
      else
        (exceptionPhase job (some proposal)
          (.permissionError "provider dispatch claim is no longer valid")
          false, marked.2, [])
  | .calling job proposal, .raised exception =>
      (exceptionPhase job proposal exception proposal.isSome, store, [])
  | .calling job proposal, .returned value =>
      (receiptPhase job proposal value, store,
        if proposal.isSome then [.succeeded job.claim.step] else [])
  | .failing job proposal exception unknown, .proceed =>
      let failed := match proposal with
        | some key => (Action.failExecution store key.1 key.2 exception.text
            now unknown).2
        | none => store
      (respond job (if unknown then
          ⟨202, { status := some "execution_unknown" }⟩
        else safeProviderError exception), failed, [])
  | .evidencing job proposal receipt, .attested evidence =>
      (match proposal with
        | some key => .completing job key receipt evidence
        | none => respond job ⟨200, evidenceBody receipt none⟩, store, [])
  | .evidencing _ _ _, .raised _ => (.dropped, store, [])
  | .completing job proposal receipt evidence, .proceed =>
      (respond job ⟨200, evidenceBody receipt evidence⟩,
        (Action.completeExecution store proposal.1 proposal.2
          (config.canonicalJson receipt) now
          (evidence.map fun evidence =>
            config.canonicalJson (evidenceResponse receipt evidence))).2, [])
  | _, _ => (phase, store, [])

/-- A dispatch belongs to one attempt of one step; no attempt number is claimed
twice. -/
structure DispatchId where
  step : StepKey
  attempt : Nat
  deriving DecidableEq

def dispatchId (claim : Claim) : DispatchId := ⟨claim.step, claim.attempt⟩

structure BrokerSystem where
  workflow : WorkflowSystem
  actions : Action.ActionStore
  dispatches : DispatchId → DispatchPhase
  calls : List CallEvent

def BrokerSystem.initial : BrokerSystem :=
  ⟨WorkflowSystem.initial, Action.ActionStore.empty, fun _ => .idle, []⟩

def BrokerSystem.moveDispatch (system : BrokerSystem) (id : DispatchId)
    (phase : DispatchPhase) : BrokerSystem :=
  { system with dispatches := Function.update system.dispatches id phase }

/-- The workflow's own actions: a dispatcher's outcome comes from a dispatch,
and no reconciler takes part. -/
def ownAction : WorkflowAction → Bool
  | .advance _ (.dispatched _) _ | .applyReconciliation _ _ _ _ => false
  | _ => true

inductive BrokerAction where
  | workflow (action : WorkflowAction) (own : ownAction action = true)
  | beginDispatch (worker : Nat) (facts : Preparation) (now : Int)
  | advanceDispatch (worker : Nat) (id : DispatchId) (answer : BrokerAnswer)
      (now : Int)
  | receive (worker : Nat) (now : Int)
  | lose (worker : Nat) (message : String) (now : Int)
  | sweepStalledExecutions (now : Int) (limit : Nat)

def dispatchingClaim (system : BrokerSystem) (worker : Nat) :
    Option (Claim × ReadyStep) :=
  match system.workflow.workers worker with
  | .dispatching _ claim ready => some (claim, ready)
  | _ => none

def tell (config : BrokerConfig) (system : BrokerSystem) (worker : Nat)
    (outcome : DispatchOutcome) (now : Int) : BrokerSystem :=
  { system with
    workflow := advance config.executor system.workflow worker
      (.dispatched outcome) now }

def brokerStep (config : BrokerConfig) (system : BrokerSystem) :
    BrokerAction → BrokerSystem
  | .workflow action _ =>
      { system with
        workflow := workflowStep config.executor system.workflow action }
  | .beginDispatch worker facts now =>
      match dispatchingClaim system worker with
      | none => system
      | some (claim, ready) =>
          match system.dispatches (dispatchId claim) with
          | .idle =>
              match prepare config system.workflow.store claim ready facts
                  now with
              | .error outcome =>
                  system.moveDispatch (dispatchId claim) (.answered outcome)
              | .ok job =>
                  system.moveDispatch (dispatchId claim)
                    (if job.effect = .write then .proposing job
                      else .leasing job)
          | _ => system
  | .advanceDispatch worker id answer now =>
      let phase := system.dispatches id
      if phase.inWorker && !((dispatchingClaim system worker).any fun held =>
          decide (dispatchId held.1 = id)) then system
      else
        let next := dispatchStep config system.actions phase answer now
        { system.moveDispatch id next.1 with
          actions := next.2.1, calls := next.2.2 ++ system.calls }
  | .receive worker now =>
      match dispatchingClaim system worker with
      | none => system
      | some (claim, _) =>
          match system.dispatches (dispatchId claim) with
          | .answered outcome => tell config system worker outcome now
          | _ => system
  | .lose worker message now =>
      match dispatchingClaim system worker with
      | none => system
      | some (claim, _) =>
          if (system.dispatches (dispatchId claim)).inWorker then system
          else match system.dispatches (dispatchId claim) with
            | .idle => system
            | _ => tell config system worker (.otherException message) now
  | .sweepStalledExecutions now limit =>
      { system with
        actions := (Action.sweepStalledExecutions system.actions now limit).2 }

def brokerRun (config : BrokerConfig) (actions : List BrokerAction) :
    BrokerSystem :=
  run (brokerStep config) BrokerSystem.initial actions

end AcpTask.Broker
