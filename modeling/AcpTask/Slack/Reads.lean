import AcpTask.Concierge.Repository

namespace AcpTask.Slack

open Concierge Data Library Workflow

variable (service : Service)

/-! A read that a grounded turn asks for, from what the conversation holds to
the revision the executor runs. -/

inductive ServiceError where
  | permissionError (message : String)
  | valueError (message : String)
  | keyError (message : String)
  | attributeError
  | typeError
  | indexError
  | overflowError
  | workflow (error : WorkflowError)
  | conversation (error : ConversationError)

def ServiceError.caught : ServiceError → Bool
  | .permissionError _ | .valueError _ | .keyError _ => true
  | .workflow (.valueError _) => true
  | .conversation (.valueError _) | .conversation (.keyError _) => true
  | _ => false

structure Definition where
  capabilityId : String
  version : String
  requiredScopes : List String
  paged : Bool
  descriptorHash : String

structure Installation where
  connectionId : String
  status : String
  enabledCapabilities : List String
  grantedScopes : List String
  credentialVersion : Int

/-- `private_read_authorizer`: tenant, principal, channel and capability. -/
abbrev Authorizer := String → String → Value → String → Value

structure Service where
  library : StandardLibrary
  hash : Value → String
  definitions : List Definition
  installations : List Installation
  privateReadAuthorizer : Option Authorizer
  slackWritesEnabled : Bool
  slackDmsEnabled : Bool
  now : Int
  contentTtlSeconds : Int
  approvalTtlSeconds : Int

def Service.definition? (capabilityId : String) : Option Definition :=
  service.definitions.find? fun item => item.capabilityId == capabilityId

def Service.connection? (id : Value) : Option Installation :=
  service.installations.find? fun item => id.isText item.connectionId

def Installation.offers (connection : Installation)
    (definition : Definition) : Bool :=
  connection.enabledCapabilities.contains definition.capabilityId &&
    definition.requiredScopes.all connection.grantedScopes.contains

/-- `sorted(definition.required_scopes)[0] if definition else "unknown"`. -/
def missingScope : Option Definition → ServiceError
  | none => .permissionError "missing_scope:unknown"
  | some definition =>
      match definition.requiredScopes with
      | [] => .indexError
      | scope :: _ => .permissionError ("missing_scope:" ++ scope)

def Service.offered (connectionId : Value) (capabilityId : String) :
    Except ServiceError (Installation × Definition) :=
  match service.connection? connectionId, service.definition? capabilityId with
  | some connection, some definition =>
      if connection.offers definition then .ok (connection, definition)
      else .error (missingScope (some definition))
  | _, definition => .error (missingScope definition)

/-- `(resolved.get(field) or {}).get(key)`. -/
def entityItem (resolved : ConversationState) (field : StateField)
    (key : String) : Except ServiceError Value :=
  match (resolved.value field).orEmpty.item? key with
  | some value => .ok value
  | none => .error .attributeError

def readCapability? : String → Option String
  | "list_channels" => some "slack.channels.list"
  | "list_private_channels" => some "slack.private_channels.list"
  | "read" | "summarize" => some "slack.conversation.read"
  | _ => none

def defaultReadDays : Int := 7

def readPageLimit? : String → Option Int
  | "slack.channels.list" | "slack.private_channels.list"
  | "slack.users.list" => some 200
  | "slack.conversation.read" | "slack.thread.read"
  | "slack.private_conversation.read" | "slack.private_thread.read" => some 100
  | _ => none

def privateReadCapabilities : List String :=
  ["slack.private_conversation.read", "slack.private_thread.read",
    "slack.private_channels.list"]

def channelLists : List String :=
  ["slack.channels.list", "slack.private_channels.list"]

/-- `_private_read_capability`, of a thread's `thread_ts`. -/
def privateReadCapability (threadTs : Value) (isPrivate : Bool) : String :=
  if threadTs.truthy then
    if isPrivate then "slack.private_thread.read" else "slack.thread.read"
  else if isPrivate then "slack.private_conversation.read"
  else "slack.conversation.read"

def chosenReadCapability (operation : String)
    (resolved : ConversationState) : Except ServiceError String := do
  let isPrivate ← entityItem resolved .activeChannel "is_private"
  if operation == "read" || operation == "summarize" then
    let threadTs ← entityItem resolved .activeThread "thread_ts"
    pure (privateReadCapability threadTs isPrivate.truthy)
  else match readCapability? operation with
    | some capabilityId => pure capabilityId
    | none => throw (.keyError operation)

structure Asked where
  tenantId : String
  principalId : String
  channel : Value
  capabilityId : String
  decision : Value

def Asked.allowed (asked : Asked) : Bool :=
  ((asked.decision.orEmpty.item? "allowed").getD .none).truthy

def requireRequesterVisibility (tenantId principalId : String)
    (resolved : ConversationState) (capabilityId : String) :
    Except ServiceError Asked := do
  match service.privateReadAuthorizer with
  | none =>
      throw (.permissionError
        ("requester_visibility_unverified:" ++ capabilityId))
  | some authorizer =>
      let channel ← entityItem resolved .activeChannel "id"
      let decision := authorizer tenantId principalId channel capabilityId
      match decision.orEmpty.item? "allowed" with
      | none => throw .attributeError
      | some allowed =>
          if allowed.truthy then
            pure { tenantId, principalId, channel, capabilityId, decision }
          else
            let reason := ((decision.orEmpty.item? "reason").getD
              .none).orElse (.str "not_a_member")
            throw (.permissionError
              ("requester_visibility_denied:" ++ service.library.str reason))

/-- `int(period.get("days") or DEFAULT_READ_DAYS)`. -/
def readDays (resolved : ConversationState) : Except ServiceError Int := do
  let days ← entityItem resolved .readPeriod "days"
  let period := days.orElse (.int defaultReadDays)
  match service.library.intOr? period, period with
  | some days, _ => pure days
  | none, .str _ => throw (.valueError "invalid literal for int()")
  | none, .float .nan =>
      throw (.valueError "cannot convert float NaN to integer")
  | none, .float _ => throw .overflowError
  | none, _ => throw .typeError

def periodItems (days : Int) : List (String × Value) :=
  [("oldest", .str (toString (service.now - days * 86400))),
    ("latest", .str (toString service.now))]

def messageItems (capabilityId : String) (resolved : ConversationState)
    (threadTs : Value) : Except ServiceError (List (String × Value)) :=
  if capabilityId == "slack.private_conversation.read" then .ok []
  else if capabilityId == "slack.private_thread.read" then
    .ok [("thread_ts", threadTs)]
  else (readDays service resolved).map fun days =>
    if capabilityId == "slack.thread.read" then
      periodItems service days ++ [("thread_ts", threadTs)]
    else periodItems service days

def messageInput (capabilityId : String) (resolved : ConversationState)
    (limit : Int) : Except ServiceError Value := do
  let threadChannel ← entityItem resolved .activeThread "channel_id"
  let channel ← entityItem resolved .activeChannel "id"
  let threadTs ← entityItem resolved .activeThread "thread_ts"
  let channelId := threadChannel.orElse channel
  require channelId.truthy (.valueError "Slack read target is unresolved")
  let items ← messageItems service capabilityId resolved threadTs
  pure (.dict (("channel_id", channelId) :: ("limit", .int limit) :: items))

def slackReadInput (capabilityId : String) (resolved : ConversationState) :
    Except ServiceError Value :=
  match readPageLimit? capabilityId with
  | none => .error (.keyError capabilityId)
  | some limit =>
      if channelLists.contains capabilityId then
        .ok (.dict [("limit", .int limit)])
      else messageInput service capabilityId resolved limit

def plannedStep (connection : Installation) (definition : Definition)
    (stepId : String) (input : Value) (effect : StepEffect) : PlannedStep where
  stepId
  capabilityId := definition.capabilityId
  capabilityVersion := definition.version
  connectionId := some connection.connectionId
  descriptorSnapshotHash := definition.descriptorHash
  credentialVersion := some connection.credentialVersion
  inputHash := service.hash input
  input
  effect

def slackDirectoryStep (capabilityId : String) (connection : Installation) :
    Option PlannedStep :=
  if channelLists.contains capabilityId then none
  else match service.definition? "slack.users.list" with
    | none => none
    | some definition =>
        if connection.offers definition then
          some (plannedStep service connection definition
            "slack-read-directory"
            (.dict [("limit",
              .int ((readPageLimit? "slack.users.list").getD 0))]) .read)
        else none

def effectValue : StepEffect → Value
  | .read => .str "read"
  | .write => .str "write"

def stepValue (step : PlannedStep) : Value :=
  .dict [("step_id", .str step.stepId),
    ("capability_id", .str step.capabilityId),
    ("capability_version", .str step.capabilityVersion),
    ("connection_id", (step.connectionId.map Value.str).getD .none),
    ("descriptor_snapshot_hash", .str step.descriptorSnapshotHash),
    ("credential_version", .int (step.credentialVersion.getD 0)),
    ("input", step.input), ("input_hash", .str step.inputHash),
    ("depends_on", .list (step.dependsOn.map Value.str)),
    ("effect", effectValue step.effect)]

structure ReadPlan where
  steps : List PlannedStep
  asked : Option Asked

def askVisibility (tenantId principalId : String) (resolved : ConversationState)
    (capabilityId : String) : Except ServiceError (Option Asked) :=
  if privateReadCapabilities.contains capabilityId then
    (requireRequesterVisibility service tenantId principalId resolved
      capabilityId).map some
  else .ok none

/-- `dict(payload, cursor=cursor)` where the capability takes a cursor. -/
def pagedInput (cursor : Value) (definition : Definition) :
    Value → Value
  | .dict items =>
      if cursor.truthy && definition.paged then
        .dict (items ++ [("cursor", cursor)])
      else .dict items
  | other => other

/-- `_dispatch_slack_read` in front of its calls of the repository. -/
def planSlackRead (tenantId principalId operation : String)
    (resolved : ConversationState) (cursor : Value) :
    Except ServiceError ReadPlan := do
  let capabilityId ← chosenReadCapability operation resolved
  let connectionId ← entityItem resolved .activeConnection "id"
  let offered ← service.offered connectionId capabilityId
  let asked ← askVisibility service tenantId principalId resolved capabilityId
  let input ← slackReadInput service capabilityId resolved
  pure {
    steps := plannedStep service offered.1 offered.2
        ("slack-read-" ++ operation) (pagedInput cursor offered.2 input)
        .read ::
      (slackDirectoryStep service capabilityId offered.1).toList
    asked }

structure FreshIds where
  workflowRunId : String
  workflowRevisionId : String

structure DispatchedRead where
  ids : FreshIds
  plan : ReadPlan

def readGraphHash (tenantId : String) (steps : List PlannedStep) : String :=
  service.hash (.dict [("tenant_id", .str tenantId),
    ("steps", .list (steps.map stepValue))])

def dispatchSlackRead (store : WorkflowStore)
    (tenantId principalId operation : String) (resolved : ConversationState)
    (cursor : Value) (ids : FreshIds) :
    Except ServiceError DispatchedRead × WorkflowStore :=
  match planSlackRead service tenantId principalId operation resolved
      cursor with
  | .error error => (.error error, store)
  | .ok plan =>
      let graphHash := readGraphHash service tenantId plan.steps
      let created := createRun store ids.workflowRunId tenantId principalId
        (service.hash (.str ("read:" ++ operation))) service.now
      match created.1 with
      | .error error => (.error (.workflow error), created.2)
      | .ok () =>
          let revised := createRevision created.2 ids.workflowRevisionId
            ids.workflowRunId tenantId graphHash plan.steps service.now
            service.contentTtlSeconds
          match revised.1 with
          | .error error => (.error (.workflow error), revised.2)
          | .ok () =>
              let authorized := authorizeRequestedRead revised.2
                ids.workflowRunId ids.workflowRevisionId tenantId graphHash
                principalId service.now service.approvalTtlSeconds
              (match authorized.1 with
                | .error error => .error (.workflow error)
                | .ok () => .ok ⟨ids, plan⟩, authorized.2)

end AcpTask.Slack
