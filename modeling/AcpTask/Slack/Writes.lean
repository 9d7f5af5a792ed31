import AcpTask.Concierge.Turns
import AcpTask.Slack.Compound
import AcpTask.Slack.Reads

namespace AcpTask.Slack

open Concierge Data Library Workflow

/-! A write of a conversation, and the dispatch of one effect of its group. -/

def slackWrites : List String :=
  ["slack.message.send", "slack.thread.reply", "slack.direct_message.send"]

structure Made where
  effectId : String
  workflowRevisionId : String
  deriving DecidableEq

/-- The world around a group: what the service is configured with, the workflow
repository, the conversation, and the identifiers still to be drawn. -/
structure SlackWorld where
  service : Service
  store : WorkflowStore
  conversation : Conversation
  draw : Nat → FreshIds
  drawn : Nat
  conversationTtlSeconds : Nat
  made : List Made

structure Destination where
  items : List (String × Value)
  label : Value
  entityVersion : String

/-- `prefix % name if name else None`. -/
def labelled (service : Service) (before after : String) (name : Value) :
    Value :=
  if name.truthy then .str (before ++ service.library.str name ++ after)
  else .none

def entity (state : ConversationState) (field : StateField) : Value :=
  (state.value field).orEmpty

def destination (service : Service) (state : ConversationState)
    (capabilityId : String) : Except ServiceError Destination :=
  if capabilityId == "slack.message.send" then do
    let channelId ← entityItem state .activeChannel "id"
    let name ← entityItem state .activeChannel "name"
    pure ⟨[("channel_id", channelId)], labelled service "#" "" name,
      service.hash (entity state .activeChannel)⟩
  else if capabilityId == "slack.thread.reply" then do
    let threadChannel ← entityItem state .activeThread "channel_id"
    let channelId ← entityItem state .activeChannel "id"
    let threadTs ← entityItem state .activeThread "thread_ts"
    let name ← entityItem state .activeChannel "name"
    pure ⟨[("channel_id", threadChannel.orElse channelId),
        ("thread_ts", threadTs)],
      (labelled service "#" " thread" name).orElse (.str "Slack thread"),
      service.hash (.dict [("channel", entity state .activeChannel),
        ("thread", entity state .activeThread)])⟩
  else do
    let userId ← entityItem state .activePerson "id"
    let displayName ← entityItem state .activePerson "display_name"
    let realName ← entityItem state .activePerson "real_name"
    let handle ← entityItem state .activePerson "handle"
    pure ⟨[("user_id", userId)], displayName.orElse (realName.orElse handle),
      service.hash (entity state .activePerson)⟩

def isFilledText : Value → Bool
  | .str text => text != ""
  | _ => false

/-- `isinstance(text, str) and text.strip()`. -/
def saysSomething (service : Service) : Value → Bool
  | .str text => !text.toList.all service.library.isSpace
  | _ => false

structure WritePlan where
  connection : Installation
  definition : Definition
  payload : Value
  label : Value
  entityVersion : String

/-- `materialize_slack_write` before it reads the conversation. -/
def writeAllowed (service : Service) (capabilityId : String) (text : Value) :
    Except ServiceError Unit := do
  require (slackWrites.contains capabilityId)
    (.valueError "unsupported Slack write capability")
  require service.slackWritesEnabled
    (.permissionError "feature_disabled:slack_writes")
  require (capabilityId != "slack.direct_message.send" ||
      service.slackDmsEnabled)
    (.permissionError "feature_disabled:slack_dms")
  require (saysSomething service text)
    (.valueError "exact message text is required")

/-- `materialize_slack_write` from the conversation as far as the target. -/
def planSlackWrite (service : Service) (state : ConversationState)
    (capabilityId : String) (text : Value) :
    Except ServiceError WritePlan := do
  let connectionId ← entityItem state .activeConnection "id"
  match service.connection? connectionId with
  | none => .error (.valueError "Slack connection is unavailable")
  | some connection =>
      require (connection.status == "connected")
        (.valueError "Slack connection is unavailable")
      match service.definition? capabilityId with
      | none => .error (missingScope none)
      | some definition =>
          require (connection.offers definition)
            (missingScope (some definition))
          let target ← destination service state capabilityId
          let items := ("text", text) :: target.items
          require (items.all fun item => isFilledText item.2)
            (.valueError "Slack write target is unresolved")
          pure ⟨connection, definition, .dict items, target.label,
            target.entityVersion⟩

def WritePlan.step (plan : WritePlan) (service : Service) : PlannedStep :=
  plannedStep service plan.connection plan.definition "slack-write"
    plan.payload .write

def WritePlan.binding (plan : WritePlan) (service : Service) :
    List (String × Value) :=
  [("capability_id", .str plan.definition.capabilityId),
    ("connection_id", .str plan.connection.connectionId),
    ("credential_version", .int plan.connection.credentialVersion),
    ("destination_label", plan.label),
    ("entity_version", .str plan.entityVersion),
    ("payload_hash", .str (service.hash plan.payload))]

def WritePlan.graphHash (plan : WritePlan) (service : Service)
    (tenantId : String) : String :=
  service.hash (.dict [("tenant_id", .str tenantId),
    ("steps", .list [stepValue (plan.step service)]),
    ("binding", .dict (plan.binding service))])

/-- The pending draft; `draft_hash` covers the rest of it. -/
def WritePlan.draft (plan : WritePlan) (service : Service)
    (tenantId workflowRunId workflowRevisionId : String) (text : Value) :
    Value :=
  let items := plan.binding service ++ [
    ("plan_graph_hash", .str (plan.graphHash service tenantId)),
    ("text", text),
    ("workflow_revision_id", .str workflowRevisionId),
    ("workflow_run_id", .str workflowRunId)]
  .dict (items ++ [("draft_hash", .str (service.hash (.dict items)))])

def draftChanges (draft : Value) (workflowRunId workflowRevisionId : String) :
    Changes where
  status := some (.str "awaiting_approval")
  workflowRunId := some (some workflowRunId)
  workflowRevisionId := some (some workflowRevisionId)
  fields
    | .pendingDraft => some draft
    | _ => none

def conversationRun (store : WorkflowStore) (conversation : Conversation) :
    Option String :=
  (conversation.workflowRunId.filter fun id => id != "").filter fun id =>
    (store.runs.find? id).any fun run => run.tenantId == conversation.tenantId

def writeRun (world : SlackWorld) (ids : FreshIds) :
    Except WorkflowError String × WorkflowStore :=
  match conversationRun world.store world.conversation with
  | some workflowRunId => (.ok workflowRunId, world.store)
  | none =>
      let created := createRun world.store ids.workflowRunId
        world.conversation.tenantId world.conversation.principalId
        (world.service.hash (.str "slack-write")) world.service.now
      (created.1.map fun _ => ids.workflowRunId, created.2)

def storeSlackWrite (world : SlackWorld) (plan : WritePlan) (text : Value) :
    Except ServiceError String × SlackWorld :=
  let ids := world.draw world.drawn
  let tenantId := world.conversation.tenantId
  let begun := writeRun world ids
  let later := { world with drawn := world.drawn + 1 }
  match begun.1 with
  | .error error => (.error (.workflow error), { later with store := begun.2 })
  | .ok workflowRunId =>
      let revised := createRevision begun.2 ids.workflowRevisionId
        workflowRunId tenantId (plan.graphHash world.service tenantId)
        [plan.step world.service] world.service.now
        world.service.contentTtlSeconds
      match revised.1 with
      | .error error =>
          (.error (.workflow error), { later with store := revised.2 })
      | .ok () =>
          let updated := updateConversation world.conversation
            (draftChanges (plan.draft world.service tenantId workflowRunId
              ids.workflowRevisionId text) workflowRunId
              ids.workflowRevisionId)
            world.service.now world.conversationTtlSeconds none
          (match updated.1 with
            | .error error => .error (.conversation error)
            | .ok _ => .ok ids.workflowRevisionId,
            { later with store := revised.2, conversation := updated.2 })

def materializeSlackWrite (world : SlackWorld) (capabilityId : String)
    (text : Value) : Except ServiceError String × SlackWorld :=
  match writeAllowed world.service capabilityId text with
  | .error error => (.error error, world)
  | .ok () =>
      let read := getConversation world.conversation world.service.now false
      let seen := { world with conversation := read.2 }
      match read.1 with
      | none => (.error (.keyError "conversation unavailable"), seen)
      | some conversation =>
          match planSlackWrite world.service conversation.state capabilityId
              text with
          | .error error => (.error error, seen)
          | .ok plan => storeSlackWrite seen plan text

def effectFields : List StateField :=
  [.activeConnection, .activeChannel, .activePerson, .activeThread, .readPeriod]

def effectResolved (state : ConversationState) : ConversationState :=
  fun field => if field ∈ effectFields then state.present field else none

def dispatchReadEffect (world : SlackWorld) :
    Except ServiceError String × SlackWorld :=
  let read := dispatchSlackRead world.service world.store
    world.conversation.tenantId world.conversation.principalId "read"
    (effectResolved world.conversation.state) .none (world.draw world.drawn)
  (read.1.map fun read => read.ids.workflowRevisionId,
    { world with store := read.2, drawn := world.drawn + 1 })

def dispatchWriteEffect (world : SlackWorld) (effect : Effect) :
    Except ServiceError String × SlackWorld :=
  match entityItem world.conversation.state .knownInputs "message" with
  | .error error => (.error error, world)
  | .ok text => materializeSlackWrite world effect.capabilityId text

def dispatchEffectOf (world : SlackWorld) (effect : Effect) :
    Except ServiceError String × SlackWorld :=
  match effect.effectKind with
  | .read => dispatchReadEffect world
  | .write => dispatchWriteEffect world effect

/-- `_dispatch_one_effect`, as the loop sees it end. -/
def dispatchOneEffect (world : SlackWorld) (effect : Effect) :
    DispatchAnswer × SlackWorld :=
  let dispatched := dispatchEffectOf world effect
  match dispatched.1 with
  | .ok workflowRevisionId =>
      (.done, { dispatched.2 with
        made := ⟨effect.effectId, workflowRevisionId⟩ :: dispatched.2.made })
  | .error error => (if error.caught then .refused else .raised, dispatched.2)

end AcpTask.Slack
