import AcpTask.Slack.Reads
import AcpTask.Workflow.Revisions

namespace AcpTask.Slack

open Concierge Data Library Workflow

/-! Which channel a private read was let through for, and which it reads. -/

def threadChannel (resolved : ConversationState) : Value :=
  ((resolved.value .activeThread).orEmpty.item? "channel_id").getD .none

def activeChannel (resolved : ConversationState) : Value :=
  ((resolved.value .activeChannel).orEmpty.item? "id").getD .none

def privateMessageReads : List String :=
  ["slack.private_conversation.read", "slack.private_thread.read"]

def ReadPlan.AuthorizedFor (plan : ReadPlan) (tenantId principalId : String)
    (channel : Option Value) : Prop :=
  ∃ asked, plan.asked = some asked ∧ asked.tenantId = tenantId ∧
    asked.principalId = principalId ∧ asked.allowed = true ∧
    channel = some asked.channel

section Plan

variable {service : Service} {store later : WorkflowStore}
  {tenantId principalId operation : String} {resolved : ConversationState}
  {cursor : Value} {ids : FreshIds}

theorem entityItem_eq_ok {field : StateField} {key : String} {value : Value} :
    entityItem resolved field key = .ok value ↔
      (resolved.value field).orEmpty.item? key = some value := by
  unfold entityItem
  split
  · rename_i found
    rw [found, Except.ok.injEq, Option.some.injEq]
  · rename_i absent
    simp [absent]

variable {capabilityId : String}

theorem offered_ok {connectionId : Value} {connection : Installation}
    {definition : Definition}
    (offered : service.offered connectionId capabilityId =
      .ok (connection, definition)) :
    definition.capabilityId = capabilityId := by
  unfold Service.offered at offered
  split at offered
  · rename_i found
    split at offered
    · cases offered
      simpa using List.find?_some found
    · cases offered
  · cases offered

structure Planned (service : Service)
    (tenantId principalId operation : String) (resolved : ConversationState)
    (cursor : Value) (plan : ReadPlan) (capabilityId : String)
    (input : Value) : Prop where
  chosen : chosenReadCapability operation resolved = .ok capabilityId
  bounded : slackReadInput service capabilityId resolved = .ok input
  steps : ∃ connection definition, definition.capabilityId = capabilityId ∧
    plan.steps = plannedStep service connection definition
        ("slack-read-" ++ operation) (pagedInput cursor definition input)
        .read ::
      (slackDirectoryStep service capabilityId connection).toList
  asked : askVisibility service tenantId principalId resolved capabilityId =
    .ok plan.asked

theorem planSlackRead_ok {plan : ReadPlan}
    (planned : planSlackRead service tenantId principalId operation resolved
      cursor = .ok plan) :
    ∃ capabilityId input, Planned service tenantId principalId operation
      resolved cursor plan capabilityId input := by
  unfold planSlackRead at planned
  obtain ⟨capabilityId, chosen, planned⟩ := bind_eq_ok.mp planned
  obtain ⟨_, _, planned⟩ := bind_eq_ok.mp planned
  obtain ⟨⟨connection, definition⟩, offered, planned⟩ := bind_eq_ok.mp planned
  obtain ⟨_, question, planned⟩ := bind_eq_ok.mp planned
  obtain ⟨input, bounded, planned⟩ := bind_eq_ok.mp planned
  cases planned
  exact ⟨capabilityId, input, chosen, bounded,
    ⟨connection, definition, offered_ok offered, rfl⟩, question⟩

theorem requireRequesterVisibility_ok {asked : Asked}
    (answered : requireRequesterVisibility service tenantId principalId
      resolved capabilityId = .ok asked) :
    asked.tenantId = tenantId ∧ asked.principalId = principalId ∧
      asked.channel = activeChannel resolved ∧ asked.allowed = true := by
  unfold requireRequesterVisibility at answered
  split at answered
  · cases answered
  · obtain ⟨channel, found, answered⟩ := bind_eq_ok.mp answered
    have active : activeChannel resolved = channel := by
      rw [activeChannel, entityItem_eq_ok.mp found, Option.getD_some]
    dsimp only at answered
    split at answered
    · cases answered
    · rename_i allowed present
      split at answered
      · rename_i granted
        cases answered
        refine ⟨rfl, rfl, active.symm, ?_⟩
        rw [Asked.allowed, present, Option.getD_some]
        exact granted
      · cases answered

theorem askVisibility_ok {asked : Option Asked}
    (isPrivate : capabilityId ∈ privateMessageReads)
    (answered : askVisibility service tenantId principalId resolved
      capabilityId = .ok asked) :
    ∃ question, asked = some question ∧ question.tenantId = tenantId ∧
      question.principalId = principalId ∧
      question.channel = activeChannel resolved ∧
      question.allowed = true := by
  have privately : privateReadCapabilities.contains capabilityId = true := by
    rcases List.mem_pair.mp isPrivate with rfl | rfl <;> rfl
  rw [askVisibility, if_pos privately] at answered
  cases answer : requireRequesterVisibility service tenantId principalId
      resolved capabilityId with
  | error =>
      rw [answer] at answered
      cases answered
  | ok question =>
      rw [answer] at answered
      cases answered
      exact ⟨question, rfl, requireRequesterVisibility_ok answer⟩

theorem slackReadInput_channel {input : Value}
    (isPrivate : capabilityId ∈ privateMessageReads)
    (bounded : slackReadInput service capabilityId resolved = .ok input)
    (cursor : Value) (definition : Definition) :
    (pagedInput cursor definition input).item? "channel_id" =
      some ((threadChannel resolved).orElse (activeChannel resolved)) := by
  have messages : ∃ limit,
      messageInput service capabilityId resolved limit = .ok input := by
    rcases List.mem_pair.mp isPrivate with rfl | rfl <;> exact ⟨100, bounded⟩
  obtain ⟨_, messages⟩ := messages
  unfold messageInput at messages
  obtain ⟨_, thread, messages⟩ := bind_eq_ok.mp messages
  obtain ⟨_, channel, messages⟩ := bind_eq_ok.mp messages
  obtain ⟨threadTs, _, messages⟩ := bind_eq_ok.mp messages
  obtain ⟨_, _, messages⟩ := bind_eq_ok.mp messages
  obtain ⟨items, behind, messages⟩ := bind_eq_ok.mp messages
  cases messages
  rw [threadChannel, entityItem_eq_ok.mp thread, activeChannel,
    entityItem_eq_ok.mp channel, Option.getD_some, Option.getD_some]
  have others : items = [] ∨ items = [("thread_ts", threadTs)] := by
    rcases List.mem_pair.mp isPrivate with rfl | rfl
    · cases behind
      exact .inl rfl
    · cases behind
      exact .inr rfl
  simp only [pagedInput]
  rcases others with rfl | rfl <;> split <;> rfl

theorem directoryStep_public {connection : Installation} {step : PlannedStep}
    (member : step ∈ slackDirectoryStep service capabilityId connection) :
    step.capabilityId = "slack.users.list" := by
  unfold slackDirectoryStep at member
  split at member
  · cases member
  · split at member
    · cases member
    · rename_i definition found
      split at member
      · cases member
        have named := List.find?_some found
        exact beq_iff_eq.mp named
      · cases member

section Dispatched

variable {read : DispatchedRead}
  (dispatched : dispatchSlackRead service store tenantId principalId operation
    resolved cursor ids = (.ok read, later))

include dispatched

theorem dispatchSlackRead_ok :
    planSlackRead service tenantId principalId operation resolved cursor =
        .ok read.plan ∧ read.ids = ids ∧
      ∃ begun revised,
        createRun store ids.workflowRunId tenantId principalId
          (service.hash (.str ("read:" ++ operation))) service.now =
            (.ok (), begun) ∧
        createRevision begun ids.workflowRevisionId ids.workflowRunId tenantId
          (readGraphHash service tenantId read.plan.steps) read.plan.steps
          service.now service.contentTtlSeconds = (.ok (), revised) ∧
        authorizeRequestedRead revised ids.workflowRunId
          ids.workflowRevisionId tenantId
          (readGraphHash service tenantId read.plan.steps) principalId
          service.now service.approvalTtlSeconds = (.ok (), later) := by
  unfold dispatchSlackRead at dispatched
  split at dispatched
  · cases dispatched
  · rename_i plan planning
    dsimp only at dispatched
    split at dispatched
    · cases dispatched
    · rename_i begun
      split at dispatched
      · cases dispatched
      · rename_i revised
        split at dispatched
        · cases dispatched
        · rename_i authorized
          cases dispatched
          exact ⟨planning, rfl, _, _, Prod.ext begun rfl,
            Prod.ext revised rfl, Prod.ext authorized rfl⟩

theorem dispatchSlackRead_steps :
    ∀ planned ∈ read.plan.steps,
      later.steps.find? (ids.workflowRevisionId, planned.stepId) =
        some (planned.row ids.workflowRevisionId ids.workflowRunId tenantId
          service.now service.contentTtlSeconds) := by
  obtain ⟨_, _, _, _, _, created, authorized⟩ := dispatchSlackRead_ok dispatched
  rw [(authorizeRequestedRead_ok authorized).1]
  exact (createRevision_ok created).planned

end Dispatched

theorem private_read_authorized_iff {read : DispatchedRead}
    (dispatched : dispatchSlackRead service store tenantId principalId
      operation resolved cursor ids = (.ok read, later))
    {planned : PlannedStep} (member : planned ∈ read.plan.steps) {row : Step}
    (created : later.steps.find? (ids.workflowRevisionId, planned.stepId) =
      some row)
    (isPrivate : row.capabilityId ∈ privateMessageReads) :
    read.plan.AuthorizedFor tenantId principalId
        (row.input.item? "channel_id") ↔
      (threadChannel resolved).truthy = false ∨
        threadChannel resolved = activeChannel resolved := by
  obtain ⟨planning, _⟩ := dispatchSlackRead_ok dispatched
  rw [dispatchSlackRead_steps dispatched planned member] at created
  cases created
  change planned.capabilityId ∈ privateMessageReads at isPrivate
  change read.plan.AuthorizedFor tenantId principalId
    (planned.input.item? "channel_id") ↔ _
  obtain ⟨_, input, behind⟩ := planSlackRead_ok planning
  obtain ⟨_, definition, same, steps⟩ := behind.steps
  rw [steps] at member
  rcases List.mem_cons.mp member with rfl | directory
  · change definition.capabilityId ∈ privateMessageReads at isPrivate
    rw [same] at isPrivate
    obtain ⟨question, answered, tenant, principal, channel, allowed⟩ :=
      askVisibility_ok isPrivate behind.asked
    have reads := slackReadInput_channel isPrivate behind.bounded cursor
      definition
    change read.plan.AuthorizedFor tenantId principalId
      ((pagedInput cursor definition input).item? "channel_id") ↔ _
    rw [reads]
    constructor
    · rintro ⟨_, same, _, _, _, read⟩
      rw [answered, Option.some.injEq] at same
      rw [← same, channel, Option.some.injEq, Value.orElse] at read
      cases named : (threadChannel resolved).truthy with
      | false => exact .inl rfl
      | true =>
          rw [named, if_pos rfl] at read
          exact .inr read
    · intro agrees
      refine ⟨question, answered, tenant, principal, allowed, ?_⟩
      rw [channel, Value.orElse]
      rcases agrees with unnamed | same
      · rw [unnamed, if_neg Bool.false_ne_true]
      · rw [same, ite_self]
  · have listing := directoryStep_public (Option.mem_toList.mp directory)
    rw [listing] at isPrivate
    exact absurd isPrivate (by decide)

end Plan

def memberOfC9 : Authorizer := fun _ _ channel _ =>
  .dict [("allowed", .bool (channel.isText "C9"))]

def slackService : Service where
  library := {
    str := fun value => value.asStr?.getD "None"
    int := fun _ => none
    nfkd := id
    combining := fun _ => false
    lower := id
    isSpace := fun character => character == ' '
    instant := fun _ _ => none }
  hash := fun _ => "hash"
  definitions := [
    ⟨"slack.conversation.read", "1", ["channels:history"], true, "d1"⟩,
    ⟨"slack.private_conversation.read", "1", ["groups:history"], true, "d2"⟩,
    ⟨"slack.private_thread.read", "1", ["groups:history"], true, "d3"⟩,
    ⟨"slack.message.send", "1", ["chat:write"], false, "d4"⟩]
  installations := [
    ⟨"connection", "connected",
      ["slack.conversation.read", "slack.private_conversation.read",
        "slack.private_thread.read", "slack.message.send"],
      ["channels:history", "chat:write", "groups:history"], 1⟩]
  privateReadAuthorizer := some memberOfC9
  slackWritesEnabled := true
  slackDmsEnabled := true
  now := 1000000
  contentTtlSeconds := 86400
  approvalTtlSeconds := 3600

/-- "C9" is the active channel, and the thread is where `thread` says. -/
def resolvedIn (thread : Value) : ConversationState
  | .activeConnection => some (.dict [("id", .str "connection")])
  | .activeChannel =>
      some (.dict [("id", .str "C9"), ("is_private", .bool true)])
  | .activeThread => some thread
  | _ => none

def readPrivately (thread : Value) :
    Except ServiceError DispatchedRead × WorkflowStore :=
  dispatchSlackRead slackService WorkflowStore.empty "tenant" "user" "read"
    (resolvedIn thread) .none ⟨"run", "revision"⟩

def threadIn (channel : String) : Value :=
  .dict [("channel_id", .str channel), ("thread_ts", .str "1710.1")]

/-- The capability and the channel of a plan's first step, and the channel the
authorizer was asked about. -/
def ReadPlan.channels (plan : ReadPlan) :
    Option (String × Option Value) × Option Value :=
  (plan.steps.head?.map fun step =>
      (step.capabilityId, step.input.item? "channel_id"),
    plan.asked.map Asked.channel)

theorem readPrivately_channels {thread : Value} {capabilityId : String}
    {channel asked : Option Value}
    (channels : (readPrivately thread).1.toOption.map
      (fun read => read.plan.channels) =
        some (some (capabilityId, channel), asked)) :
    ∃ read planned row, (readPrivately thread).1 = .ok read ∧
      planned ∈ read.plan.steps ∧
      (readPrivately thread).2.steps.find? ("revision", planned.stepId) =
        some row ∧
      row.capabilityId = capabilityId ∧
      row.input.item? "channel_id" = channel ∧
      read.plan.asked.map Asked.channel = asked := by
  cases result : (readPrivately thread).1 with
  | error =>
      rw [result] at channels
      cases channels
  | ok read =>
      rw [result] at channels
      obtain ⟨first, question⟩ := Prod.mk.inj (Option.some.inj channels)
      obtain ⟨planned, head, facts⟩ := Option.map_eq_some_iff.mp first
      obtain ⟨capability, reads⟩ := Prod.mk.inj facts
      have member := List.mem_of_head? head
      exact ⟨read, planned, _, rfl, member,
        dispatchSlackRead_steps (Prod.ext result rfl) planned member,
        capability, reads, question⟩

theorem private_read_authorized_in_c9 :
    ∃ read planned row, (readPrivately (threadIn "C9")).1 = .ok read ∧
      planned ∈ read.plan.steps ∧
      (readPrivately (threadIn "C9")).2.steps.find?
        ("revision", planned.stepId) = some row ∧
      (read.plan.AuthorizedFor "tenant" "user"
          (row.input.item? "channel_id") ↔
        (threadChannel (resolvedIn (threadIn "C9"))).truthy = false ∨
          threadChannel (resolvedIn (threadIn "C9")) =
            activeChannel (resolvedIn (threadIn "C9"))) := by
  have channels : (readPrivately (threadIn "C9")).1.toOption.map
      (fun read => read.plan.channels) =
        some (some ("slack.private_thread.read", some (.str "C9")),
          some (.str "C9")) := by decide +kernel
  obtain ⟨read, planned, row, result, member, created, capability, _⟩ :=
    readPrivately_channels channels
  have isPrivate : row.capabilityId ∈ privateMessageReads := by
    rw [capability]
    decide
  exact ⟨read, planned, row, result, member, created,
    private_read_authorized_iff (Prod.ext result rfl) member created isPrivate⟩

/-- The authorizer is asked about "C9", and "C8" is read. -/
theorem thread_read_elsewhere :
    ¬ ∀ (service : Service) (store later : WorkflowStore)
        (tenantId principalId operation : String)
        (resolved : ConversationState) (cursor : Value) (ids : FreshIds)
        (read : DispatchedRead) (planned : PlannedStep) (row : Step),
      dispatchSlackRead service store tenantId principalId operation resolved
          cursor ids = (.ok read, later) →
      planned ∈ read.plan.steps →
      later.steps.find? (ids.workflowRevisionId, planned.stepId) = some row →
      row.capabilityId ∈ privateMessageReads →
      read.plan.AuthorizedFor tenantId principalId
        (row.input.item? "channel_id") := by
  intro authorized
  have channels : (readPrivately (threadIn "C8")).1.toOption.map
      (fun read => read.plan.channels) =
        some (some ("slack.private_thread.read", some (.str "C8")),
          some (.str "C9")) := by decide +kernel
  obtain ⟨_, _, row, result, member, created, capability, reads,
    question⟩ := readPrivately_channels channels
  have isPrivate : row.capabilityId ∈ privateMessageReads := by
    rw [capability]
    decide
  obtain ⟨_, same, _, _, _, channel⟩ := authorized _ _ _ _ _ _ _ _ _ _ _ _
    (Prod.ext result rfl) member created isPrivate
  rw [same, Option.map_some, Option.some.injEq] at question
  rw [reads, question, Option.some.injEq] at channel
  revert channel
  decide

end AcpTask.Slack
