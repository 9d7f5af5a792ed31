import AcpTask.Slack.Siblings

namespace AcpTask.Slack

open Concierge Data Library Workflow

/-! The approval of a pending draft, and what a draft and its step say of where
the message goes. -/

def targetValue (state : ConversationState) (capabilityId : Value) : Value :=
  if capabilityId.isText "slack.message.send" then entity state .activeChannel
  else if capabilityId.isText "slack.thread.reply" then
    .dict [("channel", entity state .activeChannel),
      ("thread", entity state .activeThread)]
  else entity state .activePerson

def bindingChanged : ServiceError := .valueError "draft binding changed"

/-- `draft[key]`, which the repository compares with text of its own. -/
def draftText (draft : List (String × Value)) (key : String) :
    Except ServiceError String :=
  match Value.get? draft key with
  | none => .error (.keyError key)
  | some (.str text) => .ok text
  | some _ => .error .typeError

/-- `(conversation or {}).get("pending_draft") or {}`, of the hash given. -/
def pendingDraft (conversation : Option Conversation) (draftHash : Value) :
    Except ServiceError (List (String × Value)) :=
  match conversation with
  | none => .error bindingChanged
  | some conversation =>
      let draft := (conversation.state.value .pendingDraft).orEmpty
      if !draft.truthy then .error bindingChanged
      else match draft with
        | .dict items =>
            if (Value.lookup items "draft_hash").equals draftHash then
              .ok items
            else .error bindingChanged
        | _ => .error .attributeError

/-- `approve_slack_draft` between the draft and the record of its approval. -/
def draftStands (service : Service) (state : ConversationState)
    (draft : List (String × Value)) : Except ServiceError Unit := do
  let capabilityId := Value.lookup draft "capability_id"
  require service.slackWritesEnabled
    (.permissionError "feature_disabled:slack_writes")
  require (!capabilityId.isText "slack.direct_message.send" ||
      service.slackDmsEnabled)
    (.permissionError "feature_disabled:slack_dms")
  require ((Value.lookup draft "entity_version").isText
      (service.hash (targetValue state capabilityId)))
    bindingChanged
  match service.connection? (Value.lookup draft "connection_id") with
  | none => .error bindingChanged
  | some connection =>
      require (connection.status == "connected" &&
          (Value.int connection.credentialVersion).equals
            (Value.lookup draft "credential_version"))
        bindingChanged

/-- `record_approval` of a draft, by the conversation's own principal. -/
def recordDraftApproval (world : SlackWorld) (draft : List (String × Value)) :
    Except ServiceError Unit × WorkflowStore :=
  match draftText draft "workflow_run_id",
      draftText draft "workflow_revision_id",
      draftText draft "plan_graph_hash" with
  | .ok workflowRunId, .ok workflowRevisionId, .ok planGraphHash =>
      let recorded := recordApproval world.store workflowRunId
        workflowRevisionId world.conversation.tenantId planGraphHash
        world.conversation.principalId world.service.now
        world.service.approvalTtlSeconds
      (recorded.1.mapError .workflow, recorded.2)
  | .error error, _, _ => (.error error, world.store)
  | _, .error error, _ => (.error error, world.store)
  | _, _, .error error => (.error error, world.store)

def executing : Changes where
  status := some (.str "executing")

def approveSlackDraft (world : SlackWorld) (draftHash : Value) :
    Except ServiceError Value × SlackWorld :=
  let read := getConversation world.conversation world.service.now false
  let seen := { world with conversation := read.2 }
  match pendingDraft read.1 draftHash with
  | .error error => (.error error, seen)
  | .ok draft =>
      match draftStands world.service read.2.state draft with
      | .error error => (.error error, seen)
      | .ok () =>
          let recorded := recordDraftApproval seen draft
          match recorded.1 with
          | .error error => (.error error, { seen with store := recorded.2 })
          | .ok () =>
              let updated := updateConversation read.2 executing
                world.service.now world.conversationTtlSeconds none
              (match updated.1 with
                | .error error => .error (.conversation error)
                | .ok _ => .ok (.dict draft),
                { seen with
                  store := recorded.2, conversation := updated.2 })

def addressee (capabilityId : String) : StateField :=
  if capabilityId == "slack.message.send" ||
      capabilityId == "slack.thread.reply" then .activeChannel
  else .activePerson

def addressKey (capabilityId : String) : String :=
  if capabilityId == "slack.message.send" ||
      capabilityId == "slack.thread.reply" then "channel_id"
  else "user_id"

def nameKeys : StateField → List String
  | .activePerson => ["display_name", "real_name", "handle"]
  | _ => ["name"]

def shownName (service : Service) (capabilityId : String) (name : Value) :
    Value :=
  if capabilityId == "slack.message.send" then
    .str ("#" ++ service.library.str name)
  else if capabilityId == "slack.thread.reply" then
    .str ("#" ++ service.library.str name ++ " thread")
  else name

def IsName (state : ConversationState) (field : StateField) (name : Value) :
    Prop :=
  name.truthy = true ∧
    ∃ key ∈ nameKeys field, entityItem state field key = .ok name

def NamesTarget (service : Service) (state : ConversationState)
    (capabilityId : String) (input label : Value) : Prop :=
  ∃ id name, input.item? (addressKey capabilityId) = some id ∧
    entityItem state (addressee capabilityId) "id" = .ok id ∧
    IsName state (addressee capabilityId) name ∧
    label = shownName service capabilityId name

/-- The entity has a name, and a thread that says its channel is in the active
one. -/
structure TargetShown (state : ConversationState) (capabilityId : String) :
    Prop where
  named : ∃ name, IsName state (addressee capabilityId) name
  inChannel : capabilityId = "slack.thread.reply" →
    ∀ channelId, entityItem state .activeThread "channel_id" = .ok channelId →
      channelId.truthy = true →
        entityItem state .activeChannel "id" = .ok channelId

section Labels

variable {service : Service} {state : ConversationState}
  {capabilityId : String} {text : Value}

theorem isName_channel {own name : Value}
    (read : entityItem state .activeChannel "name" = .ok own) :
    IsName state .activeChannel name ↔ name.truthy = true ∧ own = name := by
  simp [IsName, nameKeys, read]

theorem isName_person {display real handle name : Value}
    (displayed : entityItem state .activePerson "display_name" = .ok display)
    (called : entityItem state .activePerson "real_name" = .ok real)
    (handled : entityItem state .activePerson "handle" = .ok handle) :
    IsName state .activePerson name ↔ name.truthy = true ∧
      (display = name ∨ real = name ∨ handle = name) := by
  simp [IsName, nameKeys, displayed, called, handled]

theorem mem_slackWrites (listed : slackWrites.contains capabilityId = true) :
    capabilityId = "slack.message.send" ∨
      capabilityId = "slack.thread.reply" ∨
      capabilityId = "slack.direct_message.send" := by
  simpa [slackWrites] using listed

theorem destination_entityVersion {target : Destination}
    (listed : slackWrites.contains capabilityId = true)
    (found : destination service state capabilityId = .ok target) :
    target.entityVersion =
      service.hash (targetValue state (.str capabilityId)) := by
  rcases mem_slackWrites listed with rfl | rfl | rfl
  · simp [destination, bind_eq_ok, pure, Except.pure] at found
    obtain ⟨_, _, _, _, rfl⟩ := found
    rfl
  · simp [destination, bind_eq_ok, pure, Except.pure] at found
    obtain ⟨_, _, _, _, _, _, _, _, rfl⟩ := found
    rfl
  · simp [destination, bind_eq_ok, pure, Except.pure] at found
    obtain ⟨_, _, _, _, _, _, _, _, rfl⟩ := found
    rfl

theorem labelled_eq_shown {before after : String} {name : Value}
    (named : name.truthy = true) :
    labelled service before after name =
      .str (before ++ service.library.str name ++ after) := by
  rw [labelled, if_pos named]

theorem orElse_cases (first second : Value) :
    (first.truthy = true ∧ first.orElse second = first) ∨
      (first.truthy = false ∧ first.orElse second = second) := by
  unfold Value.orElse
  cases present : first.truthy with
  | true => exact .inl ⟨rfl, rfl⟩
  | false => exact .inr ⟨rfl, rfl⟩

theorem isName_first {display real handle name : Value}
    (displayed : entityItem state .activePerson "display_name" = .ok display)
    (called : entityItem state .activePerson "real_name" = .ok real)
    (handled : entityItem state .activePerson "handle" = .ok handle)
    (named : IsName state .activePerson name) :
    IsName state .activePerson (display.orElse (real.orElse handle)) := by
  obtain ⟨present, one⟩ := (isName_person displayed called handled).mp named
  rw [isName_person displayed called handled]
  rcases orElse_cases display (real.orElse handle) with
    ⟨first, chosen⟩ | ⟨noFirst, chosen⟩
  · rw [chosen]
    exact ⟨first, .inl rfl⟩
  · rcases orElse_cases real handle with
      ⟨second, taken⟩ | ⟨noSecond, taken⟩
    · rw [chosen, taken]
      exact ⟨second, .inr (.inl rfl)⟩
    · rw [chosen, taken]
      rcases one with rfl | rfl | rfl
      · simp [noFirst] at present
      · simp [noSecond] at present
      · exact ⟨present, .inr (.inr rfl)⟩

theorem namesTarget_iff {target : Destination}
    (listed : slackWrites.contains capabilityId = true)
    (found : destination service state capabilityId = .ok target) :
    NamesTarget service state capabilityId
        (.dict (("text", text) :: target.items)) target.label ↔
      TargetShown state capabilityId := by
  rcases mem_slackWrites listed with rfl | rfl | rfl
  · simp [destination, bind_eq_ok, pure, Except.pure] at found
    obtain ⟨channelId, channel, own, called, rfl⟩ := found
    constructor
    · rintro ⟨id, name, _, _, named, _⟩
      exact ⟨⟨name, named⟩, fun reply => absurd reply (by decide)⟩
    · rintro ⟨⟨name, named⟩, _⟩
      obtain ⟨present, rfl⟩ := (isName_channel called).mp named
      refine ⟨channelId, own, rfl, channel, named, ?_⟩
      rw [labelled_eq_shown present, String.append_empty]
      rfl
  · simp [destination, bind_eq_ok, pure, Except.pure] at found
    obtain ⟨threadChannel, inThread, channelId, channel, _, _, own,
      called, rfl⟩ := found
    constructor
    · rintro ⟨id, name, addressed, identified, named, _⟩
      refine ⟨⟨name, named⟩, fun _ other also present => ?_⟩
      obtain rfl : threadChannel = other :=
        Except.ok.inj (inThread.symm.trans also)
      have taken : threadChannel.orElse channelId = id :=
        Option.some.inj addressed
      rw [Value.orElse, if_pos present] at taken
      rw [taken]
      exact identified
    · rintro ⟨⟨name, named⟩, inChannel⟩
      obtain ⟨present, rfl⟩ := (isName_channel called).mp named
      refine ⟨threadChannel.orElse channelId, own, rfl, ?_, named, ?_⟩
      · rcases orElse_cases threadChannel channelId with
          ⟨said, taken⟩ | ⟨_, taken⟩
        · rw [taken]
          exact inChannel rfl threadChannel inThread said
        · rw [taken]
          exact channel
      · have shown : (labelled service "#" " thread" own).truthy = true := by
          simp [labelled_eq_shown present, Value.truthy]
        change (labelled service "#" " thread" own).orElse _ = _
        rw [Value.orElse, if_pos shown, labelled_eq_shown present]
        rfl
  · simp [destination, bind_eq_ok, pure, Except.pure] at found
    obtain ⟨userId, person, display, displayed, real, called, handle, handled,
      rfl⟩ := found
    constructor
    · rintro ⟨_, name, _, _, named, _⟩
      exact ⟨⟨name, named⟩, fun reply => absurd reply (by decide)⟩
    · rintro ⟨⟨_, named⟩, _⟩
      exact ⟨userId, display.orElse (real.orElse handle), rfl, person,
        isName_first displayed called handled named, rfl⟩

end Labels

section Calls

variable {world later : SlackWorld} {capabilityId id : String} {text : Value}
  {plan : WritePlan}

/-- A write that is planned: the connection it goes through, and the target
that its input, its label and its version are of. -/
structure WritePlanned (service : Service) (state : ConversationState)
    (capabilityId : String) (text : Value) (plan : WritePlan) : Prop where
  connection : ∃ reference, entityItem state .activeConnection "id" =
    .ok reference ∧ service.connection? reference = some plan.connection
  connected : plan.connection.status = "connected"
  capability : plan.definition.capabilityId = capabilityId
  target : ∃ target, destination service state capabilityId = .ok target ∧
    plan.payload = .dict (("text", text) :: target.items) ∧
    plan.label = target.label ∧ plan.entityVersion = target.entityVersion

theorem planSlackWrite_planned {state : ConversationState}
    (planned : planSlackWrite world.service state capabilityId text =
      .ok plan) : WritePlanned world.service state capabilityId text plan := by
  have capability := planSlackWrite_ok planned
  unfold planSlackWrite at planned
  obtain ⟨reference, read, planned⟩ := bind_eq_ok.mp planned
  split at planned
  · cases planned
  · rename_i connection found
    obtain ⟨_, connected, planned⟩ := bind_eq_ok.mp planned
    split at planned
    · cases planned
    · obtain ⟨_, _, planned⟩ := bind_eq_ok.mp planned
      obtain ⟨target, aimed, planned⟩ := bind_eq_ok.mp planned
      obtain ⟨_, _, planned⟩ := bind_eq_ok.mp planned
      cases planned
      exact ⟨⟨reference, read, found⟩,
        beq_iff_eq.mp (require_eq_ok.mp connected), capability, target, aimed,
        rfl, rfl, rfl⟩

theorem writeAllowed_listed {service : Service}
    (allowed : writeAllowed service capabilityId text = .ok ()) :
    slackWrites.contains capabilityId = true := by
  unfold writeAllowed at allowed
  obtain ⟨_, listed, _⟩ := bind_eq_ok.mp allowed
  exact require_eq_ok.mp listed

theorem storeSlackWrite_draft
    (stored : storeSlackWrite world plan text = (.ok id, later)) :
    (∃ workflowRunId, later.conversation.state.value .pendingDraft =
        plan.draft world.service world.conversation.tenantId workflowRunId id
          text) ∧
      ∃ step, later.store.steps.find? (id, "slack-write") = some step ∧
        step.input = plan.payload := by
  obtain ⟨workflowRunId, _, write⟩ := storeSlackWrite_stored stored
  obtain ⟨_, updates⟩ := write.updates
  refine ⟨⟨workflowRunId, ?_⟩, ?_⟩
  · rw [ConversationState.value, updateConversation_ok updates]
    rfl
  · exact ⟨_, (createRevision_ok write.revises).planned _
      List.mem_cons_self, rfl⟩

/-- What `approve_slack_draft` has found when it records an approval. -/
structure Approvable (service : Service) (state : ConversationState)
    (draft : List (String × Value)) : Prop where
  pending : state.value .pendingDraft = .dict draft
  version : Value.lookup draft "entity_version" = .str (service.hash
    (targetValue state (Value.lookup draft "capability_id")))
  connection : ∃ connection,
    service.connection? (Value.lookup draft "connection_id") =
      some connection ∧ connection.status = "connected" ∧
    (Value.int connection.credentialVersion).equals
      (Value.lookup draft "credential_version") = true

theorem orEmpty_cases (value : Value) :
    (value.truthy = true ∧ value.orEmpty = value) ∨
      value.orEmpty = .dict [] := by
  unfold Value.orEmpty
  cases value.truthy with
  | true => exact .inl ⟨rfl, rfl⟩
  | false => exact .inr rfl

theorem pendingDraft_ok {conversation : Option Conversation}
    {draftHash : Value} {draft : List (String × Value)}
    (found : pendingDraft conversation draftHash = .ok draft) :
    ∃ present ∈ conversation,
      present.state.value .pendingDraft = .dict draft := by
  unfold pendingDraft at found
  split at found
  · cases found
  · rename_i present
    dsimp only at found
    rcases orEmpty_cases (present.state.value .pendingDraft) with
      ⟨filled, same⟩ | empty
    · rw [same, filled] at found
      simp only [Bool.not_true, Bool.false_eq_true, if_false] at found
      split at found
      · rename_i items value
        split at found
        · cases found
          exact ⟨present, rfl, value⟩
        · cases found
      · cases found
    · rw [empty] at found
      cases found

theorem approveSlackDraft_approvable {draftHash : Value}
    (records : (approveSlackDraft world draftHash).2.store.approvals ≠
      world.store.approvals) :
    ∃ draft, Approvable world.service world.conversation.state draft := by
  unfold approveSlackDraft at records
  dsimp only at records
  split at records
  · exact absurd rfl records
  · rename_i draft found
    split at records
    · exact absurd rfl records
    · rename_i stands
      obtain ⟨present, shown, pending⟩ := pendingDraft_ok found
      obtain ⟨rfl, read⟩ := getConversation_live shown
      rw [read] at stands
      unfold draftStands at stands
      dsimp only at stands
      obtain ⟨_, _, stands⟩ := bind_eq_ok.mp stands
      obtain ⟨_, _, stands⟩ := bind_eq_ok.mp stands
      obtain ⟨_, version, stands⟩ := bind_eq_ok.mp stands
      split at stands
      · cases stands
      · rename_i connection offered
        have usable := Bool.and_eq_true_iff.mp (require_eq_ok.mp stands)
        exact ⟨draft, pending, Value.isText_iff.mp (require_eq_ok.mp version),
          connection, offered, beq_iff_eq.mp usable.1, usable.2⟩

end Calls

end AcpTask.Slack
