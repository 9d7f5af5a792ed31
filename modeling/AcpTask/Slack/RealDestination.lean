import AcpTask.Data.Countable
import AcpTask.Data.Json
import AcpTask.Slack.Drafts
import AcpTask.Slack.EffectGroups

namespace AcpTask.Slack

open Concierge Data Library Workflow

/-! A conversation whose writes are drafted and approved, with other turns,
other calls of the repository and changes of the configuration between. -/

structure MadeDraft where
  capabilityId : String
  workflowRevisionId : String
  before : SlackWorld
  after : SlackWorld

def MadeDraft.draft (made : MadeDraft) : Value :=
  made.after.conversation.state.value .pendingDraft

structure DraftRun where
  world : SlackWorld
  made : List MadeDraft

/-- What other turns leave of a conversation is theirs to say, but for its
draft: they pass on one that was made, or clear it. -/
inductive DraftAction where
  | write (capabilityId : String) (text : Value)
  | approve (draftHash : Value)
  | repository (call : RepositoryCall)
  | converse (conversation : Conversation) (draft : Option Nat)
  | configure (service : Service)

def writeDraft (state : DraftRun) (capabilityId : String) (text : Value) :
    DraftRun :=
  let written := materializeSlackWrite state.world capabilityId text
  match written.1 with
  | .ok id => ⟨written.2,
      ⟨capabilityId, id, state.world, written.2⟩ :: state.made⟩
  | .error _ => ⟨written.2, state.made⟩

def withDraft (conversation : Conversation) (draft : Option MadeDraft) :
    Conversation :=
  { conversation with
    state := Function.update conversation.state .pendingDraft
      (draft.map MadeDraft.draft) }

def draftStep (backend : Backend) (digests : Digests) (state : DraftRun) :
    DraftAction → DraftRun
  | .write capabilityId text => writeDraft state capabilityId text
  | .approve draftHash => { state with
      world := (approveSlackDraft state.world draftHash).2 }
  | .repository call => { state with
      world := { state.world with
        store := repositoryStep backend digests state.world.store call } }
  | .converse conversation draft => { state with
      world := { state.world with
        conversation := withDraft conversation
          (draft.bind fun index => state.made[index]?) } }
  | .configure service => { state with
      world := { state.world with
        service := { service with hash := state.world.service.hash } } }

def MadeDraft.NamesTarget (made : MadeDraft) : Prop :=
  ∃ step label,
    made.after.store.steps.find? (made.workflowRevisionId, "slack-write") =
      some step ∧
    made.draft.item? "destination_label" = some label ∧
    Slack.NamesTarget made.before.service made.before.conversation.state
      made.capabilityId step.input label

structure MadeDraft.Stands (made : MadeDraft) (world : SlackWorld) :
    Prop where
  draft : world.conversation.state.value .pendingDraft = made.draft
  target : (targetValue world.conversation.state
      (.str made.capabilityId)).sortKeys =
    (targetValue made.before.conversation.state
      (.str made.capabilityId)).sortKeys
  connection : ∃ reference old new,
    entityItem made.before.conversation.state .activeConnection "id" =
      .ok reference ∧
    made.before.service.connection? reference = some old ∧
    world.service.connection? (.str old.connectionId) = some new ∧
    new.status = old.status ∧ new.credentialVersion = old.credentialVersion

structure RealDestination (backend : Backend) (digests : Digests)
    (state : DraftRun) (action : DraftAction) : Prop where
  names : ∀ made, (draftStep backend digests state action).made =
    made :: state.made → made.NamesTarget
  approves : ∀ draftHash, action = .approve draftHash →
    (draftStep backend digests state action).world.store.approvals ≠
      state.world.store.approvals → ∃ made ∈ state.made, made.Stands state.world

def WritesShown (state : DraftRun) (action : DraftAction) : Prop :=
  ∀ capabilityId text, action = .write capabilityId text →
    (materializeSlackWrite state.world capabilityId text).1.isOk = true →
      TargetShown state.world.conversation.state capabilityId

def DraftLeft (before after : Conversation) : Prop :=
  after.state.value .pendingDraft = .none ∨
    after.state.value .pendingDraft = before.state.value .pendingDraft

section Left

variable {world : SlackWorld} {row : Conversation}

theorem DraftLeft.refl (row : Conversation) : DraftLeft row row := .inr rfl

theorem DraftLeft.trans {middle last : Conversation}
    (first : DraftLeft row middle) (second : DraftLeft middle last) :
    DraftLeft row last := by
  rcases second with gone | same
  · exact .inl gone
  · rcases first with gone | kept
    · exact .inl (same.trans gone)
    · exact .inr (same.trans kept)

theorem getConversation_draftLeft (now : Int) (includeTerminal : Bool) :
    DraftLeft row (getConversation row now includeTerminal).2 := by
  unfold getConversation
  dsimp only
  split
  · exact .inl rfl
  · exact .refl row

theorem updateConversation_draftLeft {changes : Changes} {now : Int}
    {ttlSeconds : Nat} (untouched : changes.fields .pendingDraft = none) :
    DraftLeft row (updateConversation row changes now ttlSeconds none).2 := by
  rcases updateConversation_cases row changes now ttlSeconds with
    ⟨error, refused⟩ | ⟨revised, revises, written⟩
  · rw [refused]
    exact getConversation_draftLeft now false
  · rw [written]
    right
    change revised.state.value .pendingDraft = _
    rw [(revise_ok revises).1]
    simp only [ConversationState.value, Changes.applyTo, untouched,
      ConversationState.present]
    split
    · rename_i absent
      rw [absent]
      rfl
    · rfl

theorem updateConversation_error {changes : Changes} {now : Int}
    {ttlSeconds : Nat} {error : ConversationError}
    (refused : (updateConversation row changes now ttlSeconds none).1 =
      .error error) :
    DraftLeft row (updateConversation row changes now ttlSeconds none).2 := by
  rcases updateConversation_cases row changes now ttlSeconds with
    ⟨_, same⟩ | ⟨revised, _, written⟩
  · rw [same]
    exact getConversation_draftLeft now false
  · rw [written] at refused
    cases refused

theorem storeSlackWrite_error {plan : WritePlan} {text : Value}
    {error : ServiceError}
    (refused : (storeSlackWrite world plan text).1 = .error error) :
    DraftLeft world.conversation
      (storeSlackWrite world plan text).2.conversation := by
  unfold storeSlackWrite at refused ⊢
  dsimp only at refused ⊢
  split at refused
  · exact .refl _
  · split at refused
    · exact .refl _
    · dsimp only at refused ⊢
      split at refused
      · rename_i refusal
        exact updateConversation_error refusal
      · cases refused

theorem materializeSlackWrite_error {capabilityId : String} {text : Value}
    {error : ServiceError}
    (refused : (materializeSlackWrite world capabilityId text).1 =
      .error error) :
    DraftLeft world.conversation
      (materializeSlackWrite world capabilityId text).2.conversation := by
  unfold materializeSlackWrite at refused ⊢
  split at refused
  · exact .refl _
  · have read := @getConversation_draftLeft world.conversation
      world.service.now false
    dsimp only at refused ⊢
    split at refused
    · exact read
    · split at refused
      · exact read
      · exact read.trans (storeSlackWrite_error refused)

theorem approveSlackDraft_draftLeft (draftHash : Value) :
    DraftLeft world.conversation
      (approveSlackDraft world draftHash).2.conversation := by
  have read := @getConversation_draftLeft world.conversation
    world.service.now false
  unfold approveSlackDraft
  dsimp only
  split
  · exact read
  · split
    · exact read
    · split
      · exact read
      · exact read.trans (updateConversation_draftLeft rfl)

end Left

structure MadeDraft.Known (hash : Value → String) (made : MadeDraft) :
    Prop where
  hashed : made.before.service.hash = hash
  listed : slackWrites.contains made.capabilityId = true
  stored : ∃ text plan tenantId workflowRunId,
    WritePlanned made.before.service made.before.conversation.state
      made.capabilityId text plan ∧
    made.draft = plan.draft made.before.service tenantId workflowRunId
      made.workflowRevisionId text ∧
    ∃ step, made.after.store.steps.find?
      (made.workflowRevisionId, "slack-write") = some step ∧
        step.input = plan.payload

structure KnownDrafts (hash : Value → String) (state : DraftRun) : Prop where
  hashed : state.world.service.hash = hash
  pending : state.world.conversation.state.value .pendingDraft = .none ∨
    ∃ made ∈ state.made,
      state.world.conversation.state.value .pendingDraft = made.draft
  made : ∀ made ∈ state.made, made.Known hash

theorem int_equals_iff {first second : Int} :
    (Value.int first).equals (.int second) = true ↔ first = second := by
  simp [Value.equals, Value.number?]

section Run

variable {hash : Value → String} {made : MadeDraft} {state : DraftRun}
  {backend : Backend} {digests : Digests}

theorem MadeDraft.Known.namesTarget_iff (known : made.Known hash) :
    made.NamesTarget ↔ TargetShown made.before.conversation.state
      made.capabilityId := by
  obtain ⟨text, plan, _, _, planned, drafted, step, found,
    input⟩ := known.stored
  obtain ⟨_, aimed, payload, label, _⟩ := planned.target
  have labelled : made.draft.item? "destination_label" = some plan.label := by
    rw [drafted]
    rfl
  have shown := @Slack.namesTarget_iff _ _ _ text _ known.listed aimed
  rw [← shown, ← payload, ← label]
  constructor
  · rintro ⟨other, shown, also, shows, names⟩
    obtain rfl : step = other := Option.some.inj (found.symm.trans also)
    obtain rfl : plan.label = shown :=
      Option.some.inj (labelled.symm.trans shows)
    rw [← input]
    exact names
  · intro names
    rw [← input] at names
    exact ⟨step, plan.label, found, labelled, names⟩

variable {world : SlackWorld}

theorem MadeDraft.Known.stands
    (collisionFree : ∀ first second, hash first = hash second →
      first.sortKeys = second.sortKeys) (known : made.Known hash)
    (hashed : world.service.hash = hash)
    (pending : world.conversation.state.value .pendingDraft = made.draft)
    {draft : List (String × Value)}
    (approvable : Approvable world.service world.conversation.state draft) :
    made.Stands world := by
  obtain ⟨text, plan, tenantId, workflowRunId, planned, drafted, _⟩ :=
    known.stored
  obtain ⟨_, aimed, _, _, version⟩ := planned.target
  obtain ⟨reference, refers, old⟩ := planned.connection
  obtain ⟨connection, offered, usable, credential⟩ := approvable.connection
  have items : Value.dict draft = plan.draft made.before.service tenantId
      workflowRunId made.workflowRevisionId text :=
    approvable.pending.symm.trans (pending.trans drafted)
  cases items
  refine ⟨pending, collisionFree _ _ ?_, reference, plan.connection,
    connection, refers, old, offered, usable.trans planned.connected.symm,
    int_equals_iff.mp credential⟩
  have current : Value.str plan.entityVersion = .str (world.service.hash
      (targetValue world.conversation.state
        (.str plan.definition.capabilityId))) := approvable.version
  rw [planned.capability, hashed, version,
    destination_entityVersion known.listed aimed, known.hashed] at current
  exact (Value.str.inj current).symm

theorem writeDraft_cases (capabilityId : String) (text : Value) :
    (∃ error, (materializeSlackWrite state.world capabilityId text).1 =
        .error error ∧
      writeDraft state capabilityId text =
        ⟨(materializeSlackWrite state.world capabilityId text).2, state.made⟩) ∨
    ∃ id, (materializeSlackWrite state.world capabilityId text).1 = .ok id ∧
      writeDraft state capabilityId text =
        ⟨(materializeSlackWrite state.world capabilityId text).2,
          ⟨capabilityId, id, state.world,
            (materializeSlackWrite state.world capabilityId text).2⟩ ::
              state.made⟩ := by
  unfold writeDraft
  dsimp only
  split
  · rename_i id written
    exact .inr ⟨id, written, rfl⟩
  · rename_i error refused
    exact .inl ⟨error, refused, rfl⟩

theorem KnownDrafts.of_left (known : KnownDrafts hash state)
    (hashed : world.service.hash = state.world.service.hash)
    (left : DraftLeft state.world.conversation world.conversation) :
    KnownDrafts hash ⟨world, state.made⟩ where
  hashed := hashed.trans known.hashed
  pending := by
    rcases left with gone | same
    · exact .inl gone
    · rw [same]
      exact known.pending
  made := known.made

theorem storeSlackWrite_service (plan : WritePlan) (text : Value) :
    (storeSlackWrite world plan text).2.service = world.service :=
  (storeSlackWrite_continues world plan text).service

theorem materializeSlackWrite_service (world : SlackWorld)
    (capabilityId : String) (text : Value) :
    (materializeSlackWrite world capabilityId text).2.service =
      world.service := by
  unfold materializeSlackWrite
  split
  · rfl
  · dsimp only
    split
    · rfl
    · split
      · rfl
      · exact storeSlackWrite_service ..

theorem approveSlackDraft_service (draftHash : Value) :
    (approveSlackDraft world draftHash).2.service = world.service := by
  unfold approveSlackDraft
  dsimp only
  repeat' split
  all_goals rfl

theorem materialized_known {capabilityId id : String} {text : Value}
    (hashed : state.world.service.hash = hash)
    (written : (materializeSlackWrite state.world capabilityId text).1 =
      .ok id) :
    MadeDraft.Known hash ⟨capabilityId, id, state.world,
      (materializeSlackWrite state.world capabilityId text).2⟩ := by
  obtain ⟨allowed, plan, planned, stored⟩ :=
    materializeSlackWrite_ok (Prod.ext written rfl)
  obtain ⟨⟨workflowRunId, drafted⟩, step⟩ := storeSlackWrite_draft stored
  exact ⟨hashed, writeAllowed_listed allowed, text, plan,
    state.world.conversation.tenantId, workflowRunId,
    planSlackWrite_planned planned, drafted, step⟩

theorem draftStep_known (known : KnownDrafts hash state)
    (action : DraftAction) :
    KnownDrafts hash (draftStep backend digests state action) := by
  cases action with
  | write capabilityId text =>
      have same := materializeSlackWrite_service state.world capabilityId text
      rcases @writeDraft_cases state capabilityId text with
        ⟨_, refused, step⟩ | ⟨id, written, step⟩
      · rw [draftStep, step]
        exact known.of_left (congrArg Service.hash same)
          (materializeSlackWrite_error refused)
      · rw [draftStep, step]
        refine ⟨(congrArg Service.hash same).trans known.hashed,
          .inr ⟨_, List.mem_cons_self, rfl⟩, fun made member => ?_⟩
        rcases List.mem_cons.mp member with rfl | member
        · exact materialized_known known.hashed written
        · exact known.made made member
  | approve draftHash =>
      exact known.of_left
        (congrArg Service.hash (approveSlackDraft_service draftHash))
        (approveSlackDraft_draftLeft draftHash)
  | repository | configure => exact known.of_left rfl (.refl _)
  | converse _ draft =>
      refine ⟨known.hashed, ?_, known.made⟩
      simp only [draftStep, withDraft, ConversationState.value,
        Function.update_self]
      cases chosen : draft.bind fun index => state.made[index]? with
      | none => exact .inl rfl
      | some made =>
          obtain ⟨_, _, taken⟩ := Option.bind_eq_some_iff.mp chosen
          exact .inr ⟨made, List.mem_of_getElem? taken, rfl⟩

theorem made_of_grown {action : DraftAction}
    (grown : (draftStep backend digests state action).made =
      made :: state.made) :
    ∃ capabilityId text id, action = .write capabilityId text ∧
      (materializeSlackWrite state.world capabilityId text).1 = .ok id ∧
      made = ⟨capabilityId, id, state.world,
        (materializeSlackWrite state.world capabilityId text).2⟩ := by
  cases action with
  | write capabilityId text =>
      rcases @writeDraft_cases state capabilityId text with
        ⟨_, _, step⟩ | ⟨id, written, step⟩
      · rw [draftStep, step] at grown
        exact absurd grown (List.cons_ne_self made state.made).symm
      · rw [draftStep, step] at grown
        exact ⟨capabilityId, text, id, rfl, written,
          (List.cons.inj grown).1.symm⟩
  | approve | repository | converse | configure =>
      exact absurd grown (List.cons_ne_self made state.made).symm

section Collisionfree

variable
  (collisionFree : ∀ first second, hash first = hash second → first.sortKeys = second.sortKeys)
  (known : KnownDrafts hash state)

include collisionFree known

theorem approval_stands {draftHash : Value}
    (records : (approveSlackDraft state.world draftHash).2.store.approvals ≠
      state.world.store.approvals) :
    ∃ made ∈ state.made, made.Stands state.world := by
  obtain ⟨_, approvable⟩ := approveSlackDraft_approvable records
  rcases known.pending with gone | ⟨made, member, pending⟩
  · rw [approvable.pending] at gone
    cases gone
  · exact ⟨made, member, (known.made made member).stands collisionFree
      known.hashed pending approvable⟩

theorem realDestination_iff (action : DraftAction) :
    RealDestination backend digests state action ↔
      WritesShown state action := by
  constructor
  · rintro real capabilityId text rfl accepted
    rcases @writeDraft_cases state capabilityId text with
      ⟨_, refused, step⟩ | ⟨id, written, step⟩
    · rw [refused] at accepted
      cases accepted
    · have names := real.names _ (congrArg DraftRun.made step)
      exact (materialized_known known.hashed written).namesTarget_iff.mp names
  · intro shown
    constructor
    · intro made grown
      obtain ⟨capabilityId, text, _, rfl, written, rfl⟩ := made_of_grown grown
      have target := shown capabilityId text rfl (by rw [written]; rfl)
      exact (materialized_known known.hashed written).namesTarget_iff.mpr target
    · rintro draftHash rfl records
      exact approval_stands collisionFree known records

end Collisionfree

end Run

example : (run (draftStep .sqlite slackDigests) ⟨slackWorld, []⟩
    [.write "slack.message.send" (.str "Hello"),
      .approve (.str "hash")]).world.store.approvals.rows.length = 1 := by
  decide +kernel

def newDraftRun (world : SlackWorld) (call : NewConversation) : DraftRun :=
  ⟨{ world with conversation := call.row }, []⟩

theorem newDraftRun_known (world : SlackWorld) (call : NewConversation) :
    KnownDrafts world.service.hash (newDraftRun world call) where
  hashed := rfl
  pending := .inl rfl
  made := fun made member => by cases member

/-- With a hash that no two targets share, the destinations of a run are real
exactly when every write has its target shown. -/
theorem destinations_real_iff (backend : Backend) (digests : Digests)
    (world : SlackWorld) (call : NewConversation) (actions : List DraftAction)
    (collisionFree : ∀ first second,
      world.service.hash first = world.service.hash second →
        first.sortKeys = second.sortKeys) :
    Along (draftStep backend digests) (RealDestination backend digests)
        (newDraftRun world call) actions ↔
      Along (draftStep backend digests) WritesShown (newDraftRun world call)
        actions := by
  have known := newDraftRun_known world call
  constructor
  · exact Along.imp_of_invariant (KnownDrafts world.service.hash)
      (fun state action known =>
        (realDestination_iff collisionFree known action).mp)
      (fun state action known _ => draftStep_known known action) known
  · exact Along.imp_of_invariant (KnownDrafts world.service.hash)
      (fun state action known =>
        (realDestination_iff collisionFree known action).mpr)
      (fun state action known _ => draftStep_known known action) known

noncomputable def documentHash (value : Value) : String :=
  digest Value value.sortKeys

theorem documentHash_collisionFree (first second : Value)
    (same : documentHash first = documentHash second) :
    first.sortKeys = second.sortKeys :=
  digest_injective Value same

noncomputable def replyWorld : SlackWorld where
  service := { slackService with
    hash := documentHash
    definitions := [⟨"slack.thread.reply", "1", ["chat:write"], false, "d5"⟩]
    installations := [⟨"connection", "connected", ["slack.thread.reply"],
      ["chat:write"], 1⟩] }
  store := WorkflowStore.empty
  conversation := askedInC9
  draw := slackWorld.draw
  drawn := 0
  conversationTtlSeconds := 3600
  made := []

def firstTurn : NewConversation :=
  ⟨⟨"conversation", "tenant", "user"⟩, 1000000, 1000000, none⟩

def answeringIn (channel : String) : Conversation :=
  { askedInC9 with
    state := Function.update askedInC9.state .activeThread
      (some (threadIn channel)) }

def replyIn (channel : String) : List DraftAction :=
  [.converse (answeringIn channel) none,
    .write "slack.thread.reply" (.str "Hello")]

theorem destinations_real_iff_inC9 :
    Along (draftStep .sqlite slackDigests)
      (RealDestination .sqlite slackDigests)
      (newDraftRun replyWorld firstTurn) (replyIn "C9") := by
  refine (destinations_real_iff .sqlite slackDigests replyWorld firstTurn
    (replyIn "C9") documentHash_collisionFree).mpr
      ⟨fun _ _ write _ => (by cases write), ?_, trivial⟩
  intro capabilityId text write _
  cases write
  refine ⟨⟨.str "general", rfl, "name", List.mem_singleton.mpr rfl, rfl⟩, ?_⟩
  intro _ channelId said _
  cases said
  rfl

/-- The label says "#general thread", and the reply goes to "C2". -/
theorem thread_of_other_channel :
    ¬ ∀ (backend : Backend) (digests : Digests) (world : SlackWorld)
        (call : NewConversation) (actions : List DraftAction),
      (∀ first second, world.service.hash first = world.service.hash second →
        first.sortKeys = second.sortKeys) →
      Along (draftStep backend digests) (RealDestination backend digests)
        (newDraftRun world call) actions := by
  intro real
  obtain ⟨_, write, _⟩ := real .sqlite slackDigests replyWorld firstTurn
    (replyIn "C2") documentHash_collisionFree
  obtain ⟨step, _, found, _, id, _, addressed, identified, _⟩ :=
    write.names _ rfl
  have sent : step.input.item? "channel_id" = some (.str "C2") := by
    cases found
    rfl
  have written : Value.str "C2" = id :=
    Option.some.inj (sent.symm.trans addressed)
  have active : Value.str "C9" = id := Except.ok.inj identified
  exact absurd (written.trans active.symm) (by decide)

end AcpTask.Slack
