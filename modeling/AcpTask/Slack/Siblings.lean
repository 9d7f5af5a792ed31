import AcpTask.Slack.Visibility
import AcpTask.Slack.Writes

namespace AcpTask.Slack

open Concierge Data Library Workflow

/-! What the dispatch of one effect leaves of the others of its group. -/

def pendingRevision (conversation : Conversation) : Option Value :=
  (conversation.state.value .pendingDraft).item? "workflow_revision_id"

structure Undisturbed (before after : SlackWorld) (id : String) : Prop where
  stored : Spares before.store after.store id
  draft : pendingRevision before.conversation = some (.str id) →
    pendingRevision after.conversation = some (.str id)

def effectStep : EffectKind → String
  | .read => "slack-read-read"
  | .write => "slack-write"

structure Stored (world later : SlackWorld)
    (workflowRevisionId workflowRunId stepId capabilityId : String) :
    Prop where
  made : later.made = world.made
  fresh : world.store.revisions.find? workflowRevisionId = none
  revision : ∃ row, later.store.revisions.find? workflowRevisionId = some row ∧
    row.workflowRunId = workflowRunId
  run : later.store.runs.find? workflowRunId ≠ none
  others : ∀ id, id ≠ workflowRevisionId →
    later.store.revisions.find? id =
      (world.store.revisions.find? id).map (Revision.after workflowRunId) ∧
    later.store.approvals.find? id = world.store.approvals.find? id
  step : ∃ row,
    later.store.steps.find? (workflowRevisionId, stepId) = some row ∧
      row.capabilityId = capabilityId

def plannedWrite (world : SlackWorld) (effect : Effect) :
    Except ServiceError WritePlan := do
  let text ← entityItem world.conversation.state .knownInputs "message"
  writeAllowed world.service effect.capabilityId text
  planSlackWrite world.service world.conversation.state effect.capabilityId text

def plannedRead (world : SlackWorld) : Except ServiceError ReadPlan :=
  planSlackRead world.service world.conversation.tenantId
    world.conversation.principalId "read"
    (effectResolved world.conversation.state) .none

/-- The capability that the active thread and the active channel's privacy
select for a read. -/
def selectedRead (world : SlackWorld) : Option String :=
  (chosenReadCapability "read"
    (effectResolved world.conversation.state)).toOption

section One

variable {world later : SlackWorld} {effect : Effect} {id : String}

theorem dispatchReadEffect_ok
    (dispatched : dispatchReadEffect world = (.ok id, later)) :
    ∃ capabilityId workflowRunId, (plannedRead world).isOk = true ∧
        selectedRead world = some capabilityId ∧
        Stored world later id workflowRunId (effectStep .read) capabilityId ∧
        world.store.runs.find? workflowRunId = none ∧
        later.conversation = world.conversation := by
  unfold dispatchReadEffect at dispatched
  cases result : dispatchSlackRead world.service world.store
      world.conversation.tenantId world.conversation.principalId "read"
      (effectResolved world.conversation.state) .none
      (world.draw world.drawn) with
  | mk answer =>
      rw [result] at dispatched
      cases answer with
      | error => cases dispatched
      | ok read =>
          cases dispatched
          obtain ⟨planning, sameIds, _, _, begins, revises,
            authorizes⟩ := dispatchSlackRead_ok result
          dsimp only
          rw [sameIds]
          have planned : plannedRead world = .ok read.plan := planning
          obtain ⟨capabilityId, _, behind⟩ := planSlackRead_ok planning
          obtain ⟨_, _, same, steps⟩ := behind.steps
          obtain ⟨revisions, _, approvals, fresh⟩ := createRun_ok begins
          have creation := createRevision_ok revises
          obtain ⟨sameSteps, sameRuns, others, own⟩ :=
            authorizeRequestedRead_ok authorizes
          refine ⟨capabilityId, (world.draw world.drawn).workflowRunId,
            by rw [planned]; rfl, ?_, ?_, fresh, rfl⟩
          · rw [selectedRead, behind.chosen]
            rfl
          refine ⟨rfl, ?_, ?_, ?_, fun other apart => ⟨?_, ?_⟩, ?_⟩
          · rw [← revisions]
            exact creation.fresh
          · obtain ⟨_, draft⟩ := creation.draft
            rw [own, draft]
            exact ⟨_, rfl, rfl⟩
          · rw [sameRuns]
            exact creation.ran
          · rw [(others other apart).1, creation.others other apart, revisions]
          · rw [(others other apart).2, creation.approvals, approvals]
          · have planned := creation.planned _ (steps ▸ List.mem_cons_self)
            have named : "slack-read-" ++ "read" = effectStep .read := by
              decide
            rw [sameSteps, ← named]
            exact ⟨_, planned, same⟩

variable {row : Conversation} {now : Int}

theorem getConversation_live {seen : Conversation}
    (live : (getConversation row now false).1 = some seen) :
    seen = row ∧ (getConversation row now false).2 = row := by
  unfold getConversation at live ⊢
  cases lapsed : row.lapsed now with
  | true =>
      rw [lapsed] at live
      simp [Conversation.expire, ConversationStatus.terminal] at live
  | false =>
      simp only [lapsed, Bool.false_eq_true, if_false] at live
      split at live
      · cases live
      · cases live
        exact ⟨rfl, by simp⟩

theorem getConversation_lasting (lasting : row.lapsed now = false) :
    (getConversation row now false).1 = row.shown ∧
      (getConversation row now false).2 = row := by
  simp [getConversation, lasting, Conversation.shown]

theorem revise_ok {changes : Changes} {current : Conversation} {ttl : Int}
    {revised : Revised} (revises : changes.revise current now ttl = .ok revised) :
    revised.state = changes.applyTo current.state ∧
      revised.expiresAt = now + ttl := by
  unfold Changes.revise at revises
  dsimp only at revises
  split at revises
  · cases revises
  · obtain ⟨_, _, revises⟩ := bind_eq_ok.mp revises
    cases revises
    exact ⟨rfl, rfl⟩

theorem updateConversation_cases (row : Conversation) (changes : Changes)
    (now : Int) (ttlSeconds : Nat) :
    (∃ error, updateConversation row changes now ttlSeconds none =
      (.error error, (getConversation row now false).2)) ∨
    ∃ revised, changes.revise row now ttlSeconds = .ok revised ∧
      updateConversation row changes now ttlSeconds none =
        (.ok (revised.assign row).shown, revised.assign row) := by
  unfold updateConversation
  dsimp only
  split
  · rename_i error _
    exact .inl ⟨error, rfl⟩
  · rename_i current revised prepared
    cases live : (getConversation row now false).1 with
    | none =>
        rw [live] at prepared
        cases prepared
    | some seen =>
        obtain ⟨rfl, read⟩ := getConversation_live live
        rw [live] at prepared
        simp only [updatePrepared, bind_eq_ok, pure_eq_ok, Prod.mk.injEq]
          at prepared
        obtain ⟨_, _, revision, revises, rfl, rfl⟩ := prepared
        have lasting : (revision.assign seen).lapsed now = false := by
          simp [Conversation.lapsed, Revised.assign, (revise_ok revises).2]
        refine .inr ⟨revision, revises, ?_⟩
        rw [read, compareAndSwap, if_pos rfl]
        exact congrArg₂ Prod.mk
          (congrArg Except.ok (getConversation_lasting lasting).1)
          (getConversation_lasting lasting).2

theorem updateConversation_ok {after : Conversation} {changes : Changes}
    {ttlSeconds : Nat} {shown : Option Conversation}
    (updated : updateConversation row changes now ttlSeconds none =
      (.ok shown, after)) :
    after.state = changes.applyTo row.state := by
  rcases updateConversation_cases row changes now ttlSeconds with
    ⟨_, refused⟩ | ⟨revised, revises, written⟩
  · rw [refused] at updated
    cases updated
  · rw [written] at updated
    cases updated
    exact (revise_ok revises).1

def WritesTo (world : SlackWorld) (workflowRunId : String) : Prop :=
  conversationRun world.store world.conversation = some workflowRunId ∨
    (conversationRun world.store world.conversation = none ∧
      world.store.runs.find? workflowRunId = none)

theorem writeRun_ok {ids : FreshIds} {workflowRunId : String}
    {begun : WorkflowStore}
    (begins : writeRun world ids = (.ok workflowRunId, begun)) :
    WritesTo world workflowRunId ∧
      begun.revisions = world.store.revisions ∧
      begun.approvals = world.store.approvals := by
  unfold writeRun at begins
  split at begins
  · rename_i present
    cases begins
    exact ⟨.inl present, rfl, rfl⟩
  · rename_i absent
    dsimp only at begins
    obtain ⟨answered, rfl⟩ := Prod.mk.inj begins
    cases result : (createRun world.store ids.workflowRunId
        world.conversation.tenantId world.conversation.principalId
        (world.service.hash (.str "slack-write")) world.service.now).1 with
    | error =>
        rw [result] at answered
        cases answered
    | ok =>
        rw [result] at answered
        cases answered
        obtain ⟨revisions, _, approvals, fresh⟩ :=
          createRun_ok (Prod.ext result rfl)
        exact ⟨.inr ⟨absent, fresh⟩, revisions, approvals⟩

structure WriteStored (world later : SlackWorld) (plan : WritePlan)
    (text : Value) (id workflowRunId : String) (begun : WorkflowStore) :
    Prop where
  begins : writeRun world (world.draw world.drawn) = (.ok workflowRunId, begun)
  named : id = (world.draw world.drawn).workflowRevisionId
  revises : createRevision begun id workflowRunId
    world.conversation.tenantId
    (plan.graphHash world.service world.conversation.tenantId)
    [plan.step world.service] world.service.now
    world.service.contentTtlSeconds = (.ok (), later.store)
  updates : ∃ shown, updateConversation world.conversation
    (draftChanges (plan.draft world.service world.conversation.tenantId
      workflowRunId id text) workflowRunId id)
    world.service.now world.conversationTtlSeconds none =
      (.ok shown, later.conversation)
  made : later.made = world.made

variable {plan : WritePlan} {text : Value}

theorem storeSlackWrite_stored
    (stored : storeSlackWrite world plan text = (.ok id, later)) :
    ∃ workflowRunId begun,
      WriteStored world later plan text id workflowRunId begun := by
  unfold storeSlackWrite at stored
  dsimp only at stored
  split at stored
  · cases stored
  · rename_i workflowRunId begins
    split at stored
    · cases stored
    · rename_i revises
      split at stored
      · cases stored
      · rename_i shown updates
        cases stored
        exact ⟨workflowRunId, _, Prod.ext begins rfl, rfl,
          Prod.ext revises rfl, ⟨shown, Prod.ext updates rfl⟩, rfl⟩

theorem storeSlackWrite_ok
    (stored : storeSlackWrite world plan text = (.ok id, later)) :
    ∃ workflowRunId, WritesTo world workflowRunId ∧
      Stored world later id workflowRunId (effectStep .write)
        plan.definition.capabilityId ∧
      pendingRevision later.conversation = some (.str id) := by
  obtain ⟨workflowRunId, _, write⟩ := storeSlackWrite_stored stored
  have creation := createRevision_ok write.revises
  obtain ⟨_, updates⟩ := write.updates
  have state := updateConversation_ok updates
  have begun := writeRun_ok write.begins
  refine ⟨workflowRunId, begun.1, ⟨write.made, ?_, ?_, creation.ran,
    fun other apart => ⟨?_, ?_⟩, ?_⟩, ?_⟩
  · rw [← begun.2.1]
    exact creation.fresh
  · obtain ⟨_, draft⟩ := creation.draft
    exact ⟨_, draft, rfl⟩
  · rw [creation.others other apart, begun.2.1]
  · rw [creation.approvals, begun.2.2]
  · exact ⟨_, creation.planned _ List.mem_cons_self, rfl⟩
  · rw [pendingRevision, ConversationState.value, state]
    rfl

theorem planSlackWrite_ok {state : ConversationState} {capabilityId : String}
    (planned : planSlackWrite world.service state capabilityId text =
      .ok plan) : plan.definition.capabilityId = capabilityId := by
  unfold planSlackWrite at planned
  obtain ⟨connectionId, _, planned⟩ := bind_eq_ok.mp planned
  split at planned
  · cases planned
  · obtain ⟨_, _, planned⟩ := bind_eq_ok.mp planned
    split at planned
    · cases planned
    · rename_i definition found
      obtain ⟨_, _, planned⟩ := bind_eq_ok.mp planned
      obtain ⟨target, _, planned⟩ := bind_eq_ok.mp planned
      obtain ⟨_, _, planned⟩ := bind_eq_ok.mp planned
      cases planned
      have named := List.find?_some found
      exact beq_iff_eq.mp named

theorem materializeSlackWrite_ok {capabilityId : String}
    (written : materializeSlackWrite world capabilityId text =
      (.ok id, later)) :
    writeAllowed world.service capabilityId text = .ok () ∧
      ∃ plan, planSlackWrite world.service world.conversation.state
          capabilityId text = .ok plan ∧
        storeSlackWrite world plan text = (.ok id, later) := by
  unfold materializeSlackWrite at written
  split at written
  · cases written
  · rename_i allowed
    dsimp only at written
    split at written
    · cases written
    · rename_i seen live
      obtain ⟨rfl, read⟩ := getConversation_live live
      split at written
      · cases written
      · rename_i plan planned
        rw [read] at written
        exact ⟨allowed, plan, planned, written⟩

theorem dispatchWriteEffect_ok
    (dispatched : dispatchWriteEffect world effect = (.ok id, later)) :
    ∃ workflowRunId, WritesTo world workflowRunId ∧
      Stored world later id workflowRunId (effectStep .write)
        effect.capabilityId ∧
      pendingRevision later.conversation = some (.str id) := by
  unfold dispatchWriteEffect at dispatched
  split at dispatched
  · cases dispatched
  · obtain ⟨_, _, planned, dispatched⟩ := materializeSlackWrite_ok dispatched
    obtain ⟨workflowRunId, writes, stored, pending⟩ :=
      storeSlackWrite_ok dispatched
    rw [planSlackWrite_ok planned] at stored
    exact ⟨workflowRunId, writes, stored, pending⟩

theorem dispatchSlackRead_spares {service : Service} {store : WorkflowStore}
    {tenantId principalId operation : String} {resolved : ConversationState}
    {cursor : Value} {ids : FreshIds} {row : Revision}
    (found : store.revisions.find? id = some row)
    (ran : store.runs.find? row.workflowRunId ≠ none) :
    Spares store (dispatchSlackRead service store tenantId principalId
      operation resolved cursor ids).2 id := by
  unfold dispatchSlackRead
  split
  · exact .refl store id
  · rename_i plan planning
    dsimp only
    have begins : Spares store (createRun store ids.workflowRunId tenantId
        principalId (service.hash (.str ("read:" ++ operation)))
        service.now).2 id := createRun_spares ..
    split
    · exact begins
    · rename_i created
      have fresh := (createRun_ok (Prod.ext created rfl)).2.2.2
      have present := begins.revision.trans found
      have revises : Spares _ (createRevision (createRun store
          ids.workflowRunId tenantId principalId
          (service.hash (.str ("read:" ++ operation))) service.now).2
          ids.workflowRevisionId ids.workflowRunId tenantId
          (readGraphHash service tenantId plan.steps) plan.steps service.now
          service.contentTtlSeconds).2 id :=
        createRevision_spares (by simp [present])
          ((begins.liveIn _).trans (liveIn_fresh found ran fresh))
      split
      · exact begins.trans revises
      · rename_i revised
        have other : id ≠ ids.workflowRevisionId := by
          rintro rfl
          rw [(createRevision_ok (Prod.ext revised rfl)).fresh] at present
          cases present
        exact (begins.trans revises).trans (authorizeRequestedRead_spares other)

theorem writeRun_spares (ids : FreshIds) :
    Spares world.store (writeRun world ids).2 id := by
  unfold writeRun
  split
  · exact .refl _ id
  · exact createRun_spares ..

theorem storeSlackWrite_spares {row : Revision}
    (found : world.store.revisions.find? id = some row)
    (ran : world.store.runs.find? row.workflowRunId ≠ none)
    (apart : ∀ workflowRunId ∈
      conversationRun world.store world.conversation,
        world.store.liveIn workflowRunId id = false) :
    Spares world.store (storeSlackWrite world plan text).2.store id := by
  have begins : Spares world.store
      (writeRun world (world.draw world.drawn)).2 id := writeRun_spares _
  unfold storeSlackWrite
  dsimp only
  split
  · exact begins
  · rename_i workflowRunId answered
    have unselected : world.store.liveIn workflowRunId id = false := by
      rcases (writeRun_ok (Prod.ext answered rfl)).1 with present | fresh
      · exact apart workflowRunId present
      · exact liveIn_fresh found ran fresh.2
    have present := begins.revision.trans found
    have there : (writeRun world
        (world.draw world.drawn)).2.revisions.find? id ≠ none := by
      simp [present]
    have live := (begins.liveIn workflowRunId).trans unselected
    split <;> exact begins.trans (createRevision_spares there live)

def SlackWorld.live (world : SlackWorld) : Bool :=
  (getConversation world.conversation world.service.now false).1.isSome

structure Continues (world later : SlackWorld) : Prop where
  service : later.service = world.service
  store : Grows world.store later.store
  made : later.made = world.made
  live : world.live = true → later.live = true

theorem dispatchSlackRead_grows (service : Service) (store : WorkflowStore)
    (tenantId principalId operation : String) (resolved : ConversationState)
    (cursor : Value) (ids : FreshIds) :
    Grows store (dispatchSlackRead service store tenantId principalId
      operation resolved cursor ids).2 := by
  unfold dispatchSlackRead
  split
  · exact .refl store
  · dsimp only
    split
    · exact createRun_grows ..
    · split
      · exact (createRun_grows ..).trans (createRevision_grows ..)
      · exact ((createRun_grows ..).trans (createRevision_grows ..)).trans
          (authorizeRequestedRead_grows ..)

theorem dispatchReadEffect_continues (world : SlackWorld) :
    Continues world (dispatchReadEffect world).2 where
  service := rfl
  store := dispatchSlackRead_grows ..
  made := rfl
  live := id

theorem updateConversation_live {changes : Changes} {ttlSeconds : Nat}
    (opens : changes.status = some (.str "awaiting_approval"))
    (live : (getConversation row now false).1.isSome = true) :
    (getConversation (updateConversation row changes now ttlSeconds none).2
      now false).1.isSome = true := by
  rcases updateConversation_cases row changes now ttlSeconds with
    ⟨_, refused⟩ | ⟨revised, revises, updated⟩
  · obtain ⟨_, shown⟩ := Option.isSome_iff_exists.mp live
    rw [refused, (getConversation_live shown).2]
    exact live
  · have lasting : (revised.assign row).lapsed now = false := by
      simp [Conversation.lapsed, Revised.assign, (revise_ok revises).2]
    have waits : revised.status = .awaitingApproval := by
      simp only [Changes.revise, opens, conversationStatus?, bind_eq_ok,
        pure_eq_ok] at revises
      obtain ⟨_, _, rfl⟩ := revises
      rfl
    rw [updated, (getConversation_lasting lasting).1, Conversation.shown,
      Revised.assign, waits]
    rfl

theorem writeRun_grows (world : SlackWorld) (ids : FreshIds) :
    Grows world.store (writeRun world ids).2 := by
  unfold writeRun
  split
  · exact .refl _
  · exact createRun_grows ..

theorem storeSlackWrite_continues (world : SlackWorld) (plan : WritePlan)
    (text : Value) : Continues world (storeSlackWrite world plan text).2 := by
  have begins := writeRun_grows world (world.draw world.drawn)
  unfold storeSlackWrite
  dsimp only
  split
  · exact ⟨rfl, begins, rfl, id⟩
  · split
    · exact ⟨rfl, begins.trans (createRevision_grows ..), rfl, id⟩
    · exact ⟨rfl, begins.trans (createRevision_grows ..), rfl,
        updateConversation_live rfl⟩

theorem dispatchWriteEffect_cases (live : world.live = true) :
    (∃ error, dispatchWriteEffect world effect = (.error error, world)) ∨
      ∃ text plan, plannedWrite world effect = .ok plan ∧
        dispatchWriteEffect world effect = storeSlackWrite world plan text := by
  obtain ⟨seen, shown⟩ := Option.isSome_iff_exists.mp live
  obtain ⟨same, read⟩ := getConversation_live shown
  unfold dispatchWriteEffect plannedWrite
  split
  · rename_i error _
    exact .inl ⟨error, rfl⟩
  · rename_i text message
    unfold materializeSlackWrite
    split
    · rename_i error _
      exact .inl ⟨error, rfl⟩
    · rename_i allowed
      dsimp only
      rw [shown, read]
      dsimp only
      split
      · rename_i error _
        exact .inl ⟨error, rfl⟩
      · rename_i plan planned
        exact .inr ⟨text, plan, bind_eq_ok.mpr ⟨text, message,
          bind_eq_ok.mpr ⟨(), allowed, same ▸ planned⟩⟩, rfl⟩

end One

end AcpTask.Slack
