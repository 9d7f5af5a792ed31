import AcpTask.Slack.Decisions
import AcpTask.Slack.Siblings

namespace AcpTask.Slack

open Concierge Library Workflow

/-! The calls on the conversation of an effect group, and what each dispatch of
one of its effects leaves of the others. -/

abbrev SlackRun := GroupRun SlackWorld

inductive SlackAction where
  | decide (effectId : String) (decision : Decision)
  | dispatch
  | repository (call : RepositoryCall)
  | converse (conversation : Conversation)
  | configure (service : Service)

/-- `self.conversation_store.get`. -/
def readConversation (state : SlackRun) : SlackRun :=
  { state with
    world := { state.world with
      conversation := (getConversation state.world.conversation
        state.world.service.now false).2 } }

def groupStatus (group : EffectGroup) (working : String) : Changes where
  status := some (.str
    (if (groupOutcome group).terminal then "ready" else working))

/-- The group of `later` is stored with the status it gives the conversation,
or `state` stays. -/
def storeGroup (state later : SlackRun) (working : String) : SlackRun :=
  let updated := updateConversation later.world.conversation
    (groupStatus later.group working) later.world.service.now
    later.world.conversationTtlSeconds none
  let world := { later.world with conversation := updated.2 }
  if updated.1.isOk then { later with world } else { state with world }

def decideCompoundEffect (state : SlackRun) (effectId : String)
    (decision : Decision) : SlackRun :=
  let seen := readConversation state
  if state.world.live then
    match applyEffectDecision state.group effectId decision with
    | .error _ => seen
    | .ok group =>
        storeGroup seen { seen with
          group, events := .decided effectId decision :: state.events }
          "awaiting_approval"
  else seen

/-- `dispatch_approved_effects`: the group is stored behind the loop, when no
exception has got out of it. -/
def dispatchGroup (state : SlackRun) : SlackRun :=
  let seen := readConversation state
  let effects := dispatchableEffects state.group
  if state.world.live && !effects.isEmpty then
    let looped := dispatchEffects dispatchOneEffect effects seen
    let kept := { looped.2 with group := state.group }
    if looped.1 then kept else storeGroup kept looped.2 "executing"
  else seen

/-- A call of the service about the group, a call of the workflow repository, or
whatever other turns make of the conversation and of the configuration. -/
def slackStep (backend : Backend) (digests : Digests) (state : SlackRun) :
    SlackAction → SlackRun
  | .decide effectId decision => decideCompoundEffect state effectId decision
  | .dispatch => dispatchGroup state
  | .repository call => { state with
      world := { state.world with
        store := repositoryStep backend digests state.world.store call } }
  | .converse conversation => { state with
      world := { state.world with conversation } }
  | .configure service => { state with
      world := { state.world with service } }

def EachDispatch (condition : SlackRun → Effect → Prop) :
    List Effect → SlackRun → Prop
  | [], _ => True
  | effect :: rest, state =>
      condition state effect ∧
        ((dispatchEffects dispatchOneEffect [effect] state).1 = false →
          EachDispatch condition rest
            (dispatchEffects dispatchOneEffect [effect] state).2)

def OnDispatch (condition : SlackRun → Effect → Prop) (state : SlackRun) :
    SlackAction → Prop
  | .dispatch => state.world.live = true →
      EachDispatch condition (dispatchableEffects state.group)
        (readConversation state)
  | _ => True

def OwnRevision (world later : SlackWorld) (effect : Effect) : Prop :=
  ∃ id row, later.made = ⟨effect.effectId, id⟩ :: world.made ∧
    (∀ made ∈ world.made, made.workflowRevisionId ≠ id) ∧
    later.store.revisions.find? id ≠ none ∧
    later.store.steps.find? (id, effectStep effect.effectKind) = some row ∧
    row.capabilityId = effect.capabilityId

instance eachDispatchDecidable {condition : SlackRun → Effect → Prop}
    [∀ state effect, Decidable (condition state effect)] :
    ∀ (effects : List Effect) (state : SlackRun),
      Decidable (EachDispatch condition effects state)
  | [], _ => isTrue trivial
  | _ :: rest, _ =>
      have := @eachDispatchDecidable condition _ rest
      inferInstanceAs (Decidable (_ ∧ (_ → _)))

instance {condition : SlackRun → Effect → Prop}
    [∀ state effect, Decidable (condition state effect)]
    (state : SlackRun) (action : SlackAction) :
    Decidable (OnDispatch condition state action) :=
  match action with
  | .dispatch => inferInstanceAs (Decidable (_ → EachDispatch ..))
  | .decide .. | .repository _ | .converse _ | .configure _ => isTrue trivial

structure FaithfulDispatch (state : SlackRun) (effect : Effect) : Prop where
  own : (dispatchOneEffect state.world effect).1 = .done →
    OwnRevision state.world (dispatchOneEffect state.world effect).2 effect
  siblings : ∀ made ∈ state.world.made, made.effectId ≠ effect.effectId →
    Undisturbed state.world (dispatchOneEffect state.world effect).2
      made.workflowRevisionId
  group : ∀ id, id ≠ effect.effectId →
    (dispatchEffects dispatchOneEffect [effect] state).2.group.find? id =
      state.group.find? id

/-- A write replaces the revision: its draft is the conversation's pending one,
or it is live in the conversation's run. -/
def SlackWorld.replaces (world : SlackWorld) (id : String) : Bool :=
  decide (pendingRevision world.conversation = some (.str id)) ||
    (conversationRun world.store world.conversation).any fun workflowRunId =>
      world.store.liveIn workflowRunId id

/-- A read that can be planned is of the effect's capability, and a write that
can be replaces nothing that another effect has. -/
structure Separate (state : SlackRun) (effect : Effect) : Prop where
  read : effect.effectKind = .read → (plannedRead state.world).isOk = true →
    selectedRead state.world = some effect.capabilityId
  write : effect.effectKind = .write →
    (plannedWrite state.world effect).isOk = true →
    ∀ made ∈ state.world.made, made.effectId ≠ effect.effectId →
      state.world.replaces made.workflowRevisionId = false

instance (state : SlackRun) (effect : Effect) :
    Decidable (Separate state effect) :=
  decidable_of_iff (_ ∧ _)
    ⟨fun both => ⟨both.1, both.2⟩, fun both => ⟨both.read, both.write⟩⟩

section Dispatches

variable {state : SlackRun} {effect : Effect}

theorem dispatchOneEffect_store (world : SlackWorld) (effect : Effect) :
    (dispatchOneEffect world effect).2.store =
        (dispatchEffectOf world effect).2.store ∧
      (dispatchOneEffect world effect).2.conversation =
        (dispatchEffectOf world effect).2.conversation := by
  unfold dispatchOneEffect
  dsimp only
  split <;> exact ⟨rfl, rfl⟩

theorem dispatchOneEffect_done {world : SlackWorld}
    (done : (dispatchOneEffect world effect).1 = .done) :
    ∃ id later, dispatchEffectOf world effect = (.ok id, later) ∧
      (dispatchOneEffect world effect).2 =
        { later with made := ⟨effect.effectId, id⟩ :: later.made } := by
  unfold dispatchOneEffect at done ⊢
  dsimp only at done ⊢
  split at done
  · rename_i id answered
    exact ⟨id, _, Prod.ext answered rfl, rfl⟩
  · rename_i error _
    split at done <;> cases done

theorem dispatchEffectOf_ok {world later : SlackWorld} {id : String}
    (dispatched : dispatchEffectOf world effect = (.ok id, later)) :
    ∃ workflowRunId capabilityId,
      Stored world later id workflowRunId (effectStep effect.effectKind)
        capabilityId ∧
      (effect.effectKind = .read →
        (plannedRead world).isOk = true ∧
          selectedRead world = some capabilityId) ∧
      (effect.effectKind = .write → capabilityId = effect.capabilityId ∧
        WritesTo world workflowRunId ∧
        pendingRevision later.conversation = some (.str id)) := by
  unfold dispatchEffectOf at dispatched
  cases kind : effect.effectKind with
  | read =>
      rw [kind] at dispatched
      obtain ⟨capabilityId, workflowRunId, planned, capability, stored, _⟩ :=
        dispatchReadEffect_ok dispatched
      refine ⟨workflowRunId, capabilityId, stored, ?_, ?_⟩
      · exact fun _ => ⟨planned, capability⟩
      · exact fun other => by cases other
  | write =>
      rw [kind] at dispatched
      obtain ⟨workflowRunId, writes, stored, pending⟩ :=
        dispatchWriteEffect_ok dispatched
      refine ⟨workflowRunId, effect.capabilityId, stored, ?_, ?_⟩
      · exact fun other => by cases other
      · exact fun _ => ⟨rfl, writes, pending⟩

def Known (world : SlackWorld) : Prop :=
  ∀ made ∈ world.made, ∃ row,
    world.store.revisions.find? made.workflowRevisionId = some row ∧
      world.store.runs.find? row.workflowRunId ≠ none

theorem Known.of_grows {world later : SlackWorld} (known : Known world)
    (store : Grows world.store later.store)
    (made : later.made = world.made) : Known later := by
  intro other member
  obtain ⟨_, found, ran⟩ := known other (made ▸ member)
  obtain ⟨next, there, same⟩ := store.revisions found
  exact ⟨next, there, same ▸ store.runs ran⟩

theorem dispatchEffectOf_continues {world : SlackWorld}
    (live : world.live = true) (effect : Effect) :
    Continues world (dispatchEffectOf world effect).2 := by
  unfold dispatchEffectOf
  cases effect.effectKind with
  | read => exact dispatchReadEffect_continues world
  | write =>
      rcases dispatchWriteEffect_cases live with
        ⟨_, refused⟩ | ⟨text, plan, _, stores⟩
      · rw [refused]
        exact ⟨rfl, .refl world.store, rfl, id⟩
      · rw [stores]
        exact storeSlackWrite_continues world plan text

structure Dispatching (world : SlackWorld) : Prop where
  known : Known world
  live : world.live = true

theorem Dispatching.dispatchOneEffect {world : SlackWorld}
    (dispatching : Dispatching world) (effect : Effect) :
    Dispatching (dispatchOneEffect world effect).2 := by
  have continues := dispatchEffectOf_continues dispatching.live effect
  have known : Known (dispatchEffectOf world effect).2 :=
    dispatching.known.of_grows continues.store continues.made
  have live := continues.live dispatching.live
  unfold Slack.dispatchOneEffect
  dsimp only
  split
  · rename_i id answered
    obtain ⟨_, _, stored, _⟩ := dispatchEffectOf_ok (Prod.ext answered rfl)
    refine ⟨fun made member => ?_, live⟩
    rcases List.mem_cons.mp member with rfl | older
    · obtain ⟨row, there, same⟩ := stored.revision
      exact ⟨row, there, same ▸ stored.run⟩
    · exact known made older
  · exact ⟨known, live⟩

theorem faithful_of_separate (dispatching : Dispatching state.world)
    (separate : Separate state effect) : FaithfulDispatch state effect where
  own := fun done => by
    obtain ⟨id, _, dispatched, left⟩ := dispatchOneEffect_done done
    obtain ⟨_, capabilityId, stored, reads, writes⟩ :=
      dispatchEffectOf_ok dispatched
    have capability : capabilityId = effect.capabilityId := by
      cases kind : effect.effectKind with
      | read =>
          obtain ⟨planned, capability⟩ := reads kind
          exact Option.some.inj
            (capability.symm.trans (separate.read kind planned))
      | write => exact (writes kind).1
    obtain ⟨step, there, same⟩ := stored.step
    obtain ⟨row, found, _⟩ := stored.revision
    rw [left]
    refine ⟨id, step, ?_, ?_, ?_, there, same.trans capability⟩
    · rw [stored.made]
    · rintro made member rfl
      obtain ⟨_, found, _⟩ := dispatching.known made member
      rw [stored.fresh] at found
      cases found
    · simp [found]
  siblings := fun made member apart => by
    obtain ⟨store, conversation⟩ := dispatchOneEffect_store state.world effect
    obtain ⟨_, found, ran⟩ := dispatching.known made member
    suffices Undisturbed state.world (dispatchEffectOf state.world effect).2
        made.workflowRevisionId by
      refine ⟨?_, ?_⟩
      · rw [store]
        exact this.stored
      · rw [conversation]
        exact this.draft
    unfold dispatchEffectOf
    cases kind : effect.effectKind with
    | read => exact ⟨dispatchSlackRead_spares found ran, id⟩
    | write =>
        rcases dispatchWriteEffect_cases dispatching.live with
          ⟨_, refused⟩ | ⟨text, plan, planned, stores⟩
        · rw [refused]
          exact ⟨.refl _ _, id⟩
        · have kept := separate.write kind (by rw [planned]; rfl) made member
            apart
          rw [SlackWorld.replaces, Bool.or_eq_false_iff,
            decide_eq_false_iff_not, Option.any_eq_false] at kept
          rw [stores]
          exact ⟨storeSlackWrite_spares found ran
            (by simpa using kept.2), fun pending => absurd pending kept.1⟩
  group := fun id apart => by
    refine find?_dispatchEffects fun other member => ?_
    rw [List.mem_singleton.mp member]
    exact apart

theorem dispatchEffects_cons {World : Type}
    (dispatchOne : World → Effect → DispatchAnswer × World) (effect : Effect)
    (rest : List Effect) (state : GroupRun World) :
    dispatchEffects dispatchOne (effect :: rest) state =
      if (dispatchEffects dispatchOne [effect] state).1 then
        dispatchEffects dispatchOne [effect] state
      else dispatchEffects dispatchOne rest
        (dispatchEffects dispatchOne [effect] state).2 := by
  rcases answer : dispatchOne state.world effect with ⟨answered, _⟩
  cases answered <;> simp [dispatchEffects, answer]

theorem dispatchEffects_one_world {World : Type}
    (dispatchOne : World → Effect → DispatchAnswer × World) (effect : Effect)
    (state : GroupRun World) :
    (dispatchEffects dispatchOne [effect] state).2.world =
      (dispatchOne state.world effect).2 := by
  rcases answer : dispatchOne state.world effect with ⟨answered, _⟩
  cases answered <;> simp [dispatchEffects, answer]

theorem Dispatching.round (dispatching : Dispatching state.world)
    (effect : Effect) :
    Dispatching
      (dispatchEffects Slack.dispatchOneEffect [effect] state).2.world := by
  rw [dispatchEffects_one_world]
  exact dispatching.dispatchOneEffect effect

theorem Dispatching.dispatchEffects (dispatching : Dispatching state.world)
    (effects : List Effect) :
    Dispatching
      (dispatchEffects Slack.dispatchOneEffect effects state).2.world := by
  induction effects generalizing state with
  | nil => exact dispatching
  | cons effect _ induction =>
      rw [dispatchEffects_cons]
      split
      · exact dispatching.round effect
      · exact induction (dispatching.round effect)

theorem each_faithful (dispatching : Dispatching state.world)
    {effects : List Effect} (separate : EachDispatch Separate effects state) :
    EachDispatch FaithfulDispatch effects state := by
  induction effects generalizing state with
  | nil => trivial
  | cons effect _ induction =>
      obtain ⟨here, later⟩ := separate
      exact ⟨faithful_of_separate dispatching here, fun goesOn =>
        induction (dispatching.round effect) (later goesOn)⟩

theorem readConversation_world (live : state.world.live = true) :
    readConversation state = state := by
  obtain ⟨_, shown⟩ := Option.isSome_iff_exists.mp live
  rw [readConversation, (getConversation_live shown).2]

theorem storeGroup_known {later : SlackRun} {working : String}
    (known : Known later.world) :
    Known (storeGroup state later working).world := by
  unfold storeGroup
  dsimp only
  split
  · exact known
  · exact known

theorem slackStep_known {backend : Backend} {digests : Digests}
    (known : Known state.world) (action : SlackAction) :
    Known (slackStep backend digests state action).world := by
  cases action with
  | decide =>
      simp only [slackStep, decideCompoundEffect]
      split
      · split
        · exact known
        · exact storeGroup_known known
      · exact known
  | dispatch =>
      simp only [slackStep, dispatchGroup]
      split
      · rename_i runs
        have live := (Bool.and_eq_true_iff.mp runs).1
        rw [readConversation_world live]
        have looped := (Dispatching.mk known live).dispatchEffects
          (dispatchableEffects state.group)
        split
        · exact looped.known
        · exact storeGroup_known looped.known
      · exact known
  | repository call =>
      exact known.of_grows
        (repositoryStep_tables backend digests state.world.store call).grows
        rfl
  | converse | configure => exact known

/-- The dispatches of a run are faithful, when each of them is separate. -/
theorem dispatches_faithful (backend : Backend) (digests : Digests)
    (world : SlackWorld) (group : EffectGroup) (actions : List SlackAction)
    (separate : Along (slackStep backend digests) (OnDispatch Separate)
      ⟨{ world with made := [] }, group, []⟩ actions) :
    Along (slackStep backend digests) (OnDispatch FaithfulDispatch)
      ⟨{ world with made := [] }, group, []⟩ actions := by
  refine separate.imp_of_invariant (fun state => Known state.world) ?_ ?_ ?_
  · intro state action known condition
    cases action with
    | dispatch =>
        intro live
        have each := condition live
        rw [readConversation_world live] at each ⊢
        exact each_faithful ⟨known, live⟩ each
    | _ => trivial
  · exact fun state action known _ => slackStep_known known action
  · intro made member
    cases member

end Dispatches

def askedInC9 : Conversation where
  conversationId := "conversation"
  tenantId := "tenant"
  principalId := "user"
  status := .awaitingApproval
  state
    | .activeConnection => some (.dict [("id", .str "connection")])
    | .activeChannel =>
        some (.dict [("id", .str "C9"), ("name", .str "general")])
    | .knownInputs => some (.dict [("message", .str "Hello")])
    | _ => none
  stateVersion := 0
  workflowRunId := none
  workflowRevisionId := none
  presentation := none
  presentationHash := none
  createdAt := 0
  updatedAt := 0
  expiresAt := 2000000
  contentExpiresAt := 2000000
  closedAt := none

def numbered (before : String) (index : Nat) : String :=
  before ++ String.ofList (List.replicate index 'n')

def slackWorld : SlackWorld where
  service := slackService
  store := WorkflowStore.empty
  conversation := askedInC9
  draw := fun index => ⟨numbered "run" index, numbered "revision" index⟩
  drawn := 0
  conversationTtlSeconds := 3600
  made := []

def groupOf (named : List String) : EffectGroup where
  groupId := "group"
  conversationId := "conversation"
  effects := plannedEffects sampleIds named []

def approveBoth : List SlackAction :=
  [.decide "" .approve, .decide "e" .approve, .dispatch]

def slackDigests : Digests := ⟨id, fun _ _ _ => "receipt"⟩

def bothDispatched (named : List String) : SlackRun :=
  run (slackStep .sqlite slackDigests)
    ⟨{ slackWorld with made := [] }, groupOf named, []⟩ approveBoth

theorem dispatches_faithful_in_turn :
    (bothDispatched ["slack.conversation.read",
      "slack.message.send"]).world.made =
        [⟨"e", "revisionn"⟩, ⟨"", "revision"⟩] ∧
    Along (slackStep .sqlite slackDigests) (OnDispatch FaithfulDispatch)
      ⟨{ slackWorld with made := [] },
        groupOf ["slack.conversation.read", "slack.message.send"], []⟩
      approveBoth :=
  ⟨by decide +kernel, dispatches_faithful .sqlite slackDigests slackWorld
    (groupOf ["slack.conversation.read", "slack.message.send"]) approveBoth
    (by decide +kernel)⟩

/-- The second of two messages takes the draft of the first. -/
theorem draft_taken_over :
    ¬ ∀ (backend : Backend) (digests : Digests) (world : SlackWorld)
        (group : EffectGroup) (actions : List SlackAction),
      Along (slackStep backend digests) (OnDispatch FaithfulDispatch)
        ⟨{ world with made := [] }, group, []⟩ actions := by
  intro faithful
  obtain ⟨_, _, dispatch, _⟩ := faithful .sqlite slackDigests slackWorld
    (groupOf ["slack.message.send", "slack.message.send"]) approveBoth
  have each := dispatch (by decide +kernel)
  have effects : dispatchableEffects (run (slackStep .sqlite slackDigests)
      ⟨{ slackWorld with made := [] },
        groupOf ["slack.message.send", "slack.message.send"], []⟩
      [.decide "" .approve, .decide "e" .approve]).group =
        [⟨"", "slack.message.send", .write, [], .approved⟩,
          ⟨"e", "slack.message.send", .write, [], .approved⟩] := by
    decide +kernel
  rw [run_cons, run_cons, run_nil] at effects
  rw [effects] at each
  obtain ⟨_, goesOn⟩ := each
  obtain ⟨second, _⟩ := goesOn (by decide +kernel)
  have undisturbed := second.siblings ⟨"", "revision"⟩
    (by decide +kernel) (by decide)
  have pending := undisturbed.draft (by decide +kernel)
  revert pending
  decide +kernel

end AcpTask.Slack
