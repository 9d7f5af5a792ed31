import AcpTask.Slack.Compound

namespace AcpTask.Slack

open Library

theorem find?_assignStatus (group : EffectGroup) (target id : String)
    (status : EffectStatus) :
    (assignStatus group target status).find? id =
      if id = target then (group.find? id).map fun effect =>
        { effect with status }
      else group.find? id :=
  Table.find?_updateWhere_key group.effects target
    (fun effect => { effect with status }) (fun _ => rfl) id

theorem find?_unblockDependents (group : EffectGroup) (id : String) :
    (unblockDependents group).find? id =
      (group.find? id).map fun effect =>
        if effect.status == .blocked && group.owedNothing effect then
          { effect with status := .awaitingApproval }
        else effect := by
  rw [unblockDependents, EffectGroup.find?, Table.find?_updateWhere]
  rfl

variable {group : EffectGroup} {decision : Decision}

theorem find?_decided (quiet : decision.status.completed = false)
    (target id : String) :
    (decided group target decision).find? id =
      if id = target then (group.find? id).map fun effect =>
        { effect with status := decision.status }
      else group.find? id := by
  rw [decided, if_neg (by simp [quiet])]
  exact find?_assignStatus group target id decision.status

theorem find?_of_decided {id target : String} {effect : Effect}
    (found : (decided group target decision).find? id = some effect) :
    ∃ old, group.find? id = some old ∧ old.dependsOn = effect.dependsOn ∧
      ((id = target ∧ effect.status = decision.status) ∨
        (id ≠ target ∧ (effect = old ∨
          (old.status = .blocked ∧ effect.status = .awaitingApproval)))) := by
  have assigned : ∀ {later : Effect},
      (assignStatus group target decision.status).find? id = some later →
      ∃ old, group.find? id = some old ∧ old.dependsOn = later.dependsOn ∧
        ((id = target ∧ later.status = decision.status) ∨
          (id ≠ target ∧ later = old)) := by
    intro later became
    rw [find?_assignStatus] at became
    split at became
    · rename_i same
      obtain ⟨old, before, rfl⟩ := Option.map_eq_some_iff.mp became
      exact ⟨old, before, rfl, .inl ⟨same, rfl⟩⟩
    · rename_i apart
      exact ⟨later, became, rfl, .inr ⟨apart, rfl⟩⟩
  unfold decided at found
  split at found
  · rw [find?_unblockDependents] at found
    obtain ⟨middle, between, became⟩ := Option.map_eq_some_iff.mp found
    obtain ⟨old, before, plan, status⟩ := assigned between
    split at became
    · rename_i frees
      simp only [Bool.and_eq_true, beq_iff_eq] at frees
      subst became
      refine ⟨old, before, plan, ?_⟩
      rcases status with ⟨_, given⟩ | ⟨apart, rfl⟩
      · have working : decision.status ≠ .blocked := by
          cases decision <;> decide
        exact absurd (given.symm.trans frees.1) working
      · exact .inr ⟨apart, .inr ⟨frees.1, rfl⟩⟩
    · subst became
      exact ⟨old, before, plan, status.imp_right (And.imp_right .inl)⟩
  · obtain ⟨old, before, plan, status⟩ := assigned found
    exact ⟨old, before, plan, status.imp_right (And.imp_right .inl)⟩

theorem find?_decided_kept {id target : String} {effect : Effect}
    (found : group.find? id = some effect) (working : effect.status ≠ .blocked)
    (same : id = target → decision.status = effect.status) :
    (decided group target decision).find? id = some effect := by
  have assigned : (assignStatus group target decision.status).find? id =
      some effect := by
    rw [find?_assignStatus]
    split
    · rename_i named
      rw [found, Option.map_some, same named]
    · exact found
  unfold decided
  split
  · rw [find?_unblockDependents, assigned, Option.map_some,
      if_neg (by simp [working])]
  · exact assigned

theorem mem_dispatchableEffects {effect : Effect} :
    effect ∈ dispatchableEffects group ↔
      group.find? effect.effectId = some effect ∧
        effect.status = .approved ∧ group.owedNothing effect = true := by
  rw [dispatchableEffects, List.mem_filter, Bool.and_eq_true, beq_iff_eq]
  refine and_congr_left fun _ => ?_
  rw [EffectGroup.find?, Table.find?_eq_some_iff, Table.mem_def]
  exact (and_iff_left rfl).symm

theorem dispatchableEffects_nodup (group : EffectGroup) :
    ((dispatchableEffects group).map Effect.effectId).Nodup :=
  group.effects.primaryKey.sublist (List.filter_sublist.map _)

/-- A dispatch is the first of its effect, was approved, and the effects it
depends on had succeeded. -/
def Owed (start : EffectGroup) (id : String) (older : List EffectEvent) :
    Prop :=
  .dispatched id ∉ older ∧ .decided id .approve ∈ older ∧
    ∃ effect, start.find? id = some effect ∧
      ∀ needed ∈ effect.dependsOn, .decided needed .succeeded ∈ older

def Admissible (start : EffectGroup) :
    EffectEvent → List EffectEvent → Prop
  | .decided _ _, _ => True
  | .dispatched id, older => Owed start id older

section Run

variable {World : Type}
  {dispatchOne : World → Effect → DispatchAnswer × World}
  {start : EffectGroup} {state : GroupRun World}

structure Recorded (start : EffectGroup) (state : GroupRun World) : Prop where
  planned : ∀ {id effect}, state.group.find? id = some effect →
    ∃ first, start.find? id = some first ∧ first.dependsOn = effect.dependsOn
  approved : ∀ {id effect}, state.group.find? id = some effect →
    effect.status = .approved → .decided id .approve ∈ state.events
  succeeded : ∀ {id effect}, state.group.find? id = some effect →
    effect.status = .succeeded → .decided id .succeeded ∈ state.events
  spent : ∀ {id effect}, state.group.find? id = some effect →
    effect.status = .approved → .dispatched id ∉ state.events
  lawful : Lawful (Admissible start) state.events

/-- A decision about an effect that is over, an approval of one that was
dispatched, and an exception that gets out of a loop that had dispatched. -/
def GroupRun.Revives
    (dispatchOne : World → Effect → DispatchAnswer × World)
    (state : GroupRun World) : GroupAction World → Prop
  | .decide effectId decision =>
      (∃ effect, state.group.find? effectId = some effect ∧
        effect.status.terminal = true ∧ decision.status ≠ effect.status) ∨
      (decision = .approve ∧ .dispatched effectId ∈ state.events)
  | .dispatch =>
      let looped :=
        dispatchEffects dispatchOne (dispatchableEffects state.group) state
      looped.1 = true ∧ looped.2.events ≠ state.events
  | .elapse _ => False

instance (state : GroupRun World) (action : GroupAction World) :
    Decidable (state.Revives dispatchOne action) :=
  match action with
  | .decide effectId decision =>
      inferInstanceAs (Decidable
        ((∃ effect ∈ state.group.find? effectId,
          effect.status.terminal = true ∧ decision.status ≠ effect.status) ∨ _))
  | .dispatch => inferInstanceAs (Decidable (_ ∧ _))
  | .elapse _ => isFalse id

theorem Recorded.decided (recorded : Recorded start state)
    {target : String} {decision : Decision} {events : List EffectEvent}
    (older : ∀ {event}, event ∈ state.events → event ∈ events)
    (approves : decision.status = .approved →
      .decided target .approve ∈ events ∧ .dispatched target ∉ events)
    (succeeds : decision.status = .succeeded →
      .decided target .succeeded ∈ events)
    (spent : ∀ {id}, id ≠ target → .dispatched id ∈ events →
      .dispatched id ∈ state.events)
    (lawful : Lawful (Admissible start) events) (world : World) :
    Recorded start
      ⟨world, Slack.decided state.group target decision, events⟩ where
  planned := fun found => by
    obtain ⟨old, before, same, _⟩ := find?_of_decided found
    rw [← same]
    exact recorded.planned before
  approved := fun found status => by
    obtain ⟨old, before, _, ⟨rfl, given⟩ | ⟨_, rfl | ⟨_, waits⟩⟩⟩ :=
      find?_of_decided found
    · exact (approves (given.symm.trans status)).1
    · exact older (recorded.approved before status)
    · cases waits.symm.trans status
  succeeded := fun found status => by
    obtain ⟨old, before, _, ⟨rfl, given⟩ | ⟨_, rfl | ⟨_, waits⟩⟩⟩ :=
      find?_of_decided found
    · exact succeeds (given.symm.trans status)
    · exact older (recorded.succeeded before status)
    · cases waits.symm.trans status
  spent := fun found status => by
    obtain ⟨old, before, _, ⟨rfl, given⟩ | ⟨apart, rfl | ⟨_, waits⟩⟩⟩ :=
      find?_of_decided found
    · exact (approves (given.symm.trans status)).2
    · exact fun dispatched =>
        recorded.spent before status (spent apart dispatched)
    · cases waits.symm.trans status
  lawful := lawful

def Ready (state : GroupRun World) (effect : Effect) : Prop :=
  state.group.find? effect.effectId = some effect ∧
    effect.status = .approved ∧
    ∀ needed ∈ effect.dependsOn, .decided needed .succeeded ∈ state.events

variable {effect : Effect}

theorem Recorded.ready (recorded : Recorded start state)
    (member : effect ∈ dispatchableEffects state.group) :
    Ready state effect := by
  obtain ⟨found, approved, owed⟩ := mem_dispatchableEffects.mp member
  refine ⟨found, approved, fun needed depends => ?_⟩
  have completed := List.all_eq_true.mp owed needed depends
  obtain ⟨other, present, _⟩ := (Option.any_eq_true _ _).mp completed
  refine recorded.succeeded present ?_
  cases status : other.status <;> simp_all [EffectStatus.completed]

theorem Ready.owed (ready : Ready state effect)
    (recorded : Recorded start state) :
    Owed start effect.effectId state.events := by
  obtain ⟨found, approved, owed⟩ := ready
  obtain ⟨first, planned, same⟩ := recorded.planned found
  refine ⟨recorded.spent found approved, recorded.approved found approved,
    first, planned, ?_⟩
  rw [same]
  exact owed

theorem Ready.wait {other : Effect} (ready : Ready state other)
    (apart : other.effectId ≠ effect.effectId) {decision : Decision}
    (completes : decision.status.completed = false) (world : World)
    {events : List EffectEvent}
    (older : ∀ {event}, event ∈ state.events → event ∈ events) :
    Ready ⟨world, Slack.decided state.group effect.effectId decision, events⟩
      other := by
  obtain ⟨found, approved, owed⟩ := ready
  refine ⟨?_, approved, fun needed depends => older (owed needed depends)⟩
  rw [find?_decided completes, if_neg apart]
  exact found

theorem Recorded.dispatchEffects (recorded : Recorded start state)
    (dispatchOne : World → Effect → DispatchAnswer × World)
    {effects : List Effect} (ready : ∀ effect ∈ effects, Ready state effect)
    (distinct : (effects.map Effect.effectId).Nodup) :
    Recorded start (dispatchEffects dispatchOne effects state).2 := by
  induction effects generalizing state with
  | nil => exact recorded
  | cons effect rest induction =>
      obtain ⟨first, others⟩ := List.nodup_cons.mp distinct
      have apart : ∀ other ∈ rest, other.effectId ≠ effect.effectId := by
        intro other member same
        exact first (same ▸ List.mem_map_of_mem member)
      have waiting := fun other member =>
        ready other (List.mem_cons_of_mem effect member)
      have lawful : Lawful (Admissible start)
          (.dispatched effect.effectId :: state.events) :=
        ⟨(ready effect List.mem_cons_self).owed recorded, recorded.lawful⟩
      simp only [Slack.dispatchEffects]
      split
      · refine induction ?_ ?_ others
        · exact recorded.decided (List.mem_cons_of_mem _)
            (fun status => by cases status) (fun status => by cases status)
            (fun other dispatched => by
              rcases List.mem_cons.mp dispatched with same | older
              · cases same
                exact absurd rfl other
              · exact older)
            lawful _
        · intro other member
          exact (waiting other member).wait (apart other member) rfl _
            (List.mem_cons_of_mem _)
      · refine induction ?_ ?_ others
        · exact recorded.decided id (fun status => by cases status)
            (fun status => by cases status) (fun _ => id) recorded.lawful _
        · intro other member
          exact (waiting other member).wait (apart other member) rfl _ id
      · exact ⟨recorded.planned, recorded.approved, recorded.succeeded,
          recorded.spent, recorded.lawful⟩

theorem find?_dispatchEffects {effects : List Effect} {id : String}
    (apart : ∀ effect ∈ effects, id ≠ effect.effectId) :
    (dispatchEffects dispatchOne effects state).2.group.find? id =
      state.group.find? id := by
  induction effects generalizing state with
  | nil => rfl
  | cons effect _ induction =>
      have other := apart effect List.mem_cons_self
      have others := fun effect member =>
        apart effect (List.mem_cons_of_mem _ member)
      simp only [dispatchEffects]
      split
      · rw [induction others, find?_decided rfl, if_neg other]
      · rw [induction others, find?_decided rfl, if_neg other]
      · rfl

theorem Recorded.step (recorded : Recorded start state)
    (action : GroupAction World)
    (sound : ¬ state.Revives dispatchOne action) :
    Recorded start (groupStep dispatchOne state action) := by
  cases action with
  | decide effectId decision =>
      simp only [groupStep]
      split
      · rename_i group applied
        obtain ⟨_, _, applied⟩ := bind_eq_ok.mp applied
        cases applied
        have lawful : Lawful (Admissible start)
            (.decided effectId decision :: state.events) :=
          ⟨trivial, recorded.lawful⟩
        refine recorded.decided (List.mem_cons_of_mem _) ?_ ?_ ?_ lawful _
        · intro status
          obtain rfl : decision = .approve := by
            cases decision <;> trivial
          refine ⟨List.mem_cons_self, fun dispatched => sound (.inr ⟨rfl, ?_⟩)⟩
          exact (List.mem_cons.mp dispatched).resolve_left fun same => by
            cases same
        · intro status
          obtain rfl : decision = .succeeded := by
            cases decision <;> trivial
          exact List.mem_cons_self
        · intro id _ dispatched
          exact (List.mem_cons.mp dispatched).resolve_left fun same => by
            cases same
      · exact recorded
  | dispatch =>
      have looped := recorded.dispatchEffects dispatchOne
        (fun effect => recorded.ready) (dispatchableEffects_nodup state.group)
      simp only [groupStep, dispatchApprovedEffects]
      split
      · rename_i raised
        have silent : (Slack.dispatchEffects dispatchOne
            (dispatchableEffects state.group) state).2.events =
              state.events := by
          by_contra spoke
          exact sound ⟨raised, spoke⟩
        rw [silent]
        exact ⟨recorded.planned, recorded.approved, recorded.succeeded,
          recorded.spent, recorded.lawful⟩
      · exact looped
  | elapse =>
      exact ⟨recorded.planned, recorded.approved, recorded.succeeded,
        recorded.spent, recorded.lawful⟩

theorem terminal_kept {id : String} (found : state.group.find? id = some effect)
    (terminal : effect.status.terminal = true) (action : GroupAction World)
    (sound : ¬ state.Revives dispatchOne action) :
    (groupStep dispatchOne state action).group.find? id = some effect := by
  have working : effect.status ≠ .blocked ∧ effect.status ≠ .approved := by
    cases status : effect.status <;> simp_all [EffectStatus.terminal]
  cases action with
  | decide effectId decision =>
      simp only [groupStep]
      split
      · rename_i group applied
        obtain ⟨_, _, applied⟩ := bind_eq_ok.mp applied
        cases applied
        refine find?_decided_kept found working.1 fun named => ?_
        by_contra changes
        exact sound (.inl ⟨effect, named ▸ found, terminal, changes⟩)
      · exact found
  | dispatch =>
      have others : ∀ other ∈ dispatchableEffects state.group,
          id ≠ other.effectId := by
        rintro other member rfl
        obtain ⟨present, approved, _⟩ := mem_dispatchableEffects.mp member
        rw [found] at present
        cases present
        exact working.2 approved
      simp only [groupStep, dispatchApprovedEffects]
      split
      · exact found
      · rw [find?_dispatchEffects others]
        exact found
  | elapse => exact found

def EffectGroup.Unanswered (group : EffectGroup) : Prop :=
  ∀ {id effect}, group.find? id = some effect →
    effect.status = .blocked ∨ effect.status = .awaitingApproval

theorem buildEffectGroup_unanswered {effectIds : ℕ ↪ String}
    {groupId conversationId : String} {operations : List (Option String)}
    {dependencies : List Dependency} {group : EffectGroup}
    (built : buildEffectGroup effectIds groupId conversationId operations
      dependencies = .ok group) : group.Unanswered := by
  obtain ⟨_, _, built⟩ := bind_eq_ok.mp built
  cases built
  intro id effect found
  obtain ⟨member, _⟩ := Table.find?_eq_some_iff.mp found
  obtain ⟨_, _, rfl⟩ := List.mem_map.mp member
  simp only [plannedEffect]
  split
  · exact .inr rfl
  · exact .inl rfl

theorem Recorded.initial (unanswered : start.Unanswered) (world : World) :
    Recorded start ⟨world, start, []⟩ where
  planned := fun found => ⟨_, found, rfl⟩
  approved := fun found status => by
    rcases unanswered found with waits | waits <;> cases waits.symm.trans status
  succeeded := fun found status => by
    rcases unanswered found with waits | waits <;> cases waits.symm.trans status
  spent := fun _ _ dispatched => by cases dispatched
  lawful := trivial

/-- Every dispatch of a run is admissible, and an effect that is over stays as
it is. -/
structure Orderly (dispatchOne : World → Effect → DispatchAnswer × World)
    (world : World) (start : EffectGroup)
    (actions : List (GroupAction World)) : Prop where
  lawful : Lawful (Admissible start)
    (groupRun dispatchOne world start actions).events
  settled : ∀ earlier later id effect, actions = earlier ++ later →
    (groupRun dispatchOne world start earlier).group.find? id = some effect →
    effect.status.terminal = true →
    (groupRun dispatchOne world start actions).group.find? id = some effect

theorem effects_orderly (effectIds : ℕ ↪ String)
    (groupId conversationId : String) (operations : List (Option String))
    (dependencies : List Dependency)
    (built : buildEffectGroup effectIds groupId conversationId operations
      dependencies = .ok start)
    (dispatchOne : World → Effect → DispatchAnswer × World) (world : World)
    (actions : List (GroupAction World))
    (sound : Along (groupStep dispatchOne)
      (fun state action => ¬ state.Revives dispatchOne action)
      ⟨world, start, []⟩ actions) :
    Orderly dispatchOne world start actions := by
  have initial : Recorded start ⟨world, start, []⟩ :=
    .initial (buildEffectGroup_unanswered built) world
  have recorded : Recorded start (groupRun dispatchOne world start actions) :=
    sound.invariant (Recorded start)
      (fun state action recorded => recorded.step action) initial
  refine ⟨recorded.lawful, ?_⟩
  rintro earlier later id effect rfl found terminal
  rw [groupRun, run_append]
  exact ((Along.append_iff _ earlier later).mp sound).2.invariant
    (fun state => state.group.find? id = some effect)
    (fun state action kept => terminal_kept kept terminal action) found

end Run

def sampleIds : ℕ ↪ String where
  toFun index := String.ofList (List.replicate index 'e')
  inj' := effectNames.injective

def readAndTell : EffectGroup where
  groupId := "group"
  conversationId := "conversation"
  effects := plannedEffects sampleIds
    ["slack.conversation.read", "slack.message.send"] [⟨some 1, some 0⟩]

def everyDispatchDone : Unit → Effect → DispatchAnswer × Unit :=
  fun _ _ => (.done, ())

def answeredInTurn : List (GroupAction Unit) :=
  [.decide "" .approve, .dispatch, .decide "" .succeeded,
    .decide "e" .approve, .dispatch, .decide "e" .succeeded]

theorem effects_orderly_in_turn :
    (groupRun everyDispatchDone () readAndTell answeredInTurn).events.length =
      6 ∧
    Orderly everyDispatchDone () readAndTell answeredInTurn :=
  ⟨by decide +kernel, effects_orderly sampleIds "group" "conversation"
    [some "slack.conversation.read", some "slack.message.send"]
    [⟨some 1, some 0⟩] rfl everyDispatchDone () answeredInTurn
    (by decide +kernel)⟩

/-- The approval comes once more. -/
theorem effect_dispatched_twice :
    ¬ ∀ (actions : List (GroupAction Unit)),
      Orderly everyDispatchDone () readAndTell actions := by
  intro orderly
  have lawful := (orderly [.decide "" .approve, .dispatch,
    .decide "" .approve, .dispatch]).lawful
  have events : (groupRun everyDispatchDone () readAndTell
      [.decide "" .approve, .dispatch, .decide "" .approve, .dispatch]).events =
      [.dispatched "", .decided "" .approve, .dispatched "",
        .decided "" .approve] := by decide +kernel
  rw [events] at lawful
  exact lawful.1.1 (by decide)

end AcpTask.Slack
