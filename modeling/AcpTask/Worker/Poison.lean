import AcpTask.Outbox.Skipped
import AcpTask.Workflow.Completed
import AcpTask.Worker.Tick

namespace AcpTask.Worker

open Concierge Data Library Outbox Workflow

section Statements

variable {store later : OutboxStore}

/-- A statement inserts no event and gives up at most the one with the id
`dead`. -/
def Rewrites (store later : OutboxStore) (dead : Option String) : Prop :=
  ∀ next ∈ later.events, ∃ row ∈ store.events, row.Alike next ∧
    (next.status = .deadLetter → row.status = .deadLetter ∨
      dead = some row.eventId)

theorem Rewrites.refl (store : OutboxStore) (dead : Option String) :
    Rewrites store store dead :=
  fun row member => ⟨row, member, .refl row, .inl⟩

theorem Rewrites.update {condition : OutboxEvent → Bool}
    {assign : OutboxEvent → OutboxEvent} {dead : Option String}
    (keepsKey : ∀ row, (assign row).eventId = row.eventId)
    (events : later.events = store.events.updateWhere condition assign keepsKey)
    (alike : ∀ row : OutboxEvent, row.Alike (assign row))
    (given : ∀ row, condition row = true →
      (assign row).status = .deadLetter → dead = some row.eventId) :
    Rewrites store later dead := by
  intro next member
  rw [events, Table.mem_updateWhere] at member
  obtain ⟨row, rowMember, rfl⟩ := member
  refine ⟨row, rowMember, ?_⟩
  split
  · rename_i selected
    exact ⟨alike row, fun status => .inr (given row selected status)⟩
  · exact ⟨.refl row, .inl⟩

theorem Rewrites.delete {condition : OutboxEvent → Bool}
    (events : later.events = store.events.deleteWhere condition) :
    Rewrites store later none := by
  intro next member
  rw [events, Table.mem_deleteWhere] at member
  exact ⟨next, member.1, .refl next, .inl⟩

theorem claim_rewrites {workerId : String} {now visibilityTimeout : Int}
    {tenantId : Option String} {event : OutboxEvent}
    (claims : claimOutboxEvent store workerId now visibilityTimeout tenantId =
      (some event, later)) : Rewrites store later none := by
  unfold claimOutboxEvent at claims
  split at claims
  · cases claims
  · cases claims
    refine .update (OutboxEvent.claim_eventId workerId (now + visibilityTimeout))
      rfl (fun _ => ⟨rfl, rfl, rfl, rfl, rfl, rfl, rfl⟩) ?_
    intro row _ status
    cases status

theorem fail_rewrites (store : OutboxStore) (eventId tenantId : String)
    (now retryDelay : Int) (error : String) (dead : Bool) :
    Rewrites store (failUpdate store eventId tenantId now retryDelay error dead)
      (if dead then some eventId else none) := by
  refine .update (fun _ => by rfl) rfl
    (fun _ => ⟨rfl, rfl, rfl, rfl, rfl, rfl, rfl⟩) ?_
  intro row selected status
  simp only [OutboxEvent.is, Bool.and_eq_true, beq_iff_eq] at selected
  cases dead with
  | true => simp [selected.1]
  | false => cases status

theorem complete_rewrites (store : OutboxStore)
    (eventId tenantId workerId : String) (now : Int) :
    Rewrites store (completeUpdate store eventId tenantId workerId now).2
      none := by
  refine .update (fun _ => by rfl) rfl
    (fun _ => ⟨rfl, rfl, rfl, rfl, rfl, rfl, rfl⟩) ?_
  intro row _ status
  cases status

end Statements

section Watermarks

variable {store : OutboxStore}

theorem projected_advance {event : OutboxEvent} (aggregate : Aggregate)
    (version : Nat) (eventId : String) (now : Int)
    (reached : projected store event = true) :
    projected (advanceProjectionWatermark store aggregate version eventId
      now).2 event = true := by
  obtain ⟨watermark, found, bound⟩ := (Option.any_eq_true _ _).mp reached
  rw [decide_eq_true_eq] at bound
  refine (Option.any_eq_true _ _).mpr ?_
  unfold advanceProjectionWatermark
  dsimp only
  split
  · rename_i table inserted
    exact ⟨watermark, Table.insert?_keeps inserted found, decide_eq_true bound⟩
  · rw [getProjectionWatermark, Table.find?_updateWhere]
    rw [getProjectionWatermark] at found
    rw [found, Option.map_some]
    split
    · rename_i selected
      simp only [Bool.and_eq_true, decide_eq_true_eq] at selected
      exact ⟨_, rfl, decide_eq_true (by dsimp only; omega)⟩
    · exact ⟨watermark, rfl, decide_eq_true bound⟩

theorem projected_refused {event : OutboxEvent} {now : Int}
    (refused : (advanceProjectionWatermark store event.aggregate
      event.aggregateVersion event.eventId now).1 = false) :
    projected (advanceProjectionWatermark store event.aggregate
      event.aggregateVersion event.eventId now).2 event = true := by
  refine projected_advance _ _ _ _ ?_
  unfold advanceProjectionWatermark at refused
  dsimp only at refused
  split at refused
  · cases refused
  · rename_i taken
    obtain ⟨watermark, found⟩ := Option.ne_none_iff_exists'.mp
      (Table.insert?_eq_none_iff.mp taken)
    refine (Option.any_eq_true _ _).mpr ⟨watermark, found, ?_⟩
    obtain ⟨member, same⟩ := Table.find?_eq_some_iff.mp found
    have level := List.any_eq_false.mp refused watermark member
    simp only [same, decide_true, Bool.true_and, decide_eq_true_eq] at level
    exact decide_eq_true (by omega)

end Watermarks

/-- An event that `_project_event` knows how to apply. -/
structure MappedEvent (event : OutboxEvent) : Prop where
  supported : supportedEventType event.eventType = true
  outcome : event.eventType = "workflow.outcome" →
    outcomeMapped event.payload = true

theorem MappedEvent.alike {row next : OutboxEvent} (mapped : MappedEvent row)
    (alike : row.Alike next) : MappedEvent next where
  supported := by
    rw [alike.eventType]
    exact mapped.supported
  outcome := by
    rw [alike.eventType, alike.payload]
    exact mapped.outcome

structure Held (aggregate : Aggregate) (system : ProjectSystem)
    (event : OutboxEvent) : Prop where
  assigned : event.ref ∈ system.assigned
  mapped : event.aggregate = aggregate → MappedEvent event

/-- What a worker may be at: its projection of an event of the aggregate ends in
a failure only by a fault, and never uses up the event. -/
def HandOk (aggregate : Aggregate) (system : ProjectSystem) (faulted : Bool) :
    ProjectPhase → Prop
  | .idle => True
  | .reading event _ | .applying event _ | .advancing event _
  | .completing event _ | .completed event _ => Held aggregate system event
  | .rechecking event _ =>
      Held aggregate system event ∧ projected system.store event = true
  | .failing event _ _ =>
      Held aggregate system event ∧
        (event.aggregate = aggregate → faulted = true)
  | .failed event _ _ dead =>
      Held aggregate system event ∧ (event.aggregate = aggregate → dead = false)

structure Unpoisoned (aggregate : Aggregate) (system : ProjectSystem)
    (faulted : Nat → Bool) : Prop where
  rows : ∀ row ∈ system.store.events, row.ref ∈ system.assigned
  ids : ∀ left ∈ system.assigned, ∀ right ∈ system.assigned,
    left.eventId = right.eventId → left = right
  mapped : ∀ row ∈ system.store.events, row.aggregate = aggregate →
    MappedEvent row ∧ row.status ≠ .deadLetter
  hands : ∀ worker,
    HandOk aggregate system (faulted worker) (system.workers worker)

section Outbox

variable {aggregate : Aggregate} {system later : ProjectSystem}
  {faulted : Nat → Bool}

theorem Held.mono {event : OutboxEvent} (held : Held aggregate system event)
    (assigned : ∀ event ∈ system.assigned, event ∈ later.assigned) :
    Held aggregate later event :=
  ⟨assigned _ held.assigned, held.mapped⟩

variable {fault : Bool} {phase : ProjectPhase}

theorem HandOk.mono (hand : HandOk aggregate system fault phase)
    (assigned : ∀ event ∈ system.assigned, event ∈ later.assigned)
    (watermarks : ∀ event, projected system.store event = true →
      projected later.store event = true) :
    HandOk aggregate later fault phase := by
  cases phase with
  | idle => trivial
  | reading | applying | advancing | completing | completed =>
      exact Held.mono hand assigned
  | rechecking event => exact ⟨hand.1.mono assigned, watermarks event hand.2⟩
  | failing | failed => exact ⟨hand.1.mono assigned, hand.2⟩

structure Advanced (aggregate : Aggregate) (system later : ProjectSystem)
    (worker : Nat) (fault : Bool) : Prop where
  assigned : later.assigned = system.assigned
  workers : ∀ other, other ≠ worker → later.workers other = system.workers other
  watermarks : ∀ event, projected system.store event = true →
    projected later.store event = true
  rows : ∃ dead, Rewrites system.store later.store dead ∧
    ∀ id, dead = some id → ∃ event : OutboxEvent, event.eventId = id ∧
      event.ref ∈ system.assigned ∧ event.aggregate ≠ aggregate
  hand : HandOk aggregate later fault (later.workers worker)

variable {worker : Nat}

theorem Unpoisoned.advanced {laterFaulted : Nat → Bool}
    (unpoisoned : Unpoisoned aggregate system faulted)
    (advanced : Advanced aggregate system later worker (laterFaulted worker))
    (others : ∀ other, other ≠ worker → laterFaulted other = faulted other) :
    Unpoisoned aggregate later laterFaulted where
  rows := by
    intro next member
    obtain ⟨dead, rewrites, _⟩ := advanced.rows
    obtain ⟨row, rowMember, alike, _⟩ := rewrites next member
    have same : next.ref = row.ref := by
      simp [OutboxEvent.ref, alike.eventId, alike.aggregate,
        alike.aggregateVersion]
    rw [advanced.assigned, same]
    exact unpoisoned.rows row rowMember
  ids := by
    rw [advanced.assigned]
    exact unpoisoned.ids
  mapped := by
    intro next member ofAggregate
    obtain ⟨_, rewrites, given⟩ := advanced.rows
    obtain ⟨row, rowMember, alike, dies⟩ := rewrites next member
    rw [alike.aggregate] at ofAggregate
    obtain ⟨mapped, alive⟩ := unpoisoned.mapped row rowMember ofAggregate
    refine ⟨mapped.alike alike, fun status => ?_⟩
    rcases dies status with was | now
    · exact alive was
    · obtain ⟨_, sameId, assigned, other⟩ := given _ now
      have same := unpoisoned.ids _ assigned _ (unpoisoned.rows row rowMember)
        sameId
      exact other ((congrArg EventRef.aggregate same).trans ofAggregate)
  hands := by
    intro other
    by_cases same : other = worker
    · subst same
      exact advanced.hand
    · rw [advanced.workers other same, others other same]
      refine (unpoisoned.hands other).mono ?_ advanced.watermarks
      rw [advanced.assigned]
      exact fun _ member => member

theorem Advanced.of (assigned : later.assigned = system.assigned)
    (workers : later.workers = Function.update system.workers worker phase)
    (watermarks : ∀ event, projected system.store event = true →
      projected later.store event = true)
    (rows : ∃ dead, Rewrites system.store later.store dead ∧
      ∀ id, dead = some id → ∃ event : OutboxEvent, event.eventId = id ∧
        event.ref ∈ system.assigned ∧ event.aggregate ≠ aggregate)
    (hand : HandOk aggregate later fault phase) :
    Advanced aggregate system later worker fault where
  assigned := assigned
  workers := by
    intro other different
    rw [workers, Function.update_of_ne different]
  watermarks := watermarks
  rows := rows
  hand := by
    rw [workers, Function.update_self]
    exact hand

theorem Advanced.moved (hand : HandOk aggregate system fault phase) :
    Advanced aggregate system (system.move worker phase) worker fault :=
  .of rfl rfl (fun _ reached => reached)
    ⟨none, .refl system.store none, nofun⟩
    (hand.mono (fun _ member => member) fun _ reached => reached)

theorem Advanced.wrote {store : OutboxStore} {dead : Option String}
    (sameMarks : store.watermarks = system.store.watermarks)
    (rewrites : Rewrites system.store store dead)
    (given : ∀ id, dead = some id → ∃ event : OutboxEvent, event.eventId = id ∧
      event.ref ∈ system.assigned ∧ event.aggregate ≠ aggregate) :
    Advanced aggregate system ({ system with store }.move worker .idle) worker
      fault := by
  refine .of rfl rfl ?_ ⟨dead, rewrites, given⟩ trivial
  intro event reached
  simpa [ProjectSystem.move, projected, getProjectionWatermark, sameMarks]
    using reached

/-- One statement of the drain loop, for a worker whose event is applied when it
is of the aggregate, and has attempts left when it failed by a fault. -/
theorem projectAdvance_advanced {config : ProjectConfig}
    {answer : Except String Unit}
    (unpoisoned : Unpoisoned aggregate system faulted)
    (applies : ∀ event now, system.workers worker = .applying event now →
      event.aggregate = aggregate → answer = .ok ())
    (retries : ∀ event now error,
      system.workers worker = .failing event now error →
      event.aggregate = aggregate → faulted worker = true →
      failSelect system.store event.eventId event.aggregate.tenantId
        (config.workerId worker) ≠ some true) :
    Advanced aggregate system (projectAdvance config system worker answer)
      worker (faulted worker) := by
  have hand := unpoisoned.hands worker
  unfold projectAdvance
  split
  · rename_i phase
    refine ⟨rfl, fun _ _ => rfl, fun _ reached => reached,
      ⟨none, .refl system.store none,
        fun _ impossible => by cases impossible⟩, ?_⟩
    rw [phase]
    trivial
  · rename_i event now phase
    rw [phase] at hand
    split
    · refine .moved ?_
      split <;> exact hand
    · rename_i unsupported
      refine .moved ⟨hand, fun ofAggregate => ?_⟩
      exact absurd (hand.mapped ofAggregate).supported unsupported
  · rename_i event now phase
    rw [phase] at hand
    cases answer with
    | ok =>
        exact .of rfl rfl (fun _ reached => reached)
          ⟨none, .refl system.store none, nofun⟩ ⟨hand.assigned, hand.mapped⟩
    | error =>
        refine .moved ⟨hand, fun ofAggregate => ?_⟩
        exact absurd (applies event now phase ofAggregate) nofun
  · rename_i event now phase
    rw [phase] at hand
    obtain ⟨events, _⟩ := advance_spec system.store event.aggregate
      event.aggregateVersion event.eventId now
    refine .of rfl rfl ?_ ⟨none, ?_, nofun⟩ ?_
    · exact fun other reached => projected_advance _ _ _ _ reached
    · intro row member
      dsimp only [ProjectSystem.move] at member
      rw [events] at member
      exact ⟨row, member, .refl row, .inl⟩
    · split
      · exact ⟨hand.assigned, hand.mapped⟩
      · rename_i refused
        exact ⟨⟨hand.assigned, hand.mapped⟩,
          projected_refused (Bool.eq_false_iff.mpr refused)⟩
  · rename_i event now phase
    rw [phase] at hand
    refine .moved ?_
    rw [if_pos hand.2]
    exact hand.1
  · rename_i event now phase
    rw [phase] at hand
    split
    · exact .moved trivial
    · refine .moved ?_
      split
      · trivial
      · exact hand
  · rename_i event now phase
    exact .wrote rfl (complete_rewrites _ _ _ _ _) nofun
  · rename_i event now error phase
    rw [phase] at hand
    split
    · exact .moved trivial
    · rename_i dead selected
      refine .moved ⟨hand.1, fun ofAggregate => ?_⟩
      have left := retries event now error phase ofAggregate
        (hand.2 ofAggregate)
      cases dead with
      | true => exact absurd selected left
      | false => rfl
  · rename_i event now error dead phase
    rw [phase] at hand
    refine .wrote rfl (fail_rewrites _ _ _ _ _ _ _) ?_
    intro id given
    cases dead with
    | false => cases given
    | true =>
        cases given
        refine ⟨event, rfl, hand.1.assigned, fun ofAggregate => ?_⟩
        exact absurd (hand.2 ofAggregate) nofun

theorem claim_advanced (config : ProjectConfig) (now : Int)
    (unpoisoned : Unpoisoned aggregate system faulted)
    (idle : system.workers worker = .idle) :
    Advanced aggregate system (projectStep config system (.claim worker now))
      worker false := by
  simp only [projectStep]
  split
  · rename_i event store _ claims
    obtain ⟨row, claimed⟩ := claimOutboxEvent_spec claims
    have member := (Table.find?_eq_some_iff.mp claimed.found).1
    have sameRef : event.ref = row.ref := by
      rw [claimed.claims]
      rfl
    refine .of rfl rfl ?_ ⟨none, claim_rewrites claims,
      fun _ impossible => by cases impossible⟩ ⟨?_, ?_⟩
    · intro other reached
      have sameMarks : store.watermarks = system.store.watermarks := by
        unfold claimOutboxEvent at claims
        split at claims <;> cases claims
        rfl
      simpa [ProjectSystem.move, projected, getProjectionWatermark, sameMarks]
        using reached
    · rw [sameRef]
      exact unpoisoned.rows row member
    · intro ofAggregate
      have mapped := (unpoisoned.mapped row member
        ((congrArg EventRef.aggregate sameRef).symm.trans ofAggregate)).1
      rw [claimed.claims]
      exact mapped.alike ⟨rfl, rfl, rfl, rfl, rfl, rfl, rfl⟩
  · refine ⟨rfl, fun _ _ => rfl, fun _ reached => reached,
      ⟨none, .refl system.store none,
        fun _ impossible => by cases impossible⟩, ?_⟩
    rw [idle]
    trivial

theorem purge_advanced (config : ProjectConfig) (tenantId : String)
    (completedBefore : Int) (unpoisoned : Unpoisoned aggregate system faulted)
    (worker : Nat) :
    Advanced aggregate system
      (projectStep config system (.purge tenantId completedBefore)) worker
      (faulted worker) where
  assigned := rfl
  workers := fun _ _ => rfl
  watermarks := fun _ reached => reached
  rows := ⟨none, .delete rfl, nofun⟩
  hand := (unpoisoned.hands worker).mono (fun _ member => member)
    fun _ reached => reached

theorem fault_advanced {event : OutboxEvent} {now : Int} {error : String}
    (unpoisoned : Unpoisoned aggregate system faulted)
    (held : projecting (system.workers worker) = some (event, now)) :
    Advanced aggregate system (system.move worker (.failing event now error))
      worker true := by
  have hand := unpoisoned.hands worker
  refine .moved ⟨?_, fun _ => rfl⟩
  cases phase : system.workers worker with
  | idle | failing | failed => simp [phase, projecting] at held
  | rechecking =>
      rw [phase] at hand held
      cases held
      exact hand.1
  | reading | applying | advancing | completing | completed =>
      rw [phase] at hand held
      cases held
      exact hand

theorem Unpoisoned.append {config : ProjectConfig} {target : Aggregate}
    {eventType : String} {payload : Value} {dedupeKey eventId : String}
    {now maxAttempts : Int} {availableAt : Option Int}
    (unpoisoned : Unpoisoned aggregate system faulted)
    (mapped : target = aggregate → supportedEventType eventType = true ∧
      (eventType = "workflow.outcome" → outcomeMapped payload = true)) :
    Unpoisoned aggregate (projectStep config system (.append target eventType
      payload dedupeKey eventId now maxAttempts availableAt)) faulted := by
  rcases append_cases unpoisoned.rows config target eventType payload dedupeKey
    eventId now maxAttempts availableAt with same | ⟨_, event, inserts⟩
  · rw [same]
    exact unpoisoned
  refine ⟨?_, ?_, ?_, ?_⟩
  · intro row member
    rw [inserts.assigned]
    rcases (inserts.rows row).mp member with old | rfl
    · exact List.mem_cons_of_mem _ (unpoisoned.rows row old)
    · exact List.mem_cons_self
  · rw [inserts.assigned]
    intro left leftMember right rightMember same
    rcases List.mem_cons.mp leftMember with rfl | leftOld <;>
      rcases List.mem_cons.mp rightMember with rfl | rightOld
    · rfl
    · exact absurd same.symm (inserts.fresh right rightOld)
    · exact absurd same (inserts.fresh left leftOld)
    · exact unpoisoned.ids left leftOld right rightOld same
  · intro row member ofAggregate
    rcases (inserts.rows row).mp member with old | rfl
    · exact unpoisoned.mapped row old ofAggregate
    · obtain ⟨supported, outcome⟩ :=
        mapped (inserts.ofAggregate.symm.trans ofAggregate)
      rw [← inserts.ofType] at supported outcome
      rw [← inserts.ofPayload] at outcome
      refine ⟨⟨supported, outcome⟩, ?_⟩
      rw [inserts.status]
      exact EventStatus.noConfusion
  · intro worker
    rw [inserts.workers]
    refine (unpoisoned.hands worker).mono ?_ ?_
    · rw [inserts.assigned]
      exact fun _ member => List.mem_cons_of_mem _ member
    · intro other reached
      simpa [projected, getProjectionWatermark, inserts.watermarks]
        using reached

end Outbox

/-- A tick enqueues for the aggregate an outcome that no conversation status is
mapped to. -/
def Unmapped (aggregate : Aggregate) (system : TickSystem) : TickAction → Bool
  | .advance worker _ _ _ =>
      match system.ticks worker with
      | .appending enqueue conversationId _ _ =>
          decide (conversationAggregate enqueue.tenantId conversationId =
              aggregate) &&
            (mappedStatus (.str (outcomeStatus enqueue.result))).isNone
      | _ => false
  | _ => false

/-- An outcome of the aggregate is applied when no live conversation is linked
to its revision. -/
def Unlinked (aggregate : Aggregate) (system : TickSystem) : TickAction → Bool
  | .advance worker _ _ _ =>
      match system.ticks worker, system.outbox.workers worker with
      | .draining _ _, .applying event _ =>
          decide (event.aggregate = aggregate) &&
            event.eventType == "workflow.outcome" &&
            !outcomeLinked system.conversations event.aggregate.tenantId
              event.payload
      | _, _ => false
  | _ => false

/-- An event of the aggregate whose projection was ended by a fault has no
attempt left. -/
def Exhausted (config : TickConfig) (aggregate : Aggregate)
    (system : TickSystem) : TickAction → Bool
  | .advance worker _ _ _ =>
      match system.ticks worker, system.outbox.workers worker with
      | .draining _ _, .failing event _ _ =>
          decide (event.aggregate = aggregate) && system.faulted worker &&
            failSelect system.outbox.store event.eventId
              event.aggregate.tenantId (config.executor.workerId worker) ==
              some true
      | _, _ => false
  | _ => false

def Smooth (config : TickConfig) (aggregate : Aggregate) (system : TickSystem)
    (action : TickAction) : Prop :=
  Unmapped aggregate system action = false ∧
    Unlinked aggregate system action = false ∧
    Exhausted config aggregate system action = false

instance (config : TickConfig) (aggregate : Aggregate) (system : TickSystem)
    (action : TickAction) : Decidable (Smooth config aggregate system action) :=
  inferInstanceAs (Decidable (_ ∧ _))

/-- The revision that the live conversation is linked to is completed, and an
event of the conversation that stands before the one of the completion is given
up. -/
def Poisoned (system : TickSystem)
    (revisionId tenantId conversationId : String) : Prop :=
  (linkedConversation system.conversations revisionId tenantId).map
      Conversation.conversationId = some conversationId ∧
    (system.workflow.store.revisions.find? revisionId).any (fun revision =>
      revision.tenantId == tenantId && revision.status == .completed) = true ∧
    ∃ dead ∈ system.outbox.store.events.rows,
      dead.aggregate = conversationAggregate tenantId conversationId ∧
      dead.status = .deadLetter ∧
      ∀ final ∈ system.outbox.store.events.rows,
        final.aggregate = dead.aggregate →
        final.dedupeKey = outcomeDedupeKey revisionId "complete" →
        dead.aggregateVersion < final.aggregateVersion

instance (system : TickSystem) (revisionId tenantId conversationId : String) :
    Decidable (Poisoned system revisionId tenantId conversationId) :=
  inferInstanceAs (Decidable (_ ∧ _))

section Ticks

variable {config : TickConfig} {aggregate : Aggregate} {system : TickSystem}

theorem startRun_outbox (config : TickConfig) (system : TickSystem)
    (worker : Nat) (target : Target) (targets : List Target) (now : Int) :
    (startRun config system worker target targets now).outbox =
        system.outbox ∧
      (startRun config system worker target targets now).faulted =
        system.faulted := by
  unfold startRun
  split <;> exact ⟨rfl, rfl⟩

theorem projection_eq_ok {rows : List Conversation} {event : OutboxEvent}
    (mapped : MappedEvent event)
    (linked : event.eventType = "workflow.outcome" →
      outcomeLinked rows event.aggregate.tenantId event.payload = true) :
    projection rows event = .ok () := by
  unfold projection
  split
  · rename_i refused
    obtain ⟨outcome, unprojectable⟩ := refused
    simp [projectable, linked outcome, mapped.outcome outcome] at unprojectable
  · rfl

section Unpoisoned

variable (unpoisoned : Unpoisoned aggregate system.outbox system.faulted)

include unpoisoned

theorem drain_unpoisoned {worker left : Nat} {now : Int}
    (linked : ∀ event now, system.outbox.workers worker = .applying event now →
      event.aggregate = aggregate → event.eventType = "workflow.outcome" →
      outcomeLinked system.conversations event.aggregate.tenantId
        event.payload = true)
    (retries : ∀ event now error,
      system.outbox.workers worker = .failing event now error →
      event.aggregate = aggregate → system.faulted worker = true →
      failSelect system.outbox.store event.eventId event.aggregate.tenantId
        (config.executor.workerId worker) ≠ some true) :
    Unpoisoned aggregate (drain config system worker left now).outbox
      (drain config system worker left now).faulted := by
  have hand := unpoisoned.hands worker
  unfold drain
  split
  · rename_i idle
    split
    · exact unpoisoned
    · have moves := claim_advanced config.projector now unpoisoned idle
      refine Unpoisoned.advanced unpoisoned
        (show Advanced aggregate system.outbox _ worker _ from ?_) ?_
      · dsimp only [TickSystem.move]
        rw [Function.update_self]
        exact moves
      · intro other different
        exact Function.update_of_ne different _ _
  · rename_i event since phase
    refine unpoisoned.advanced (projectAdvance_advanced unpoisoned ?_ retries)
      fun _ _ => rfl
    intro other now applying ofAggregate
    rw [phase] at applying hand
    cases applying
    exact projection_eq_ok (hand.mapped ofAggregate)
      (linked event since phase ofAggregate)
  · rename_i notApplying
    have moves : Advanced aggregate system.outbox (projectAdvance
        config.projector system.outbox worker (.ok ())) worker
        (system.faulted worker) := by
      refine projectAdvance_advanced unpoisoned ?_ retries
      intro event now applying
      exact absurd applying (notApplying event now)
    exact unpoisoned.advanced moves fun _ _ => rfl

theorem tickAdvance_unpoisoned {worker : Nat} {answer : Answer} {clock : Int}
    {eventId : String}
    (smooth : Smooth config aggregate system
      (.advance worker answer clock eventId)) :
    Unpoisoned aggregate
      (tickAdvance config system worker answer clock eventId).outbox
      (tickAdvance config system worker answer clock eventId).faulted := by
  obtain ⟨mapped, linked, attempts⟩ := smooth
  unfold tickAdvance
  split
  · exact unpoisoned
  · exact unpoisoned
  · exact unpoisoned
  · exact unpoisoned
  · rename_i target targets now _
    obtain ⟨outbox, faulted⟩ :=
      startRun_outbox config system worker target targets now
    rw [outbox, faulted]
    exact unpoisoned
  · rename_i target targets now _
    split
    · exact unpoisoned
    · obtain ⟨outbox, faulted⟩ :=
        startRun_outbox config system worker target targets now
      rw [outbox, faulted]
      exact unpoisoned
    · exact unpoisoned
    · exact unpoisoned
  · split <;> exact unpoisoned
  · rename_i enqueue conversationId pending now phase
    refine unpoisoned.append fun same => ⟨rfl, fun _ => ?_⟩
    rw [outcomeMapped_payload]
    simpa [Unmapped, phase, same] using mapped
  · rename_i phase
    refine drain_unpoisoned unpoisoned ?_ ?_
    · intro event since applying ofAggregate ofType
      simpa [Unlinked, phase, applying, ofAggregate, ofType] using linked
    · intro event since error failing ofAggregate faulted
      simpa [Exhausted, phase, failing, ofAggregate, faulted] using attempts

theorem tickStep_unpoisoned {action : TickAction}
    (smooth : Smooth config aggregate system action) :
    Unpoisoned aggregate (tickStep config system action).outbox
      (tickStep config system action).faulted := by
  cases action with
  | tick =>
      simp only [tickStep]
      split <;> exact unpoisoned
  | advance => exact tickAdvance_unpoisoned unpoisoned smooth
  | fault worker error =>
      simp only [tickStep]
      split
      · exact unpoisoned
      · rename_i event now held
        refine Unpoisoned.advanced unpoisoned
          (show Advanced aggregate system.outbox _ worker _ from ?_) ?_
        · dsimp only
          rw [Function.update_self]
          exact fault_advanced unpoisoned held
        · intro other different
          exact Function.update_of_ne different _ _
  | crash worker =>
      have moves : Advanced aggregate system.outbox
          (system.outbox.move worker .idle) worker (system.faulted worker) :=
        .moved trivial
      exact unpoisoned.advanced moves fun _ _ => rfl
  | workflow | converse => exact unpoisoned
  | publish kind =>
      refine unpoisoned.append fun _ => ?_
      cases kind
      · exact ⟨rfl, fun outcome => absurd outcome (by decide)⟩
      · exact ⟨rfl, fun outcome => absurd outcome (by decide)⟩
  | purge tenantId completedBefore =>
      have moves := purge_advanced config.projector tenantId completedBefore
        unpoisoned 0
      exact unpoisoned.advanced moves fun _ _ => rfl

end Unpoisoned

theorem unpoisoned_initial (aggregate : Aggregate) :
    Unpoisoned aggregate TickSystem.initial.outbox
      TickSystem.initial.faulted where
  rows := fun row member => absurd member (Table.not_mem_empty row)
  ids := fun _ member => absurd member List.not_mem_nil
  mapped := fun row member => absurd member (Table.not_mem_empty row)
  hands := fun _ => trivial

end Ticks

/-- Along every run in which no tick enqueues for a conversation an outcome that
is not mapped, no outcome is applied to a conversation that is gone and no fault
takes the last attempt, a completed revision finds no event of its conversation
given up. -/
theorem outcomes_never_poison (config : TickConfig)
    (actions : List TickAction) (revisionId tenantId conversationId : String)
    (smooth : Along (tickStep config)
      (Smooth config (conversationAggregate tenantId conversationId))
      TickSystem.initial actions) :
    ¬ Poisoned (tickRun config actions) revisionId tenantId conversationId := by
  have unpoisoned := Along.invariant
    (fun system : TickSystem => Unpoisoned
      (conversationAggregate tenantId conversationId) system.outbox
      system.faulted)
    (fun _ _ unpoisoned smooth => tickStep_unpoisoned unpoisoned smooth)
    (unpoisoned_initial _) smooth
  rintro ⟨_, _, dead, member, ofAggregate, status, _⟩
  exact (unpoisoned.mapped dead member ofAggregate).2 status

def sampleWorker : TickConfig := ⟨sampleConfig, ⟨fun _ => "json"⟩⟩

def sampleLinked : Conversation where
  conversationId := "conversation:1"
  tenantId := "tenant"
  principalId := "user"
  status := .executing
  state := fun _ => none
  stateVersion := 1
  workflowRunId := some "run"
  workflowRevisionId := some "revision"
  presentation := none
  presentationHash := none
  createdAt := 0
  updatedAt := 0
  expiresAt := 180
  contentExpiresAt := 180
  closedAt := none

def linkedRead : List TickAction :=
  [.workflow (.createRun "run" "tenant" "user" "goal" 0),
    .workflow (.createRevision sampleTarget "graph" samplePlan 0 1000),
    .workflow (.authorizeRequestedRead sampleTarget "graph" "user" 0 900),
    .converse [sampleLinked]]

def sampleTick (now : Int) (answers : List Answer) (eventId : String) :
    List TickAction :=
  .tick 0 now :: answers.map fun answer => .advance 0 answer now eventId

def dispatchingTick (now : Int) (token : String) (outcome : DispatchOutcome)
    (rest : List Answer) : List TickAction :=
  sampleTick now ([.proceed, .proceed, .proceed, .proceed, .lease token,
    .proceed, .proceed, .decision { allowed := true }, .dispatched outcome] ++
    rest) token

def refusedTick : List TickAction :=
  dispatchingTick 1 "first" (.retryableStepError "busy" (some 30))
    (List.replicate 13 .proceed)

def completedTick : List TickAction :=
  dispatchingTick 40 "last" (.returned readResult)
    (List.replicate 5 .proceed ++ [.lease "none"] ++ List.replicate 6 .proceed)

theorem outcomes_never_poison_sample :
    ¬ Poisoned (tickRun sampleWorker (linkedRead ++ refusedTick ++
      completedTick)) "revision" "tenant" "conversation:1" :=
  outcomes_never_poison sampleWorker (linkedRead ++ refusedTick ++
    completedTick) "revision" "tenant" "conversation:1" (by decide +kernel)

/-- A tick that finds the step waiting: its outcome is enqueued once, and each
such tick fails to apply it. -/
def waitingTick (now : Int) : List TickAction :=
  sampleTick now (List.replicate 4 .proceed ++ [.lease "none"] ++
    List.replicate 11 .proceed) "waiting"

theorem waiting_step_poisons :
    Poisoned (tickRun sampleWorker (linkedRead ++ refusedTick ++
      waitingTick 2 ++ waitingTick 8 ++ waitingTick 14 ++ waitingTick 20 ++
      waitingTick 26 ++ completedTick)) "revision" "tenant"
      "conversation:1" := by
  decide +kernel

end AcpTask.Worker
