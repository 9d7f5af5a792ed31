import AcpTask.Outbox.Projection

namespace AcpTask.Outbox

open Data Library

/-! Whether an event can be completed without its payload being applied. -/

/-- An append to an aggregate whose newest event is no longer in the table: some
event that was once appended has a version beyond those of the rows left. -/
def forgets (system : ProjectSystem) : ProjectAction → Bool
  | .append aggregate _ _ dedupeKey _ _ _ _ =>
      (deduped system.store aggregate.tenantId dedupeKey).isNone &&
        system.assigned.any fun event =>
          decide (event.aggregate = aggregate) &&
            decide (lastVersion system.store aggregate < event.aggregateVersion)
  | _ => false

/-- An event that is appended gets a version beyond every version its aggregate
ever had, and beyond the watermark. -/
def NumbersOn (config : ProjectConfig) (system : ProjectSystem)
    (action : ProjectAction) : Prop :=
  ∀ event, (projectStep config system action).assigned =
      event :: system.assigned →
    (∀ older ∈ system.assigned, older.aggregate = event.aggregate →
      older.aggregateVersion < event.aggregateVersion) ∧
    ∀ watermark, getProjectionWatermark system.store event.aggregate =
        some watermark →
      watermark.projectedVersion < event.aggregateVersion

section Statements

variable {store later : OutboxStore}

structure StoreMove (store later : OutboxStore) (done : Option EventRef) :
    Prop where
  origin : ∀ row ∈ later.events, ∃ old ∈ store.events, old.ref = row.ref
  unfinished : ∀ old ∈ store.events, old.status ≠ .completed →
    done = some old.ref ∨
      ∃ row ∈ later.events, row.ref = old.ref ∧ row.status ≠ .completed

theorem StoreMove.refl (store : OutboxStore) : StoreMove store store none where
  origin := fun row member => ⟨row, member, rfl⟩
  unfinished := fun old member status => .inr ⟨old, member, rfl, status⟩

theorem StoreMove.update {condition : OutboxEvent → Bool}
    {assign : OutboxEvent → OutboxEvent}
    (keepsKey : ∀ row, (assign row).eventId = row.eventId)
    (events : later.events = store.events.updateWhere condition assign keepsKey)
    (sameRef : ∀ row, (assign row).ref = row.ref) {done : Option EventRef}
    (unfinished : ∀ row ∈ store.events, condition row = true →
      done = some row.ref ∨ (assign row).status ≠ .completed) :
    StoreMove store later done where
  origin := by
    intro row member
    rw [events, Table.mem_updateWhere] at member
    obtain ⟨old, oldMember, rfl⟩ := member
    refine ⟨old, oldMember, ?_⟩
    split
    · exact (sameRef old).symm
    · rfl
  unfinished := by
    intro old member status
    have kept : (if condition old then assign old else old) ∈ later.events := by
      rw [events, Table.mem_updateWhere]
      exact ⟨old, member, rfl⟩
    by_cases selected : condition old = true
    · rcases unfinished old member selected with finished | still
      · exact .inl finished
      · rw [if_pos selected] at kept
        exact .inr ⟨_, kept, sameRef old, still⟩
    · rw [if_neg selected] at kept
      exact .inr ⟨old, kept, rfl, status⟩

theorem claim_storeMove {workerId : String} {now visibilityTimeout : Int}
    {tenantId : Option String} {event : OutboxEvent}
    (claims : claimOutboxEvent store workerId now visibilityTimeout tenantId =
      (some event, later)) : StoreMove store later none := by
  unfold claimOutboxEvent at claims
  split at claims
  · cases claims
  · cases claims
    exact .update (OutboxEvent.claim_eventId workerId (now + visibilityTimeout))
      rfl (fun _ => rfl) fun _ _ _ => .inr EventStatus.noConfusion

theorem fail_storeMove (store : OutboxStore) (eventId tenantId : String)
    (now retryDelay : Int) (error : String) (dead : Bool) :
    StoreMove store
      (failUpdate store eventId tenantId now retryDelay error dead) none := by
  refine .update (fun _ => by rfl) rfl (fun _ => by rfl) fun _ _ _ => .inr ?_
  cases dead <;> exact EventStatus.noConfusion

theorem complete_storeMove {eventId tenantId workerId : String} {now : Int}
    {done : EventRef} (named : ∀ row ∈ store.events, row.eventId = eventId →
      row.ref = done) :
    StoreMove store (completeUpdate store eventId tenantId workerId now).2
      (some done) := by
  refine .update (fun _ => by rfl) rfl (fun _ => by rfl) fun row member selected =>
    .inl ?_
  simp only [Bool.and_eq_true, OutboxEvent.is, beq_iff_eq] at selected
  rw [named row member selected.1.1]

theorem purge_storeMove (store : OutboxStore) (tenantId : String)
    (completedBefore : Int) :
    StoreMove store (purgeCompletedOutbox store tenantId completedBefore)
      none where
  origin := fun row member => ⟨row, (Table.mem_deleteWhere.mp member).1, rfl⟩
  unfinished := by
    intro old member status
    refine .inr ⟨old, Table.mem_deleteWhere.mpr ⟨member, ?_⟩, rfl, status⟩
    simp [status]

theorem advance_spec (store : OutboxStore) (aggregate : Aggregate)
    (version : Nat) (eventId : String) (now : Int) :
    (advanceProjectionWatermark store aggregate version eventId now).2.events =
      store.events ∧
    ∀ other watermark, getProjectionWatermark (advanceProjectionWatermark store
        aggregate version eventId now).2 other = some watermark →
      getProjectionWatermark store other = some watermark ∨
      (other = aggregate ∧ watermark.projectedVersion = version) := by
  unfold advanceProjectionWatermark
  dsimp only
  split
  · rename_i table inserted
    refine ⟨rfl, ?_⟩
    intro other watermark found
    rw [getProjectionWatermark, Table.find?_of_insert? inserted] at found
    split at found
    · rename_i same
      cases found
      exact .inr ⟨(congrArg Prod.fst same).symm, rfl⟩
    · exact .inl found
  · refine ⟨rfl, ?_⟩
    intro other watermark found
    rw [getProjectionWatermark, Table.find?_updateWhere,
      Option.map_eq_some_iff] at found
    obtain ⟨old, oldFound, written⟩ := found
    split at written
    · rename_i selected
      simp only [Bool.and_eq_true, decide_eq_true_eq] at selected
      subst written
      have same := (Table.find?_eq_some_iff.mp oldFound).2
      exact .inr ⟨congrArg Prod.fst (same.symm.trans selected.1), rfl⟩
    · subst written
      exact .inl oldFound

end Statements

def ProjectPhase.event : ProjectPhase → Option (OutboxEvent × Bool)
  | .idle | .failing _ _ _ | .failed _ _ _ _ => none
  | .reading event _ | .applying event _ => some (event, false)
  | .advancing event _ | .rechecking event _ | .completing event _
  | .completed event _ => some (event, true)

/-- An event in hand: the earlier ones of its aggregate are applied, and it is
itself once its worker is past the projection. -/
structure InHand (system : ProjectSystem) (event : OutboxEvent)
    (past : Bool) : Prop where
  assigned : event.ref ∈ system.assigned
  earlier : ∀ other ∈ system.assigned, other.aggregate = event.aggregate →
    other.aggregateVersion < event.aggregateVersion → other ∈ system.applied
  applied : past = true → event.ref ∈ system.applied

structure Applied (system : ProjectSystem) : Prop where
  rows : ∀ row ∈ system.store.events, row.ref ∈ system.assigned
  ids : ∀ left ∈ system.assigned, ∀ right ∈ system.assigned,
    left.eventId = right.eventId → left = right
  versions : ∀ left ∈ system.assigned, ∀ right ∈ system.assigned,
    left.aggregate = right.aggregate →
    left.aggregateVersion = right.aggregateVersion → left = right
  settled : ∀ event ∈ system.assigned, event ∈ system.applied ∨
    ∃ row ∈ system.store.events, row.ref = event ∧ row.status ≠ .completed
  below : ∀ aggregate watermark,
    getProjectionWatermark system.store aggregate = some watermark →
    (∃ event ∈ system.assigned, event.aggregate = aggregate ∧
      watermark.projectedVersion ≤ event.aggregateVersion) ∧
    ∀ event ∈ system.assigned, event.aggregate = aggregate →
      event.aggregateVersion ≤ watermark.projectedVersion →
      event ∈ system.applied
  hands : ∀ worker event past,
    (system.workers worker).event = some (event, past) →
    InHand system event past

section Step

variable {config : ProjectConfig} {system : ProjectSystem}

variable {event : OutboxEvent}

theorem InHand.mono {later : ProjectSystem} {past : Bool}
    (hand : InHand system event past)
    (assigned : later.assigned = system.assigned)
    (applied : ∀ event ∈ system.applied, event ∈ later.applied) :
    InHand later event past where
  assigned := by
    rw [assigned]
    exact hand.assigned
  earlier := by
    rw [assigned]
    exact fun other member same older =>
      applied other (hand.earlier other member same older)
  applied := fun past => applied _ (hand.applied past)

variable {store : OutboxStore}

theorem Applied.stored {done : Option EventRef} (applied : Applied system)
    (move : StoreMove system.store store done)
    (finished : ∀ event, done = some event → event ∈ system.applied)
    (watermarks : ∀ aggregate watermark,
      getProjectionWatermark store aggregate = some watermark →
      getProjectionWatermark system.store aggregate = some watermark ∨
      ∃ event, InHand system event true ∧ event.aggregate = aggregate ∧
        watermark.projectedVersion = event.aggregateVersion) :
    Applied { system with store } where
  rows := by
    intro row member
    obtain ⟨old, oldMember, same⟩ := move.origin row member
    rw [← same]
    exact applied.rows old oldMember
  ids := applied.ids
  versions := applied.versions
  settled := by
    intro event member
    rcases applied.settled event member with isApplied | ⟨row, found, same, status⟩
    · exact .inl isApplied
    · rcases move.unfinished row found status with finishes | ⟨next, still⟩
      · rw [same] at finishes
        exact .inl (finished event finishes)
      · rw [same] at still
        exact .inr ⟨next, still⟩
  below := by
    intro aggregate watermark found
    rcases watermarks aggregate watermark found with
      before | ⟨event, hand, rfl, version⟩
    · exact applied.below aggregate watermark before
    · refine ⟨⟨event.ref, hand.assigned, rfl, version.le⟩, ?_⟩
      intro other member same reached
      rw [version] at reached
      rcases reached.lt_or_eq with older | equal
      · exact hand.earlier other member same older
      · rw [applied.versions other member event.ref hand.assigned same equal]
        exact hand.applied rfl
  hands := fun worker event past held =>
    (applied.hands worker event past held).mono rfl fun _ member => member

theorem watermarks_kept (same : store.watermarks = system.store.watermarks) :
    ∀ aggregate watermark,
      getProjectionWatermark store aggregate = some watermark →
      getProjectionWatermark system.store aggregate = some watermark ∨
      ∃ event, InHand system event true ∧ event.aggregate = aggregate ∧
        watermark.projectedVersion = event.aggregateVersion := by
  intro aggregate watermark found
  rw [getProjectionWatermark, same] at found
  exact .inl found

theorem Applied.walked {worker : Nat} {phase : ProjectPhase}
    (applied : Applied system)
    (hand : ∀ event past, phase.event = some (event, past) →
      InHand system event past) : Applied (system.move worker phase) where
  rows := applied.rows
  ids := applied.ids
  versions := applied.versions
  settled := applied.settled
  below := applied.below
  hands := by
    intro other event past held
    have here : InHand system event past := by
      dsimp only [ProjectSystem.move] at held
      by_cases same : other = worker
      · subst same
        rw [Function.update_self] at held
        exact hand event past held
      · rw [Function.update_of_ne same] at held
        exact applied.hands other event past held
    exact here.mono rfl fun _ member => member

theorem none_in_hand {phase : ProjectPhase} (free : phase.event = none) :
    ∀ event past, phase.event = some (event, past) →
      InHand system event past := by
  intro event past held
  rw [free] at held
  cases held

theorem Applied.projected (applied : Applied system)
    (assigned : event.ref ∈ system.assigned)
    (reached : projected system.store event = true) :
    event.ref ∈ system.applied := by
  obtain ⟨watermark, found, version⟩ := (Option.any_eq_true _ _).mp reached
  exact (applied.below _ watermark found).2 event.ref assigned rfl
    (of_decide_eq_true version)

theorem Applied.advance {worker : Nat} {answer : Except String Unit}
    (applied : Applied system) :
    Applied (projectAdvance config system worker answer) := by
  unfold projectAdvance
  split
  · exact applied
  · rename_i event now phase
    have hand := applied.hands worker event false (by rw [phase]; rfl)
    split
    · refine applied.walked ?_
      intro other past held
      split at held
      · rename_i reached
        cases held
        exact ⟨hand.assigned, hand.earlier,
          fun _ => applied.projected hand.assigned reached⟩
      · cases held
        exact hand
    · exact applied.walked (none_in_hand rfl)
  · rename_i event now phase
    have hand := applied.hands worker event false (by rw [phase]; rfl)
    cases answer with
    | ok =>
        have grown : Applied { system with
            applied := event.ref :: system.applied } := by
          have member : ∀ other ∈ system.applied,
              other ∈ event.ref :: system.applied :=
            fun _ before => List.mem_cons_of_mem _ before
          refine ⟨applied.rows, applied.ids, applied.versions, ?_, ?_, ?_⟩
          · exact fun other assigned =>
              (applied.settled other assigned).imp_left (member other)
          · intro aggregate watermark found
            obtain ⟨reached, below⟩ := applied.below aggregate watermark found
            exact ⟨reached, fun other assigned same version =>
              member other (below other assigned same version)⟩
          · exact fun other held past holds =>
              (applied.hands other held past holds).mono rfl member
        refine grown.walked ?_
        intro other past held
        cases held
        refine ⟨hand.assigned, ?_, fun _ => List.mem_cons_self⟩
        exact fun older assigned same version => List.mem_cons_of_mem _
          (hand.earlier older assigned same version)
    | error => exact applied.walked (none_in_hand rfl)
  · rename_i event now phase
    have hand := applied.hands worker event true (by rw [phase]; rfl)
    obtain ⟨events, watermarks⟩ := advance_spec system.store event.aggregate
      event.aggregateVersion event.eventId now
    have move : StoreMove system.store (advanceProjectionWatermark system.store
        event.aggregate event.aggregateVersion event.eventId now).2
        Option.none := by
      refine ⟨?_, ?_⟩ <;> rw [events]
      · exact (StoreMove.refl system.store).origin
      · exact (StoreMove.refl system.store).unfinished
    have stored := applied.stored move nofun (by
      intro aggregate watermark found
      rcases watermarks aggregate watermark found with before | ⟨rfl, version⟩
      · exact .inl before
      · exact .inr ⟨event, hand, rfl, version⟩)
    refine stored.walked ?_
    intro other past held
    split at held
    all_goals
      cases held
      exact hand.mono rfl fun _ member => member
  · rename_i event now phase
    have hand := applied.hands worker event true (by rw [phase]; rfl)
    refine applied.walked ?_
    intro other past held
    split at held
    · cases held
      exact hand
    · cases held
  · rename_i event now phase
    have hand := applied.hands worker event true (by rw [phase]; rfl)
    split
    · exact applied.walked (none_in_hand rfl)
    · refine applied.walked ?_
      intro other past held
      split at held
      · cases held
      · cases held
        exact hand
  · rename_i event now phase
    have hand := applied.hands worker event true (by rw [phase]; rfl)
    have named : ∀ row ∈ system.store.events, row.eventId = event.eventId →
        row.ref = event.ref := by
      intro row member same
      exact applied.ids _ (applied.rows row member) _ hand.assigned same
    have move : StoreMove system.store (completeUpdate system.store
        event.eventId event.aggregate.tenantId (config.workerId worker) now).2
        (some event.ref) := complete_storeMove named
    refine (applied.stored move ?_ (watermarks_kept rfl)).walked
      (none_in_hand rfl)
    intro other same
    cases same
    exact hand.applied rfl
  · split <;> exact applied.walked (none_in_hand rfl)
  · rename_i event now error dead phase
    have move := fail_storeMove system.store event.eventId
      event.aggregate.tenantId now outboxRetrySeconds error dead
    exact (applied.stored move nofun (watermarks_kept rfl)).walked
      (none_in_hand rfl)

structure Inserts (system next : ProjectSystem) (aggregate : Aggregate)
    (eventType : String) (payload : Value) (event : OutboxEvent) : Prop where
  ofAggregate : event.aggregate = aggregate
  ofType : event.eventType = eventType
  ofPayload : event.payload = payload
  version : event.aggregateVersion = lastVersion system.store aggregate + 1
  status : event.status = .pending
  fresh : ∀ old ∈ system.assigned, old.eventId ≠ event.eventId
  assigned : next.assigned = event.ref :: system.assigned
  applied : next.applied = system.applied
  workers : next.workers = system.workers
  watermarks : next.store.watermarks = system.store.watermarks
  rows : ∀ row, row ∈ next.store.events ↔
    row ∈ system.store.events ∨ row = event

theorem append_cases
    (rows : ∀ row ∈ system.store.events, row.ref ∈ system.assigned)
    (config : ProjectConfig) (aggregate : Aggregate) (eventType : String)
    (payload : Value) (dedupeKey eventId : String) (now maxAttempts : Int)
    (availableAt : Option Int) :
    projectStep config system (.append aggregate eventType payload dedupeKey
        eventId now maxAttempts availableAt) = system ∨
    deduped system.store aggregate.tenantId dedupeKey = none ∧
    ∃ event, Inserts system (projectStep config system (.append aggregate
      eventType payload dedupeKey eventId now maxAttempts availableAt))
      aggregate eventType payload event := by
  simp only [projectStep]
  split
  · exact .inl rfl
  · rename_i unused
    have fresh : ∀ old ∈ system.assigned, old.eventId ≠ eventId := by
      intro old member same
      exact unused (List.any_eq_true.mpr ⟨old, member, beq_iff_eq.mpr same⟩)
    split
    · exact .inl rfl
    · rename_i event store appended
      rcases appendOutboxEvent_cases appended with
        ⟨found, _, rfl⟩ | ⟨absent, rfl, _, _, grown, rfl⟩
      · have known : event.eventId ≠ eventId :=
          fresh _ (rows event (List.mem_of_find?_eq_some found))
        left
        rw [if_neg known]
      · exact .inr ⟨absent, _, rfl, rfl, rfl, rfl, rfl, fresh, if_pos rfl, rfl,
          rfl, rfl, fun row => Table.mem_of_insert? grown⟩

theorem Applied.numbers {aggregate : Aggregate} {eventType : String}
    {payload : Value} {dedupeKey eventId : String} {now maxAttempts : Int}
    {availableAt : Option Int} (applied : Applied system)
    (kept : forgets system (.append aggregate eventType payload dedupeKey
      eventId now maxAttempts availableAt) = false)
    (absent : deduped system.store aggregate.tenantId dedupeKey = none) :
    (∀ older ∈ system.assigned, older.aggregate = aggregate →
      older.aggregateVersion < lastVersion system.store aggregate + 1) ∧
    ∀ watermark, getProjectionWatermark system.store aggregate =
        some watermark →
      watermark.projectedVersion < lastVersion system.store aggregate + 1 := by
  have newest : ∀ older ∈ system.assigned, older.aggregate = aggregate →
      older.aggregateVersion ≤ lastVersion system.store aggregate := by
    intro older member same
    simp only [forgets, absent, Option.isNone_none, Bool.true_and] at kept
    have below := List.any_eq_false.mp kept older member
    simpa [same] using below
  refine ⟨fun older member same => Nat.lt_succ_of_le (newest older member same),
    fun watermark found => ?_⟩
  obtain ⟨⟨older, member, same, _⟩, _⟩ :=
    applied.below aggregate watermark found
  have bound := newest older member same
  omega

theorem projectAdvance_assigned (config : ProjectConfig)
    (system : ProjectSystem) (worker : Nat) (answer : Except String Unit) :
    (projectAdvance config system worker answer).assigned =
      system.assigned := by
  unfold projectAdvance
  split
  · rfl
  · split <;> rfl
  · split <;> rfl
  · rfl
  · rfl
  · split <;> rfl
  · rfl
  · split <;> rfl
  · rfl

theorem Applied.numbersOn (applied : Applied system) {action : ProjectAction}
    (kept : forgets system action = false) :
    NumbersOn config system action := by
  intro event grown
  have unchanged : (projectStep config system action).assigned ≠
      system.assigned := by
    rw [grown]
    exact List.cons_ne_self event system.assigned
  cases action with
  | append aggregate eventType payload dedupeKey eventId now maxAttempts
      availableAt =>
      rcases append_cases applied.rows config aggregate eventType payload
        dedupeKey eventId now maxAttempts availableAt with
        same | ⟨absent, inserted, inserts⟩
      · exact absurd (congrArg ProjectSystem.assigned same) unchanged
      · rw [inserts.assigned, List.cons.injEq] at grown
        obtain ⟨rfl, _⟩ := grown
        obtain ⟨newer, ahead⟩ := applied.numbers kept absent
        rw [← inserts.version, ← inserts.ofAggregate] at newer ahead
        exact ⟨newer, ahead⟩
  | purge | crash => exact absurd rfl unchanged
  | claim =>
      refine absurd ?_ unchanged
      simp only [projectStep]
      split <;> rfl
  | advance worker answer =>
      exact absurd (projectAdvance_assigned config system worker answer)
        unchanged

theorem Applied.append (applied : Applied system) {next : ProjectSystem}
    {aggregate : Aggregate} {eventType : String} {payload : Value}
    (inserts : Inserts system next aggregate eventType payload event)
    (newer : ∀ older ∈ system.assigned, older.aggregate = aggregate →
      older.aggregateVersion < event.aggregateVersion) (ahead : ∀ watermark,
      getProjectionWatermark system.store aggregate = some watermark →
      watermark.projectedVersion < event.aggregateVersion) :
    Applied next where
  rows := by
    intro row member
    rw [inserts.assigned]
    rcases (inserts.rows row).mp member with old | rfl
    · exact List.mem_cons_of_mem _ (applied.rows row old)
    · exact List.mem_cons_self
  ids := by
    rw [inserts.assigned]
    intro left leftMember right rightMember same
    rcases List.mem_cons.mp leftMember with rfl | leftOld
    · rcases List.mem_cons.mp rightMember with rfl | rightOld
      · rfl
      · exact absurd same.symm (inserts.fresh right rightOld)
    · rcases List.mem_cons.mp rightMember with rfl | rightOld
      · exact absurd same (inserts.fresh left leftOld)
      · exact applied.ids left leftOld right rightOld same
  versions := by
    rw [inserts.assigned]
    intro left leftMember right rightMember sameAggregate sameVersion
    rcases List.mem_cons.mp leftMember with rfl | leftOld
    · rcases List.mem_cons.mp rightMember with rfl | rightOld
      · rfl
      · have less := newer right rightOld
          (sameAggregate.symm.trans inserts.ofAggregate)
        exact absurd sameVersion less.ne'
    · rcases List.mem_cons.mp rightMember with rfl | rightOld
      · have less := newer left leftOld
          (sameAggregate.trans inserts.ofAggregate)
        exact absurd sameVersion less.ne
      · exact applied.versions left leftOld right rightOld sameAggregate
          sameVersion
  settled := by
    rw [inserts.assigned, inserts.applied]
    intro other member
    rcases List.mem_cons.mp member with rfl | old
    · refine .inr ⟨event, (inserts.rows event).mpr (.inr rfl), rfl, ?_⟩
      rw [inserts.status]
      exact EventStatus.noConfusion
    · refine (applied.settled other old).imp_right ?_
      rintro ⟨row, found, still⟩
      exact ⟨row, (inserts.rows row).mpr (.inl found), still⟩
  below := by
    rw [inserts.assigned, inserts.applied]
    intro other watermark found
    rw [getProjectionWatermark, inserts.watermarks] at found
    obtain ⟨⟨older, member, same, reached⟩, below⟩ :=
      applied.below other watermark found
    refine ⟨⟨older, List.mem_cons_of_mem _ member, same, reached⟩, ?_⟩
    intro event' member' same' reached'
    rcases List.mem_cons.mp member' with rfl | old
    · have sameAggregate : aggregate = other :=
        inserts.ofAggregate.symm.trans same'
      subst sameAggregate
      exact absurd reached' (ahead watermark found).not_ge
    · exact below event' old same' reached'
  hands := by
    rw [inserts.workers]
    intro worker held past holds
    have hand := applied.hands worker held past holds
    refine ⟨?_, ?_, ?_⟩
    · rw [inserts.assigned]
      exact List.mem_cons_of_mem _ hand.assigned
    · rw [inserts.assigned, inserts.applied]
      intro other member same older
      rcases List.mem_cons.mp member with rfl | old
      · have less := newer held.ref hand.assigned
          (same.symm.trans inserts.ofAggregate)
        exact absurd older less.not_gt
      · exact hand.earlier other old same older
    · rw [inserts.applied]
      exact hand.applied

theorem Applied.claimed {workerId : String} {now : Int} {worker : Nat}
    (applied : Applied system)
    (claims : claimOutboxEvent system.store workerId now
      outboxVisibilitySeconds none = (some event, store)) :
    Applied ({ system with store }.move worker (.reading event now)) := by
  have watermarks : store.watermarks = system.store.watermarks := by
    unfold claimOutboxEvent at claims
    split at claims <;> cases claims
    rfl
  obtain ⟨row, spec⟩ := claimOutboxEvent_spec claims
  have refSame : event.ref = row.ref := by
    rw [spec.claims]
    rfl
  have member := (Table.find?_eq_some_iff.mp spec.found).1
  refine (applied.stored (claim_storeMove claims) nofun
    (watermarks_kept watermarks)).walked ?_
  intro other past held
  cases held
  refine ⟨?_, ?_, nofun⟩
  · rw [refSame]
    exact applied.rows row member
  · intro older assigned same less
    rcases applied.settled older assigned with done | ⟨found, foundMember, rfl,
      status⟩
    · exact done
    · have first := List.any_eq_false.mp spec.first found foundMember
      have sameRow : found.aggregate = row.aggregate :=
        same.trans (congrArg EventRef.aggregate refSame)
      have lessRow : found.aggregateVersion < row.aggregateVersion :=
        less.trans_eq (congrArg EventRef.aggregateVersion refSame)
      rw [decide_eq_true sameRow, decide_eq_true lessRow] at first
      exact absurd (by simpa using first) status

theorem Applied.step (applied : Applied system) {action : ProjectAction}
    (kept : forgets system action = false) :
    Applied (projectStep config system action) := by
  cases action with
  | append aggregate eventType payload dedupeKey eventId now maxAttempts
      availableAt =>
      rcases append_cases applied.rows config aggregate eventType payload
        dedupeKey eventId now maxAttempts availableAt with
        same | ⟨absent, event, inserts⟩
      · rw [same]
        exact applied
      · obtain ⟨newer, ahead⟩ := applied.numbers kept absent
        rw [← inserts.version] at newer ahead
        exact applied.append inserts newer ahead
  | purge tenantId completedBefore =>
      have move := purge_storeMove system.store tenantId completedBefore
      exact applied.stored move nofun (watermarks_kept rfl)
  | claim worker now =>
      simp only [projectStep]
      split
      · rename_i claims
        exact applied.claimed claims
      · exact applied
  | advance => exact applied.advance
  | crash => exact applied.walked (none_in_hand rfl)

end Step

theorem applied_initial : Applied ProjectSystem.initial := by
  refine ⟨?_, ?_, ?_, ?_, ?_, ?_⟩
  · exact fun _ member => by cases member
  · exact fun _ member => by cases member
  · exact fun _ member => by cases member
  · exact fun _ member => by cases member
  · exact fun _ _ found => by cases found
  · exact fun _ _ _ held => by cases held

/-- Along every run in which nothing is appended to an aggregate whose newest
event is gone: the payload of every completed event was applied, also of those
purged since, and every further such append gets a version beyond all that its
aggregate ever had and beyond the watermark. -/
theorem no_event_is_skipped (config : ProjectConfig)
    (actions : List ProjectAction)
    (kept : Along (projectStep config)
      (fun system action => forgets system action = false)
      ProjectSystem.initial actions) :
    (∀ row ∈ (projectRun config actions).store.events,
      row.status = .completed → row.ref ∈ (projectRun config actions).applied) ∧
    (∀ event ∈ (projectRun config actions).assigned,
      (∀ row ∈ (projectRun config actions).store.events, row.ref ≠ event) →
      event ∈ (projectRun config actions).applied) ∧
    ∀ action, forgets (projectRun config actions) action = false →
      NumbersOn config (projectRun config actions) action := by
  have applied : Applied (projectRun config actions) :=
    Along.invariant Applied (fun _ _ applied kept => applied.step kept)
      applied_initial kept
  refine ⟨?_, ?_, fun action kept => applied.numbersOn kept⟩
  · intro row member completed
    rcases applied.settled row.ref (applied.rows row member) with
      done | ⟨other, otherMember, same, status⟩
    · exact done
    · have equal := Table.eq_of_key otherMember member
        (congrArg EventRef.eventId same)
      rw [equal] at status
      exact absurd completed status
  · intro event assigned gone
    rcases applied.settled event assigned with done | ⟨row, member, same, _⟩
    · exact done
    · exact absurd same (gone row member)

def sampleProjector : ProjectConfig where
  json := ⟨fun _ => "payload"⟩
  workerId := fun _ => "workflow-worker"

def sampleAppend (dedupeKey eventId : String) (now : Int) : ProjectAction :=
  .append ⟨"tenant", "conversation", "conversation:1"⟩ "workflow.outcome"
    (.dict []) dedupeKey eventId now 5 none

def drainOne (now : Int) : List ProjectAction :=
  .claim 0 now :: List.replicate 5 (.advance 0 (.ok ()))

/-- The first event is purged only after the second was appended. -/
theorem no_event_is_skipped_sample :
    (∀ row ∈ (projectRun sampleProjector ([sampleAppend "first" "outbox:1" 0] ++
        drainOne 1 ++ [sampleAppend "second" "outbox:2" 2, .purge "tenant" 3] ++
        drainOne 4)).store.events,
      row.status = .completed → row.ref ∈ (projectRun sampleProjector
        ([sampleAppend "first" "outbox:1" 0] ++ drainOne 1 ++
        [sampleAppend "second" "outbox:2" 2, .purge "tenant" 3] ++
        drainOne 4)).applied) ∧
    (projectRun sampleProjector ([sampleAppend "first" "outbox:1" 0] ++
      drainOne 1 ++ [sampleAppend "second" "outbox:2" 2, .purge "tenant" 3] ++
      drainOne 4)).applied.length = 2 :=
  ⟨(no_event_is_skipped sampleProjector ([sampleAppend "first" "outbox:1" 0] ++
    drainOne 1 ++ [sampleAppend "second" "outbox:2" 2, .purge "tenant" 3] ++
    drainOne 4) (by decide +kernel)).1, by decide +kernel⟩

/-- The only event of an aggregate is completed and purged; the next one starts
at version 1 again, below the watermark, and is completed unseen. -/
def forgetfulRun : List ProjectAction :=
  [sampleAppend "first" "outbox:1" 0] ++ drainOne 1 ++
    [.purge "tenant" 2, sampleAppend "second" "outbox:2" 3] ++ drainOne 4

theorem purged_aggregate_skips :
    ¬ ∀ (config : ProjectConfig) (actions : List ProjectAction),
      ∀ row ∈ (projectRun config actions).store.events,
        row.status = .completed →
        row.ref ∈ (projectRun config actions).applied := by
  intro appliedAll
  have unseen : ∃ row ∈ (projectRun sampleProjector
      forgetfulRun).store.events.rows, row.status = .completed ∧
      row.ref ∉ (projectRun sampleProjector forgetfulRun).applied := by
    decide +kernel
  obtain ⟨row, member, completed, missing⟩ := unseen
  exact missing (appliedAll sampleProjector forgetfulRun row member completed)

end AcpTask.Outbox
