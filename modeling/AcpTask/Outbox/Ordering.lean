import AcpTask.Library.Run
import AcpTask.Outbox.Moves

namespace AcpTask.Outbox

open Data Library

/-! Any number of drainers on one outbox, each cut at every statement it
commits. -/

inductive DrainPhase where
  | idle
  | completing (eventId tenantId : String) (now : Int)
  | failing (eventId tenantId : String) (now retryDelay : Int)
      (error : String) (dead : Bool)

structure Grant where
  eventId : String
  workerId : String
  claimedAt : Int
  expiresAt : Int

/-- `grants` are all claims, newest first; `held` are those their worker has
neither completed nor failed. -/
structure DrainSystem where
  store : OutboxStore
  drainers : Nat → DrainPhase
  grants : List Grant
  held : List Grant

def DrainSystem.initial : DrainSystem :=
  ⟨OutboxStore.empty, fun _ => .idle, [], []⟩

inductive DrainAction where
  | append (aggregate : Aggregate) (eventType : String) (payload : Value)
      (dedupeKey eventId : String) (now maxAttempts : Int)
      (availableAt : Option Int)
  | claim (drainer : Nat) (now visibilityTimeout : Int)
      (tenantId : Option String)
  | complete (drainer : Nat) (eventId tenantId : String) (now : Int)
  | fail (drainer : Nat) (eventId tenantId : String) (now retryDelay : Int)
      (error : String)
  | write (drainer : Nat)
  | crash (drainer : Nat)

structure DrainConfig where
  json : Json
  workerId : Nat → String

def DrainSystem.move (system : DrainSystem) (drainer : Nat)
    (phase : DrainPhase) : DrainSystem :=
  { system with drainers := Function.update system.drainers drainer phase }

def DrainSystem.giveUp (system : DrainSystem) (eventId workerId : String) :
    DrainSystem :=
  { system with
    held := system.held.filter fun grant =>
      !(grant.eventId == eventId && grant.workerId == workerId) }

def drainWrite (config : DrainConfig) (system : DrainSystem)
    (drainer : Nat) : DrainSystem :=
  match system.drainers drainer with
  | .idle => system
  | .completing eventId tenantId now =>
      let written := completeUpdate system.store eventId tenantId
        (config.workerId drainer) now
      let moved := { system with store := written.2 }.move drainer .idle
      if written.1 then moved.giveUp eventId (config.workerId drainer)
      else moved
  | .failing eventId tenantId now retryDelay error dead =>
      ({ system with
          store := failUpdate system.store eventId tenantId now retryDelay error
            dead }.move drainer .idle).giveUp eventId (config.workerId drainer)

def drainStep (config : DrainConfig) (system : DrainSystem) :
    DrainAction → DrainSystem
  | .append aggregate eventType payload dedupeKey eventId now maxAttempts
      availableAt =>
      { system with
        store := (appendOutboxEvent config.json system.store aggregate eventType
          payload dedupeKey eventId now maxAttempts availableAt).2 }
  | .claim drainer now visibilityTimeout tenantId =>
      match claimOutboxEvent system.store (config.workerId drainer) now
          visibilityTimeout tenantId with
      | (none, _) => system
      | (some event, store) =>
          let grant : Grant := ⟨event.eventId, config.workerId drainer, now,
            now + visibilityTimeout⟩
          { system with
            store, grants := grant :: system.grants
            held := grant :: system.held }
  | .complete drainer eventId tenantId now =>
      match system.drainers drainer, readEvent system.store eventId tenantId with
      | .idle, some row =>
          if row.status = .completed then system
          else system.move drainer (.completing eventId tenantId now)
      | _, _ => system
  | .fail drainer eventId tenantId now retryDelay error =>
      match system.drainers drainer, failSelect system.store eventId tenantId
          (config.workerId drainer) with
      | .idle, some dead =>
          system.move drainer
            (.failing eventId tenantId now retryDelay error dead)
      | _, _ => system
  | .write drainer => drainWrite config system drainer
  | .crash drainer => system.move drainer .idle

def drainRun (config : DrainConfig) (actions : List DrainAction) :
    DrainSystem :=
  run (drainStep config) DrainSystem.initial actions

def DrainSystem.newest (system : DrainSystem) (eventId : String) :
    Option Grant :=
  system.grants.find? fun grant => grant.eventId == eventId

/-- The `UPDATE` of a failure that another worker's claim has overtaken: the
event is claimed for someone else by then. -/
def releasesOther (config : DrainConfig) (system : DrainSystem) :
    DrainAction → Bool
  | .write drainer =>
      match system.drainers drainer with
      | .failing eventId tenantId _ _ _ _ =>
          system.store.events.rows.any fun row => row.is eventId tenantId &&
            row.status == .claimed &&
            row.claimedBy != some (config.workerId drainer)
      | _ => false
  | _ => false

/-- An event is claimed when the earlier ones of its aggregate are completed,
and completed by the worker that was granted its newest claim. -/
structure OrderedStep (config : DrainConfig) (system : DrainSystem)
    (action : DrainAction) : Prop where
  claims : ∀ drainer now visibilityTimeout tenantId event,
    action = .claim drainer now visibilityTimeout tenantId →
    (claimOutboxEvent system.store (config.workerId drainer) now
      visibilityTimeout tenantId).1 = some event →
    ∀ earlier ∈ system.store.events, earlier.aggregate = event.aggregate →
      earlier.aggregateVersion < event.aggregateVersion →
      earlier.status = .completed
  completes : ∀ row ∈ system.store.events, row.status ≠ .completed →
    ∀ next ∈ (drainStep config system action).store.events,
      next.eventId = row.eventId → next.status = .completed →
    ∃ drainer grant, action = .write drainer ∧
      system.newest row.eventId = some grant ∧
      grant.workerId = config.workerId drainer ∧ row.status = .claimed

/-- By any clock that no claim is ahead of, at most one claim of an event that
its worker has not given up is unexpired. -/
def Exclusive (system : DrainSystem) : Prop :=
  ∀ eventId time, (∀ grant ∈ system.grants, grant.claimedAt ≤ time) →
    (system.held.filter fun grant => grant.eventId == eventId &&
      decide (time < grant.expiresAt)).length ≤ 1

def Deduped (system : DrainSystem) : Prop :=
  ∀ left ∈ system.store.events, ∀ right ∈ system.store.events,
    left.aggregate.tenantId = right.aggregate.tenantId →
    left.dedupeKey = right.dedupeKey → left = right

section Step

variable {config : DrainConfig} {system : DrainSystem}

def Recorded (system : DrainSystem) : Prop :=
  ∀ id row, system.store.events.find? id = some row → row.status = .claimed →
    ∃ grant, system.newest id = some grant ∧ row.claimedBy = some grant.workerId

inductive WriteMove (config : DrainConfig) (system : DrainSystem)
    (drainer : Nat) (row next : OutboxEvent) : Prop where
  | kept (same : next = row)
  | completed (tenantId : String) (now : Int)
      (phase : system.drainers drainer = .completing row.eventId tenantId now)
      (selected : row.is row.eventId tenantId = true)
      (claimed : row.claimedFor (config.workerId drainer) = true)
      (alike : row.Alike next) (status : next.status = .completed)
  | failed (tenantId : String) (now retryDelay : Int) (error : String)
      (dead : Bool) (phase : system.drainers drainer =
        .failing row.eventId tenantId now retryDelay error dead)
      (selected : row.is row.eventId tenantId = true)
      (alike : row.Alike next)
      (status : next.status = if dead then .deadLetter else .pending)

theorem drainWrite_find? (config : DrainConfig) (system : DrainSystem)
    (drainer : Nat) (id : String) :
    (∀ row, system.store.events.find? id = some row →
      ∃ next, (drainWrite config system drainer).store.events.find? id =
        some next ∧ WriteMove config system drainer row next) ∧
    (system.store.events.find? id = none →
      (drainWrite config system drainer).store.events.find? id = none) := by
  have store : (drainWrite config system drainer).store =
      match system.drainers drainer with
      | .idle => system.store
      | .completing eventId tenantId now =>
          (completeUpdate system.store eventId tenantId
            (config.workerId drainer) now).2
      | .failing eventId tenantId now retryDelay error dead =>
          failUpdate system.store eventId tenantId now retryDelay error dead := by
    unfold drainWrite
    split
    · rfl
    · dsimp only
      split <;> rfl
    · rfl
  rw [store]
  split
  · exact ⟨fun row found => ⟨row, found, .kept rfl⟩, fun absent => absent⟩
  · rename_i eventId tenantId now phase
    rw [completeUpdate, Table.find?_updateWhere]
    refine ⟨fun row found => ?_, fun absent => by rw [absent]; rfl⟩
    rw [found, Option.map_some]
    refine ⟨_, rfl, ?_⟩
    split
    · rename_i selected
      obtain ⟨named, claimed⟩ := Bool.and_eq_true_iff.mp selected
      have same : row.eventId = eventId :=
        beq_iff_eq.mp (Bool.and_eq_true_iff.mp named).1
      subst same
      exact .completed tenantId now phase named claimed
        ⟨rfl, rfl, rfl, rfl, rfl, rfl, rfl⟩ rfl
    · exact .kept rfl
  · rename_i eventId tenantId now retryDelay error dead phase
    rw [failUpdate, Table.find?_updateWhere]
    refine ⟨fun row found => ?_, fun absent => by rw [absent]; rfl⟩
    rw [found, Option.map_some]
    refine ⟨_, rfl, ?_⟩
    split
    · rename_i selected
      have same : row.eventId = eventId :=
        beq_iff_eq.mp (Bool.and_eq_true_iff.mp selected).1
      subst same
      exact .failed tenantId now retryDelay error dead phase selected
        ⟨rfl, rfl, rfl, rfl, rfl, rfl, rfl⟩ rfl
    · exact .kept rfl

theorem drainWrite_grants (config : DrainConfig) (system : DrainSystem)
    (drainer : Nat) :
    (drainWrite config system drainer).grants = system.grants := by
  unfold drainWrite
  split
  · rfl
  · dsimp only
    split <;> rfl
  · rfl

inductive EventMove (config : DrainConfig) (system : DrainSystem)
    (action : DrainAction) : Option OutboxEvent → Option OutboxEvent → Prop
    where
  | absent : EventMove config system action none none
  | kept {row : OutboxEvent}
      (newest : (drainStep config system action).newest row.eventId =
        system.newest row.eventId) :
      EventMove config system action (some row) (some row)
  | appended {event : OutboxEvent} {aggregate : Aggregate}
      {eventType : String} {payload : Value} {now maxAttempts : Int}
      {availableAt : Option Int}
      (appends : action = .append aggregate eventType payload event.dedupeKey
        event.eventId now maxAttempts availableAt)
      (appended : Appended system.store aggregate eventType payload event) :
      EventMove config system action none (some event)
  | claimed {drainer : Nat} {now visibilityTimeout : Int} {row : OutboxEvent}
      (newest : (drainStep config system action).newest row.eventId =
        some ⟨row.eventId, config.workerId drainer, now,
          now + visibilityTimeout⟩) :
      EventMove config system action (some row) (some (row.claim
        (config.workerId drainer) (now + visibilityTimeout)))
  | written {drainer : Nat} {row next : OutboxEvent}
      (writes : action = .write drainer)
      (newest : (drainStep config system action).newest row.eventId =
        system.newest row.eventId)
      (move : WriteMove config system drainer row next) :
      EventMove config system action (some row) (some next)

theorem EventMove.of_same {action : DrainAction}
    (grants : (drainStep config system action).grants = system.grants)
    (found : Option OutboxEvent) :
    EventMove config system action found found := by
  cases found with
  | none => exact .absent
  | some =>
      refine .kept ?_
      rw [DrainSystem.newest, grants, DrainSystem.newest]

theorem drainStep_events (config : DrainConfig) (system : DrainSystem)
    (action : DrainAction) (id : String) :
    EventMove config system action (system.store.events.find? id)
      ((drainStep config system action).store.events.find? id) := by
  cases action with
  | append aggregate eventType payload dedupeKey eventId now maxAttempts
      availableAt =>
      have spec : _ ∨ _ := @appendOutboxEvent_find? system.store config.json
        aggregate eventType payload dedupeKey eventId now maxAttempts
        availableAt id
      rcases spec with same | ⟨absent, rfl, event, found, rfl, _, appended⟩
      · rw [drainStep, same]
        exact .of_same rfl _
      · obtain ⟨_, rfl⟩ := Table.find?_eq_some_iff.mp found
        rw [drainStep, absent, found]
        exact .appended rfl appended
  | claim drainer now visibilityTimeout tenantId =>
      cases claims : claimOutboxEvent system.store (config.workerId drainer) now
          visibilityTimeout tenantId with
      | mk granted later =>
          cases granted with
          | none =>
              have same : drainStep config system (.claim drainer now
                  visibilityTimeout tenantId) = system := by
                simp only [drainStep, claims]
              rw [same]
              exact .of_same (by rw [same]) _
          | some event =>
              obtain ⟨row, spec⟩ := claimOutboxEvent_spec claims
              have grants : (drainStep config system (.claim drainer now
                  visibilityTimeout tenantId)).grants =
                  ⟨row.eventId, config.workerId drainer, now,
                    now + visibilityTimeout⟩ :: system.grants := by
                simp only [drainStep, claims, spec.claims,
                  OutboxEvent.claim_eventId]
              have store : (drainStep config system (.claim drainer now
                  visibilityTimeout tenantId)).store = later := by
                simp only [drainStep, claims]
              rw [store, spec.claimed]
              split
              · rename_i same
                subst same
                rw [spec.found, spec.claims]
                refine .claimed ?_
                rw [DrainSystem.newest, grants, List.find?_cons_of_pos]
                exact beq_self_eq_true _
              · rename_i other
                cases found : system.store.events.find? id with
                | none => exact .absent
                | some =>
                    obtain ⟨_, rfl⟩ := Table.find?_eq_some_iff.mp found
                    refine .kept ?_
                    rw [DrainSystem.newest, grants, List.find?_cons_of_neg]
                    · rfl
                    · exact fun equal => other (beq_iff_eq.mp equal)
  | complete drainer eventId tenantId now =>
      have same : (drainStep config system
          (.complete drainer eventId tenantId now)).store = system.store ∧
          (drainStep config system
          (.complete drainer eventId tenantId now)).grants = system.grants := by
        simp only [drainStep]
        split
        · split <;> exact ⟨rfl, rfl⟩
        · exact ⟨rfl, rfl⟩
      rw [same.1]
      exact .of_same same.2 _
  | fail drainer eventId tenantId now retryDelay error =>
      have same : (drainStep config system
          (.fail drainer eventId tenantId now retryDelay error)).store =
            system.store ∧ (drainStep config system
          (.fail drainer eventId tenantId now retryDelay error)).grants =
            system.grants := by
        simp only [drainStep]
        split <;> exact ⟨rfl, rfl⟩
      rw [same.1]
      exact .of_same same.2 _
  | write drainer =>
      have newest : ∀ eventId, (drainStep config system (.write drainer)).newest
          eventId = system.newest eventId := by
        intro eventId
        rw [DrainSystem.newest, drainStep, drainWrite_grants,
          DrainSystem.newest]
      obtain ⟨present, absent⟩ := drainWrite_find? config system drainer id
      cases found : system.store.events.find? id with
      | none =>
          rw [drainStep, absent found]
          exact .absent
      | some row =>
          obtain ⟨next, nextFound, move⟩ := present row found
          rw [drainStep, nextFound]
          exact .written rfl (newest _) move
  | crash => exact .of_same rfl _

theorem Recorded.step (recorded : Recorded system) (action : DrainAction) :
    Recorded (drainStep config system action) := by
  intro id next found claimed
  have move := drainStep_events config system action id
  rw [found] at move
  cases before : system.store.events.find? id with
  | none =>
      rw [before] at move
      cases move with
      | appended _ appended =>
          rw [appended.status] at claimed
          cases claimed
  | some =>
      obtain ⟨_, rfl⟩ := Table.find?_eq_some_iff.mp before
      rw [before] at move
      cases move with
      | kept newest =>
          rw [newest]
          exact recorded _ _ before claimed
      | claimed newest => exact ⟨_, newest, rfl⟩
      | written _ newest move =>
          rw [newest]
          cases move with
          | kept same =>
              rw [same] at claimed ⊢
              exact recorded _ _ before claimed
          | completed _ _ _ _ _ _ status =>
              rw [status] at claimed
              cases claimed
          | failed _ _ _ _ dead _ _ _ status =>
              rw [status] at claimed
              cases dead <;> cases claimed

theorem Recorded.ordered (recorded : Recorded system) (action : DrainAction) :
    OrderedStep config system action where
  claims := by
    intro drainer now visibilityTimeout tenantId event _ claims earlier member
      sameAggregate older
    have granted : claimOutboxEvent system.store (config.workerId drainer) now
        visibilityTimeout tenantId = (some event, (claimOutboxEvent system.store
          (config.workerId drainer) now visibilityTimeout tenantId).2) :=
      Prod.ext claims rfl
    obtain ⟨row, spec⟩ := claimOutboxEvent_spec granted
    rw [spec.claims] at sameAggregate older
    have first := List.any_eq_false.mp spec.first earlier member
    rw [decide_eq_true (show earlier.aggregate = row.aggregate from
      sameAggregate), decide_eq_true (show earlier.aggregateVersion <
      row.aggregateVersion from older)] at first
    simpa using first
  completes := by
    intro row member unfinished next nextMember same completed
    have found := Table.find?_eq_some_iff.mpr (⟨member, rfl⟩ :
      row ∈ system.store.events ∧ row.eventId = row.eventId)
    have move := drainStep_events config system action row.eventId
    rw [found, Table.find?_eq_some_iff.mpr ⟨nextMember, same⟩] at move
    cases move with
    | kept => exact absurd completed unfinished
    | claimed => cases completed
    | written writes newest move =>
        rename_i drainer
        cases move with
        | kept same =>
            rw [same] at completed
            exact absurd completed unfinished
        | completed _ _ _ _ held =>
            simp only [OutboxEvent.claimedFor, Bool.and_eq_true,
              beq_iff_eq] at held
            obtain ⟨grant, latest, claimant⟩ := recorded _ _ found held.1
            refine ⟨drainer, grant, writes, latest, ?_, held.1⟩
            exact Option.some.inj (claimant.symm.trans held.2)
        | failed _ _ _ _ dead _ _ _ status =>
            rw [status] at completed
            cases dead <;> cases completed

theorem WriteMove.alike {drainer : Nat} {row next : OutboxEvent}
    (move : WriteMove config system drainer row next) : row.Alike next := by
  cases move with
  | kept same => rw [same]; exact .refl row
  | completed _ _ _ _ _ alike | failed _ _ _ _ _ _ _ alike => exact alike

theorem event_origin {action : DrainAction} {next : OutboxEvent}
    (member : next ∈ (drainStep config system action).store.events) :
    (∃ row ∈ system.store.events, row.Alike next) ∨
    ∃ aggregate eventType payload now maxAttempts availableAt,
      action = .append aggregate eventType payload next.dedupeKey next.eventId
        now maxAttempts availableAt ∧
      Appended system.store aggregate eventType payload next := by
  have move := drainStep_events config system action next.eventId
  rw [Table.find?_eq_some_iff.mpr ⟨member, rfl⟩] at move
  generalize before : system.store.events.find? next.eventId = old at move
  generalize same : some next = after at move
  cases move with
  | absent => cases same
  | kept =>
      cases same
      exact .inl ⟨_, (Table.find?_eq_some_iff.mp before).1, .refl _⟩
  | appended appends appended =>
      cases same
      exact .inr ⟨_, _, _, _, _, _, appends, appended⟩
  | claimed =>
      cases same
      exact .inl ⟨_, (Table.find?_eq_some_iff.mp before).1,
        ⟨rfl, rfl, rfl, rfl, rfl, rfl, rfl⟩⟩
  | written _ _ move =>
      cases same
      exact .inl ⟨_, (Table.find?_eq_some_iff.mp before).1, move.alike⟩

theorem Deduped.step (deduped : Deduped system) (action : DrainAction) :
    Deduped (drainStep config system action) := by
  have fresh : ∀ {row next old : OutboxEvent}, row ∈ system.store.events →
      row.Alike old → ∀ {aggregate eventType payload},
      Appended system.store aggregate eventType payload next →
      old.aggregate.tenantId = next.aggregate.tenantId →
      old.dedupeKey ≠ next.dedupeKey := by
    intro row next old member alike aggregate eventType payload appended tenant
    rw [alike.dedupeKey]
    refine appended.dedupe row member ?_
    rw [← alike.aggregate, tenant, appended.ofAggregate]
  intro left leftMember right rightMember tenant key
  rcases event_origin leftMember with
    ⟨oldLeft, leftBefore, leftAlike⟩ | ⟨_, _, _, _, _, _, leftCall, leftNew⟩
  · rcases event_origin rightMember with
      ⟨oldRight, rightBefore, rightAlike⟩ | ⟨_, _, _, _, _, _, _, rightNew⟩
    · have same := deduped oldLeft leftBefore oldRight rightBefore
        (by rw [← leftAlike.aggregate, tenant, rightAlike.aggregate])
        (by rw [← leftAlike.dedupeKey, key, rightAlike.dedupeKey])
      refine Table.eq_of_key leftMember rightMember ?_
      rw [leftAlike.eventId, same, rightAlike.eventId]
    · exact absurd key (fresh leftBefore leftAlike rightNew tenant)
  · rcases event_origin rightMember with
      ⟨oldRight, rightBefore, rightAlike⟩ |
      ⟨_, _, _, _, _, _, rightCall, _⟩
    · exact absurd key.symm (fresh rightBefore rightAlike leftNew tenant.symm)
    · have same := leftCall.symm.trans rightCall
      rw [DrainAction.append.injEq] at same
      exact Table.eq_of_key leftMember rightMember same.2.2.2.2.1

def Spent (system : DrainSystem) (grant : Grant) : Prop :=
  ∃ later ∈ system.grants, grant.expiresAt ≤ later.claimedAt

def Current (system : DrainSystem) (grant : Grant) : Prop :=
  ∃ row, system.store.events.find? grant.eventId = some row ∧
    row.status = .claimed ∧ row.claimedBy = some grant.workerId ∧
    row.claimExpiresAt = some grant.expiresAt

structure HeldOnce (system : DrainSystem) : Prop where
  each : ∀ grant ∈ system.held, Current system grant ∨ Spent system grant
  apart : system.held.Pairwise fun newer older =>
    newer.eventId = older.eventId → Spent system older

theorem Spent.mono {later : DrainSystem} {grant : Grant}
    (spent : Spent system grant)
    (grants : ∀ grant ∈ system.grants, grant ∈ later.grants) :
    Spent later grant := by
  obtain ⟨other, member, ran⟩ := spent
  exact ⟨other, grants other member, ran⟩

theorem HeldOnce.thin {later : DrainSystem} (held : HeldOnce system)
    (grants : later.grants = system.grants)
    (thinner : later.held.Sublist system.held)
    (current : ∀ grant ∈ later.held, Current system grant →
      Current later grant ∨ Spent system grant) : HeldOnce later where
  each := by
    intro grant member
    have spent : Spent system grant → Spent later grant :=
      fun spent => spent.mono fun _ member => by rwa [grants]
    rcases held.each grant (thinner.subset member) with now | ran
    · rcases current grant member now with still | ran
      · exact .inl still
      · exact .inr (spent ran)
    · exact .inr (spent ran)
  apart := (held.apart.sublist thinner).imp fun spent same =>
    (spent same).mono fun _ member => by rwa [grants]

theorem HeldOnce.claimed {event row : OutboxEvent} {later : OutboxStore}
    {workerId : String} {now visibilityTimeout : Int} {next : DrainSystem}
    (held : HeldOnce system)
    (spec : ClaimedEvent system.store later workerId now visibilityTimeout
      event row) (becomes : next = { system with
        store := later
        grants := ⟨row.eventId, workerId, now, now + visibilityTimeout⟩ ::
          system.grants
        held := ⟨row.eventId, workerId, now, now + visibilityTimeout⟩ ::
          system.held }) : HeldOnce next := by
  have spent : ∀ grant, Spent system grant → Spent next grant := by
    subst becomes
    exact fun _ ran => ran.mono fun _ member => List.mem_cons_of_mem _ member
  have overtaken : ∀ grant ∈ system.held, grant.eventId = row.eventId →
      Spent next grant := by
    intro grant member same
    rcases held.each grant member with ⟨old, found, status, _, expiry⟩ | ran
    · rw [same, spec.found] at found
      cases found
      subst becomes
      refine ⟨_, List.mem_cons_self, ?_⟩
      have available := spec.available
      simpa [OutboxEvent.available, status, expiry] using available
    · exact spent grant ran
  subst becomes
  refine ⟨?_, ?_⟩
  · intro grant member
    rcases List.mem_cons.mp member with rfl | older
    · refine .inl ⟨event, ?_, ?_⟩
      · dsimp only
        rw [spec.claimed, if_pos rfl]
      · rw [spec.claims]
        exact ⟨rfl, rfl, rfl⟩
    · by_cases same : grant.eventId = row.eventId
      · exact .inr (overtaken grant older same)
      · rcases held.each grant older with ⟨old, found, claim⟩ | ran
        · refine .inl ⟨old, ?_, claim⟩
          dsimp only
          rw [spec.claimed, if_neg (Ne.symm same)]
          exact found
        · exact .inr (spent grant ran)
  · refine List.pairwise_cons.mpr ⟨?_, ?_⟩
    · intro grant member same
      exact overtaken grant member same.symm
    · exact held.apart.imp fun ran same => spent _ (ran same)

theorem given_up {eventId workerId : String} {grant : Grant}
    (member : grant ∈ (system.giveUp eventId workerId).held) :
    ¬ (grant.eventId = eventId ∧ grant.workerId = workerId) := by
  have apart := (List.mem_filter.mp member).2
  rintro ⟨rfl, rfl⟩
  simp at apart

theorem HeldOnce.write {drainer : Nat} (held : HeldOnce system)
    (own : releasesOther config system (.write drainer) = false) :
    HeldOnce (drainWrite config system drainer) := by
  refine held.thin (drainWrite_grants config system drainer) ?_ ?_
  · unfold drainWrite
    split
    · exact .refl _
    · dsimp only
      split
      · exact List.filter_sublist
      · exact .refl _
    · exact List.filter_sublist
  · intro grant member current
    obtain ⟨row, found, status, claimant, expiry⟩ := current
    obtain ⟨_, nextFound, move⟩ :=
      (drainWrite_find? config system drainer grant.eventId).1 row found
    obtain ⟨rowMember, rowId⟩ := Table.find?_eq_some_iff.mp found
    cases move with
    | kept same =>
        rw [same] at nextFound
        exact .inl ⟨row, nextFound, status, claimant, expiry⟩
    | completed tenantId now phase selected holds =>
        simp only [OutboxEvent.claimedFor, Bool.and_eq_true,
          beq_iff_eq] at holds
        have own : grant.workerId = config.workerId drainer :=
          Option.some.inj (claimant.symm.trans holds.2)
        have written : (completeUpdate system.store row.eventId tenantId
            (config.workerId drainer) now).1 = true := by
          refine List.any_eq_true.mpr ⟨row, rowMember, ?_⟩
          simp [selected, OutboxEvent.claimedFor, holds]
        simp only [drainWrite, phase, written, if_true] at member
        exact absurd (given_up member) (by simp [rowId, own])
    | failed _ _ _ _ _ phase selected =>
        simp only [drainWrite, phase] at member
        refine absurd (given_up member) ?_
        have mine : row.claimedBy = some (config.workerId drainer) := by
          simp only [releasesOther, phase] at own
          have here := List.any_eq_false.mp own row rowMember
          simpa [selected, status] using here
        simp [rowId, Option.some.inj (claimant.symm.trans mine)]

theorem HeldOnce.step (held : HeldOnce system) {action : DrainAction}
    (own : releasesOther config system action = false) :
    HeldOnce (drainStep config system action) := by
  have quiet : ∀ phases, HeldOnce { system with drainers := phases } :=
    fun _ => held.thin rfl (.refl _) fun _ _ current => .inl current
  cases action with
  | append aggregate eventType payload dedupeKey eventId now maxAttempts
      availableAt =>
      refine held.thin rfl (.refl _) ?_
      intro grant _ current
      obtain ⟨row, found, claim⟩ := current
      have spec : _ ∨ _ := @appendOutboxEvent_find? system.store config.json
        aggregate eventType payload dedupeKey eventId now maxAttempts
        availableAt grant.eventId
      rcases spec with same | ⟨absent, _⟩
      · exact .inl ⟨row, same.trans found, claim⟩
      · rw [absent] at found
        cases found
  | claim drainer now visibilityTimeout tenantId =>
      simp only [drainStep]
      split
      · exact held
      · rename_i event store claims
        obtain ⟨row, spec⟩ := claimOutboxEvent_spec claims
        have same : event.eventId = row.eventId := by
          rw [spec.claims]
          rfl
        rw [same]
        exact held.claimed spec rfl
  | complete =>
      simp only [drainStep]
      split
      · split
        · exact held
        · exact quiet _
      · exact held
  | fail =>
      simp only [drainStep]
      split
      · exact quiet _
      · exact held
  | write => exact held.write own
  | crash => exact quiet _

theorem HeldOnce.exclusive (held : HeldOnce system) : Exclusive system := by
  intro eventId time ahead
  have apart : (system.held.filter fun grant => grant.eventId == eventId &&
      decide (time < grant.expiresAt)).Pairwise fun _ _ => False := by
    refine List.Pairwise.imp_of_mem ?_ (held.apart.sublist List.filter_sublist)
    intro newer older newerMember olderMember spent
    simp only [List.mem_filter, Bool.and_eq_true, beq_iff_eq,
      decide_eq_true_eq] at newerMember olderMember
    obtain ⟨later, member, _⟩ :=
      spent (newerMember.2.1.trans olderMember.2.1.symm)
    have clock := ahead later member
    omega
  generalize system.held.filter (fun grant => grant.eventId == eventId &&
    decide (time < grant.expiresAt)) = unexpired at apart
  cases apart with
  | nil => exact Nat.zero_le 1
  | @cons first rest others _ =>
      cases rest with
      | nil => exact le_rfl
      | cons second => exact (others second List.mem_cons_self).elim

end Step

/-- Along every run of any number of drainers: a claim is for an event whose
predecessors are completed, only the worker of an event's newest claim completes
it, and a dedupe key has one event.  When no failure is written that another
worker's claim has overtaken, at most one claim of an event is unexpired. -/
theorem outbox_ordered (config : DrainConfig) (actions : List DrainAction) :
    (∀ action, OrderedStep config (drainRun config actions) action) ∧
    Deduped (drainRun config actions) ∧
    (Along (drainStep config)
      (fun system action => releasesOther config system action = false)
      DrainSystem.initial actions → Exclusive (drainRun config actions)) := by
  have recorded : Recorded (drainRun config actions) :=
    run_invariant (drainStep config) Recorded
      (fun _ action recorded => recorded.step action)
      (fun _ _ found => by cases found) actions
  refine ⟨fun action => recorded.ordered action, ?_, fun own => ?_⟩
  · exact run_invariant (drainStep config) Deduped
      (fun _ action deduped => deduped.step action)
      (fun _ member => by cases member) actions
  · have held : HeldOnce (drainRun config actions) :=
      Along.invariant HeldOnce (fun _ _ held own => held.step own)
        ⟨(fun _ member => by cases member), List.Pairwise.nil⟩ own
    exact held.exclusive

def sampleDrainers : DrainConfig where
  json := ⟨fun _ => "payload"⟩
  workerId := fun drainer => String.ofList (List.replicate drainer 'w')

def sampleAggregate : Aggregate := ⟨"tenant", "conversation", "conversation:1"⟩

def failureRun : List DrainAction :=
  [.append sampleAggregate "workflow.outcome" (.dict []) "revision:1:complete"
      "outbox:1" 0 5 none,
    .claim 0 0 30 none, .fail 0 "outbox:1" "tenant" 0 5 "RuntimeError",
    .write 0, .claim 1 31 30 none]

theorem outbox_ordered_failure :
    (∀ action, OrderedStep sampleDrainers (drainRun sampleDrainers failureRun)
      action) ∧
    Deduped (drainRun sampleDrainers failureRun) ∧
    Exclusive (drainRun sampleDrainers failureRun) := by
  obtain ⟨ordered, deduped, exclusive⟩ :=
    outbox_ordered sampleDrainers failureRun
  exact ⟨ordered, deduped, exclusive (by decide +kernel)⟩

/-- The first worker's claim runs out while its failure is being recorded; a
second worker claims the event in between, and a third one after the failure has
released it. -/
def overtakenRun : List DrainAction :=
  [.append sampleAggregate "workflow.outcome" (.dict []) "revision:1:complete"
      "outbox:1" 0 5 none,
    .claim 0 0 30 none, .fail 0 "outbox:1" "tenant" 0 5 "RuntimeError",
    .claim 1 31 30 none, .write 0, .claim 2 32 30 none]

theorem overtaken_failure_releases :
    ¬ ∀ (config : DrainConfig) (actions : List DrainAction),
      Exclusive (drainRun config actions) := by
  intro exclusive
  have single := exclusive sampleDrainers overtakenRun "outbox:1" 32
    (by decide +kernel)
  revert single
  decide +kernel

end AcpTask.Outbox
