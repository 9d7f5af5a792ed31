import AcpTask.Outbox.Repository

namespace AcpTask.Outbox

open Data Library Workflow

section Statements

variable {store later : OutboxStore} {json : Json}

structure OutboxEvent.Alike (row next : OutboxEvent) : Prop where
  eventId : next.eventId = row.eventId
  aggregate : next.aggregate = row.aggregate
  aggregateVersion : next.aggregateVersion = row.aggregateVersion
  eventType : next.eventType = row.eventType
  payload : next.payload = row.payload
  dedupeKey : next.dedupeKey = row.dedupeKey
  maxAttempts : next.maxAttempts = row.maxAttempts

theorem OutboxEvent.Alike.refl (row : OutboxEvent) : row.Alike row :=
  ⟨rfl, rfl, rfl, rfl, rfl, rfl, rfl⟩

structure Appended (store : OutboxStore) (aggregate : Aggregate)
    (eventType : String) (payload : Value) (event : OutboxEvent) : Prop where
  ofAggregate : event.aggregate = aggregate
  ofType : event.eventType = eventType
  ofPayload : event.payload = payload
  version : event.aggregateVersion = lastVersion store aggregate + 1
  status : event.status = .pending
  attempts : event.attempts = 0
  budget : 0 < event.maxAttempts
  dedupe : ∀ other ∈ store.events,
    other.aggregate.tenantId = aggregate.tenantId →
    other.dedupeKey ≠ event.dedupeKey

section Append

variable {aggregate : Aggregate} {eventType : String} {payload : Value}
  {dedupeKey eventId : String} {now maxAttempts : Int}
  {availableAt : Option Int} {event : OutboxEvent}

theorem appendOutboxEvent_cases
    (appended : appendOutboxEvent json store aggregate eventType payload
      dedupeKey eventId now maxAttempts availableAt = (.ok event, later)) :
    (deduped store aggregate.tenantId dedupeKey = some event ∧
        event.aggregate = aggregate ∧ later = store) ∨
      deduped store aggregate.tenantId dedupeKey = none ∧
        event = {
          eventId, aggregate, eventType, payload, dedupeKey, maxAttempts
          aggregateVersion := lastVersion store aggregate + 1
          availableAt := availableAt.getD now, createdAt := now } ∧
        0 < maxAttempts ∧ ∃ events, store.events.insert? event = some events ∧
          later = { store with events } := by
  have committed := transaction_ok_iff.mp appended
  simp only [bind_eq_ok, require_eq_ok] at committed
  obtain ⟨_, _, _, _, body⟩ := committed
  split at body
  · rename_i prior present
    simp only [bind_eq_ok, require_eq_ok, pure_eq_ok, Prod.mk.injEq] at body
    obtain ⟨_, repeated, rfl, rfl⟩ := body
    simp only [OutboxEvent.repeats, Bool.and_eq_true, decide_eq_true_eq]
      at repeated
    exact .inl ⟨present, repeated.1.1, rfl⟩
  · rename_i absent
    simp only [insertEvent, bind_eq_ok, require_eq_ok, pure_eq_ok, Prod.mk.injEq]
      at body
    obtain ⟨_, ⟨_, budget, _, _, _, _, events, insertion, rfl⟩, rfl, rfl⟩ := body
    unfold insertInto at insertion
    split at insertion
    · rename_i grown
      cases insertion
      exact .inr ⟨absent, rfl, of_decide_eq_true budget, _, grown, rfl⟩
    · cases insertion

theorem appendOutboxEvent_ok
    (appended : appendOutboxEvent json store aggregate eventType payload
      dedupeKey eventId now maxAttempts availableAt = (.ok event, later)) :
    (deduped store aggregate.tenantId dedupeKey = some event ∧
        event.aggregate = aggregate ∧ later = store) ∨
      deduped store aggregate.tenantId dedupeKey = none ∧
        later.events.rows = store.events.rows ++ [event] ∧
        event.aggregate = aggregate ∧ event.eventType = eventType ∧
        event.payload = payload ∧ event.dedupeKey = dedupeKey := by
  rcases appendOutboxEvent_cases appended with
    prior | ⟨absent, rfl, _, _, grown, rfl⟩
  · exact .inl prior
  · exact .inr ⟨absent, (Table.insert?_eq_some_iff.mp grown).2, rfl, rfl, rfl,
      rfl⟩

theorem appendOutboxEvent_find? (id : String) :
    (appendOutboxEvent json store aggregate eventType payload dedupeKey eventId
        now maxAttempts availableAt).2.events.find? id =
      store.events.find? id ∨
    (store.events.find? id = none ∧ id = eventId ∧ ∃ event,
      (appendOutboxEvent json store aggregate eventType payload dedupeKey
        eventId now maxAttempts availableAt).2.events.find? id = some event ∧
      event.dedupeKey = dedupeKey ∧ event.maxAttempts = maxAttempts ∧
      Appended store aggregate eventType payload event) := by
  cases done : appendOutboxEvent json store aggregate eventType payload
    dedupeKey eventId now maxAttempts availableAt with
  | mk outcome later =>
      cases outcome with
      | error =>
          rw [transaction_error done]
          exact .inl rfl
      | ok =>
          rcases appendOutboxEvent_cases done with
            ⟨_, _, rfl⟩ | ⟨absent, rfl, budget, _, grown, rfl⟩
          · exact .inl rfl
          dsimp only
          rw [Table.find?_of_insert? grown]
          split
          · rename_i same
            subst same
            refine .inr ⟨(Table.insert?_eq_some_iff.mp grown).1, rfl, _, rfl,
              rfl, rfl, ⟨rfl, rfl, rfl, rfl, rfl, rfl, budget, ?_⟩⟩
            intro other member tenant sameKey
            have unseen := List.find?_eq_none.mp absent other member
            simp [tenant, sameKey] at unseen
          · exact .inl rfl

end Append

theorem deduped_eq_some {tenantId dedupeKey : String} {event : OutboxEvent}
    (found : deduped store tenantId dedupeKey = some event) :
    event ∈ store.events ∧ event.aggregate.tenantId = tenantId ∧
      event.dedupeKey = dedupeKey := by
  have same := List.find?_some found
  rw [Bool.and_eq_true, beq_iff_eq, beq_iff_eq] at same
  exact ⟨List.mem_of_find?_eq_some found, same⟩

theorem selectClaimable_spec {now : Int} {tenantId : Option String}
    {row : OutboxEvent} (selected : selectClaimable store now tenantId =
      some row) :
    row ∈ store.events ∧ row.available now = true ∧
      overtakes store row = false := by
  have member := List.mem_of_mem_head? selected
  rw [List.mem_mergeSort, List.mem_filter] at member
  simp only [Bool.and_eq_true, Bool.not_eq_true'] at member
  exact ⟨member.1, member.2.1.1, member.2.2⟩

structure ClaimedEvent (store later : OutboxStore) (workerId : String)
    (now visibilityTimeout : Int) (event row : OutboxEvent) : Prop where
  found : store.events.find? row.eventId = some row
  available : row.available now = true
  first : overtakes store row = false
  claims : event = row.claim workerId (now + visibilityTimeout)
  claimed : ∀ id, later.events.find? id =
    if row.eventId = id then some event else store.events.find? id

theorem claimOutboxEvent_spec {workerId : String}
    {now visibilityTimeout : Int} {tenantId : Option String}
    {event : OutboxEvent}
    (claims : claimOutboxEvent store workerId now visibilityTimeout tenantId =
      (some event, later)) :
    ∃ row, ClaimedEvent store later workerId now visibilityTimeout event
      row := by
  unfold claimOutboxEvent at claims
  split at claims
  · cases claims
  · rename_i row selected
    cases claims
    obtain ⟨member, available, first⟩ := selectClaimable_spec selected
    have found := Table.find?_eq_some_iff.mpr (⟨member, rfl⟩ :
      row ∈ store.events ∧ row.eventId = row.eventId)
    refine ⟨row, found, available, first, rfl, ?_⟩
    intro id
    dsimp only
    rw [Table.find?_updateWhere]
    split
    · rename_i same
      subst same
      rw [found, Option.map_some, if_pos (by simp [available])]
    · rename_i other
      cases here : store.events.find? id with
      | none => rfl
      | some =>
          obtain ⟨_, rfl⟩ := Table.find?_eq_some_iff.mp here
          rw [Option.map_some, if_neg]
          simp [Ne.symm other]

end Statements

end AcpTask.Outbox
