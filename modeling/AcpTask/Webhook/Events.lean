import AcpTask.Library.Table

namespace AcpTask.Webhook

open Library

inductive EventType where
  | status
  | inboundMessage
  deriving DecidableEq

/-- A row of `twilio_provider_events`; the payload is the form. -/
structure ProviderEvent where
  tenantId : String
  eventKey : String
  effectId : Option String
  providerId : Option String
  identityAddress : String
  eventType : EventType
  status : Option String
  payload : List (String × String)
  receivedAt : Int

abbrev ProviderEvent.key (row : ProviderEvent) : String × String :=
  (row.tenantId, row.eventKey)

/-- A row of `twilio_effect_verdicts`. -/
structure EffectVerdict where
  tenantId : String
  effectId : String
  providerId : Option String
  status : String
  rank : Nat
  terminal : Bool
  updatedAt : Int

abbrev EffectVerdict.key (row : EffectVerdict) : String × String :=
  (row.tenantId, row.effectId)

structure EventStore where
  events : Table ProviderEvent ProviderEvent.key
  verdicts : Table EffectVerdict EffectVerdict.key

def EventStore.empty : EventStore := ⟨Table.empty, Table.empty⟩

def statusRanks : List (String × Nat) :=
  [("accepted", 10), ("queued", 20), ("sending", 30), ("sent", 40),
    ("ringing", 40), ("delivered", 100), ("read", 110), ("undelivered", 100),
    ("failed", 100), ("canceled", 100), ("completed", 100), ("busy", 100),
    ("no-answer", 100)]

def terminalStatuses : List String :=
  ["delivered", "read", "undelivered", "failed", "canceled", "completed",
    "busy", "no-answer"]

def advances (current : Option EffectVerdict) (status : String)
    (rank : Nat) : Bool :=
  match current with
  | none => true
  | some verdict =>
      if verdict.terminal then
        verdict.status == "delivered" && status == "read"
      else !decide (rank < verdict.rank)

def upsertVerdict (verdicts : Table EffectVerdict EffectVerdict.key)
    (row : EffectVerdict) : Table EffectVerdict EffectVerdict.key :=
  match verdicts.insert? row with
  | some inserted => inserted
  | none =>
      verdicts.updateWhere (fun old => decide (old.key = row.key))
        (fun old => { row with
          tenantId := old.tenantId, effectId := old.effectId })
        (fun _ => by rfl)

def advanceVerdict (verdicts : Table EffectVerdict EffectVerdict.key)
    (tenantId effectId : String) (providerId : Option String)
    (status : String) (now : Int) : Table EffectVerdict EffectVerdict.key :=
  let rank := (statusRanks.lookup status).getD 0
  if advances (verdicts.find? (tenantId, effectId)) status rank then
    upsertVerdict verdicts {
      tenantId, effectId, providerId, status, rank
      terminal := terminalStatuses.contains status
      updatedAt := now }
  else verdicts

def record (store : EventStore) (event : ProviderEvent) :
    Bool × EventStore :=
  match store.events.insert? event with
  | none => (false, store)
  | some events =>
      (true, {
        events := events
        verdicts :=
          match event.effectId, event.status with
          | some effectId, some status =>
              if effectId = "" ∨ status = "" then store.verdicts
              else advanceVerdict store.verdicts event.tenantId effectId
                event.providerId status event.receivedAt
          | _, _ => store.verdicts })

theorem record_new_iff {store : EventStore} {event : ProviderEvent} :
    (record store event).1 = true ↔
      ∀ row ∈ store.events, row.key ≠ event.key := by
  rw [← Table.find?_eq_none_iff]
  cases inserted : store.events.insert? event with
  | none =>
      have present := Table.insert?_eq_none_iff.mp inserted
      simp [record, inserted, present]
  | some =>
      have absent := (Table.insert?_eq_some_iff.mp inserted).1
      simp [record, inserted, absent]

theorem mem_keys_record {store : EventStore} {event : ProviderEvent}
    {key : String × String} :
    (∃ row ∈ (record store event).2.events, row.key = key) ↔
      (∃ row ∈ store.events, row.key = key) ∨ event.key = key := by
  cases inserted : store.events.insert? event with
  | none =>
      have present := Table.insert?_eq_none_iff.mp inserted
      obtain ⟨row, found⟩ := Option.ne_none_iff_exists'.mp present
      obtain ⟨member, sameKey⟩ := Table.find?_eq_some_iff.mp found
      simp only [record, inserted]
      constructor
      · exact .inl
      · rintro (old | rfl)
        · exact old
        · exact ⟨row, member, sameKey⟩
  | some =>
      simp only [record, inserted, Table.mem_of_insert? inserted]
      constructor
      · rintro ⟨row, member | rfl, sameKey⟩
        · exact .inl ⟨row, member, sameKey⟩
        · exact .inr sameKey
      · rintro (⟨row, member, sameKey⟩ | sameKey)
        · exact ⟨row, .inl member, sameKey⟩
        · exact ⟨event, .inr rfl, sameKey⟩

end AcpTask.Webhook
