import AcpTask.Outbox.Moves
import AcpTask.Concierge.Turns

namespace AcpTask.Concierge

open Library Outbox

def turnKey (conversationId clientTurnId : String) : String :=
  "conversation-turn:" ++ conversationId ++ ":" ++ clientTurnId

theorem turnKey_inj {conversationId first second : String}
    (same : turnKey conversationId first = turnKey conversationId second) :
    first = second :=
  (String.append_right_inj _).mp same

/-- A turn that the call changes is not a committed one, unless it is the one
the call commits. -/
def KeepsCommitted (before after : Table Turn Turn.clientTurnId) : Prop :=
  ∀ clientTurnId turn, turn.status = .committed →
    (before.find? clientTurnId = some turn ↔
      after.find? clientTurnId = some turn)

theorem KeepsCommitted.refl (turns : Table Turn Turn.clientTurnId) :
    KeepsCommitted turns turns :=
  fun _ _ _ => Iff.rfl

theorem keepsCommitted_insert {turns later : Table Turn Turn.clientTurnId}
    {row : Turn} (started : row.status = .started)
    (inserted : turns.insert? row = some later) :
    KeepsCommitted turns later := by
  intro clientTurnId turn committed
  rw [Table.find?_of_insert? inserted]
  split
  · rename_i same
    have absent := (Table.insert?_eq_some_iff.mp inserted).1
    rw [← same, absent]
    simp only [reduceCtorEq, Option.some.injEq, false_iff]
    rintro rfl
    rw [started] at committed
    cases committed
  · exact Iff.rfl

theorem keepsCommitted_conflict {store : ConversationStore}
    {clientTurnId : String} {row : Turn}
    (found : store.turns.find? clientTurnId = some row)
    (started : row.status = .started) :
    KeepsCommitted store.turns (conflictTurn store clientTurnId).turns := by
  intro other turn committed
  rw [conflictTurn, Table.find?_updateWhere]
  cases present : store.turns.find? other with
  | none => simp
  | some stored =>
      have sameKey := (Table.find?_eq_some_iff.mp present).2
      simp only [Option.map_some, Option.some.injEq]
      split
      · rename_i selected
        have same : other = clientTurnId := by
          rw [← sameKey]
          exact beq_iff_eq.mp selected
        rw [same, found, Option.some.injEq] at present
        subst present
        constructor
        · rintro rfl
          rw [started] at committed
          cases committed
        · rintro rfl
          cases committed
      · exact Iff.rfl

def Turn.commit (turn : Turn) (encoding : Encoding) (call : TurnCommit) :
    Turn :=
  { turn with
    status := .committed
    responseHash := some (encoding.sha256 call.response)
    response := some call.response
    committedAt := some call.now }

structure SameOwner (row later : Conversation) : Prop where
  conversationId : later.conversationId = row.conversationId
  tenantId : later.tenantId = row.tenantId
  principalId : later.principalId = row.principalId

theorem getConversation_owner (row : Conversation) (now : Int)
    (includeTerminal : Bool) :
    SameOwner row (getConversation row now includeTerminal).2 := by
  simp only [getConversation]
  split <;> exact ⟨rfl, rfl, rfl⟩

theorem getConversation_version (row : Conversation) (now : Int)
    (includeTerminal : Bool) :
    (getConversation row now includeTerminal).2.stateVersion =
      row.stateVersion := by
  simp only [getConversation]
  split <;> rfl

theorem SameOwner.trans {row middle later : Conversation}
    (first : SameOwner row middle) (second : SameOwner middle later) :
    SameOwner row later :=
  ⟨second.conversationId.trans first.conversationId,
    second.tenantId.trans first.tenantId,
    second.principalId.trans first.principalId⟩

structure Commits (encoding : Encoding) (store later : ConversationStore)
    (call : TurnCommit) (turn : Turn) : Prop where
  found : store.turns.find? call.clientTurnId = some turn
  started : turn.status = .started
  owner : SameOwner store.row later.row
  version : later.row.stateVersion = store.row.stateVersion + 1
  turns : ∀ clientTurnId, later.turns.find? clientTurnId =
    if clientTurnId = call.clientTurnId then some (turn.commit encoding call)
    else store.turns.find? clientTurnId
  appended : (∃ prior ∈ store.outbox.events.rows,
      prior.dedupeKey = turnKey store.row.conversationId call.clientTurnId ∧
      prior.aggregate =
        ⟨store.row.tenantId, "conversation", store.row.conversationId⟩) ∨
    ∃ event, later.outbox.events.rows =
        store.outbox.events.rows ++ [event] ∧
      event.aggregate =
        ⟨store.row.tenantId, "conversation", store.row.conversationId⟩ ∧
      event.eventType = "conversation.turn_committed" ∧
      event.payload = commitEvent encoding call turn ∧
      event.dedupeKey = turnKey store.row.conversationId call.clientTurnId

variable (encoding : Encoding)

variable (store : ConversationStore)

theorem commitConversationTurn_cases (call : TurnCommit) (eventId : String) :
    (∃ error later, commitConversationTurn encoding store call eventId =
        (.error error, later) ∧ later.row = store.row ∧
      later.outbox = store.outbox ∧
      KeepsCommitted store.turns later.turns) ∨
    (∃ turn, store.turns.find? call.clientTurnId = some turn ∧
      turn.status = .committed ∧
      commitConversationTurn encoding store call eventId = (.ok false, store)) ∨
    ∃ turn later, commitConversationTurn encoding store call eventId =
        (.ok true, later) ∧ Commits encoding store later call turn := by
  unfold commitConversationTurn
  split
  · exact .inl ⟨_, _, rfl, rfl, rfl, .refl _⟩
  rename_i turn found
  split
  · exact .inl ⟨_, _, rfl, rfl, rfl, .refl _⟩
  split
  · rename_i committed
    exact .inr (.inl ⟨turn, found, committed, rfl⟩)
  split
  · exact .inl ⟨_, _, rfl, rfl, rfl, .refl _⟩
  rename_i notStarted
  have started : turn.status = .started := not_not.mp notStarted
  split
  · exact .inl ⟨_, _, rfl, rfl, rfl, keepsCommitted_conflict found started⟩
  generalize outcome : transaction store _ = result
  rcases result with ⟨error | value, later⟩
  · obtain rfl := transaction_error outcome
    exact .inl ⟨error, later, rfl, rfl, rfl, .refl _⟩
  · have body := transaction_ok_iff.mp outcome
    simp only [bind_eq_ok, require_eq_ok] at body
    obtain ⟨_, _, revised, _, row, swapped, _, _, appended⟩ := body
    unfold compareAndSwap at swapped
    split at swapped
    · cases swapped
      split at appended
      · cases appended
      · rename_i event outbox recorded
        cases appended
        refine .inr (.inr ⟨turn, _, rfl, found, started, ⟨rfl, rfl, rfl⟩, rfl,
          ?_, ?_⟩)
        · intro clientTurnId
          dsimp only
          rw [Table.find?_updateWhere]
          split
          · rename_i same
            rw [same, found, Option.map_some, if_pos]
            · rfl
            · have sameTurn := (Table.find?_eq_some_iff.mp found).2
              simp [started, sameTurn]
          · rename_i other
            cases present : store.turns.find? clientTurnId with
            | none => rfl
            | some =>
                have sameTurn := (Table.find?_eq_some_iff.mp present).2
                rw [Option.map_some, if_neg]
                simp [sameTurn, other]
        · rcases appendOutboxEvent_ok recorded with
            ⟨prior, sameAggregate, -⟩ | ⟨-, grown⟩
          · obtain ⟨member, -, sameKey⟩ := deduped_eq_some prior
            exact .inl ⟨event, member, sameKey, sameAggregate⟩
          · exact .inr ⟨event, grown⟩
    · cases swapped

theorem commitTurn_replays {store : ConversationStore} {call : TurnCommit}
    {turn : Turn} (eventId : String)
    (isResponse : isObject call.response = true)
    (found : store.turns.find? call.clientTurnId = some turn)
    (committed : turn.status = .committed)
    (live : store.row.status.terminal = false) :
    commitTurn encoding store call eventId =
      (.ok (conversationTurnResult turn (some store.row) true), store) := by
  have transacted : commitConversationTurn encoding store call eventId =
      (.ok false, store) := by
    simp [commitConversationTurn, found, committed, live]
  simp [commitTurn, isResponse, transacted, found]

theorem commitTurn_cases (call : TurnCommit) (eventId : String) :
    (∃ error later, commitTurn encoding store call eventId =
        (.error error, later) ∧ later.row = store.row ∧
      later.outbox = store.outbox ∧
      KeepsCommitted store.turns later.turns) ∨
    (∃ turn, store.turns.find? call.clientTurnId = some turn ∧
      turn.status = .committed ∧
      commitTurn encoding store call eventId =
        (.ok (conversationTurnResult turn (some store.row) true), store)) ∨
    ∃ turn result later, commitTurn encoding store call eventId =
        (.ok result, later) ∧ result.duplicate = false ∧
      result.response = some call.response ∧
      Commits encoding store later call turn := by
  unfold commitTurn
  split
  · exact .inl ⟨_, _, rfl, rfl, rfl, .refl _⟩
  rcases commitConversationTurn_cases encoding store call eventId with
    ⟨error, later, refused, kept⟩ | ⟨turn, found, committed, replayed⟩ |
      ⟨turn, later, transacted, commits⟩
  · rw [refused]
    exact .inl ⟨error, later, rfl, kept⟩
  · rw [replayed]
    simp only [found, Bool.false_eq_true, if_false]
    exact .inr (.inl ⟨turn, rfl, committed, rfl⟩)
  · have stored := commits.turns call.clientTurnId
    rw [if_pos rfl] at stored
    rw [transacted]
    simp only [stored, if_true]
    refine .inr (.inr ⟨turn, _, _, rfl, rfl, rfl, commits.found,
      commits.started, ?_, ?_, commits.turns, commits.appended⟩)
    · exact commits.owner.trans (getConversation_owner later.row call.now false)
    · exact (getConversation_version later.row call.now false).trans
        commits.version

theorem getConversation_shown {row current : Conversation} {now : Int}
    (shown : (getConversation row now false).1 = some current) :
    current = row ∧ (getConversation row now false).2 = row := by
  have same := (getConversation_eq_some shown).1
  rw [same] at shown ⊢
  exact ⟨(Option.some.inj shown).symm, rfl⟩

structure Uncommitting (store later : ConversationStore) : Prop where
  owner : SameOwner store.row later.row
  outbox : later.outbox = store.outbox
  turns : KeepsCommitted store.turns later.turns

theorem beginConversationTurn_uncommitting (call : TurnRequest) :
    Uncommitting store (beginConversationTurn encoding store call).2 := by
  have read := getConversation_owner store.row call.now false
  unfold beginConversationTurn
  split
  · exact ⟨⟨rfl, rfl, rfl⟩, rfl, .refl _⟩
  dsimp only
  split
  · exact ⟨read, rfl, .refl _⟩
  split
  · split <;> exact ⟨read, rfl, .refl _⟩
  split
  · exact ⟨read, rfl, .refl _⟩
  split
  · exact ⟨read, rfl, .refl _⟩
  split
  · exact ⟨read, rfl, .refl _⟩
  · rename_i inserted
    exact ⟨read, rfl, keepsCommitted_insert rfl inserted⟩

theorem beginConversationTurn_version (call : TurnRequest) :
    (beginConversationTurn encoding store call).2.row.stateVersion =
      store.row.stateVersion := by
  have read := getConversation_version store.row call.now false
  unfold beginConversationTurn
  split
  · rfl
  dsimp only
  split
  · exact read
  split
  · split
    · exact read
    · exact read
  split
  · exact read
  split
  · exact read
  split
  · exact read
  · exact read

theorem beginConversationTurn_replay {encoding : Encoding}
    {store : ConversationStore} {call : TurnRequest} {result : TurnResult}
    (answered : (beginConversationTurn encoding store call).1 = .ok result)
    (replay : result.duplicate = true) :
    (beginConversationTurn encoding store call).2 = store ∧
      ∃ turn, store.turns.find? call.clientTurnId = some turn ∧
        result.turn.status = turn.status ∧ result.response = turn.response := by
  unfold beginConversationTurn at answered ⊢
  split
  · simp_all
  rename_i accepted
  simp only [accepted] at answered
  cases shown : (getConversation store.row call.now false).1 with
  | none => simp [shown] at answered
  | some current =>
      simp only [shown, (getConversation_shown shown).2] at answered ⊢
      cases present : store.turns.find? call.clientTurnId with
      | some prior =>
          simp only [present] at answered ⊢
          split at answered
          · cases answered
          · rename_i same
            cases answered
            rw [if_neg same]
            exact ⟨rfl, prior, rfl, rfl, rfl⟩
      | none =>
          simp only [present] at answered
          split at answered
          · cases answered
          split at answered
          · cases answered
          split at answered
          · cases answered
          · cases answered
            cases replay

theorem updateConversation_owner (row : Conversation) (changes : Changes)
    (now ttlSeconds : Int) (expectedVersion : Option Int) :
    SameOwner row
      (updateConversation row changes now ttlSeconds expectedVersion).2 := by
  have read := getConversation_owner row now false
  unfold updateConversation
  dsimp only
  split
  · exact read
  rename_i current revised _
  split
  · exact read
  · rename_i updated swapped
    unfold compareAndSwap at swapped
    split at swapped
    · cases swapped
      have revisedOwner : SameOwner (getConversation row now false).2
          (revised.assign (getConversation row now false).2) :=
        ⟨rfl, rfl, rfl⟩
      exact read.trans (revisedOwner.trans (getConversation_owner _ now false))
    · cases swapped

theorem closeConversation_owner (row : Conversation) (now : Int) :
    SameOwner row (closeConversation row now).2 := by
  refine (getConversation_owner row now false).trans ?_
  simp only [closeConversation, closeUpdate]
  split <;> exact ⟨rfl, rfl, rfl⟩

end AcpTask.Concierge
