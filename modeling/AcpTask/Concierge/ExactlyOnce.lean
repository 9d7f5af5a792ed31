import AcpTask.Concierge.Committed

namespace AcpTask.Concierge

open Data Library Outbox

abbrev BookEvent := BookAction × BookAnswer

/-- The call committed the turn, with this response: it succeeded and replayed
nothing. -/
def CommittedBy (event : BookEvent) (conversationId clientTurnId : String)
    (response : Value) : Prop :=
  ∃ owner call eventId result,
    event = (.commit owner call eventId, .turn (.ok result)) ∧
    result.duplicate = false ∧ owner.conversationId = conversationId ∧
    call.clientTurnId = clientTurnId ∧ call.response = response

/-- The version of the one conversation is one higher, and the outbox has one
event more, which is the turn's. -/
structure Advances (book later : ConversationBook) (owner : Owner)
    (call : TurnCommit) : Prop where
  version : ∃ before after,
    book.records owner.conversationId = some before ∧
    later.records owner.conversationId = some after ∧
    after.row.stateVersion = before.row.stateVersion + 1
  others : ∀ conversationId, conversationId ≠ owner.conversationId →
    later.records conversationId = book.records conversationId
  event : ∃ event,
    later.outbox.events.rows = book.outbox.events.rows ++ [event] ∧
    event.eventType = "conversation.turn_committed" ∧
    event.aggregate.aggregateId = owner.conversationId ∧
    event.dedupeKey = turnKey owner.conversationId call.clientTurnId

structure CommitLaw (encoding : Encoding) (book : ConversationBook)
    (log : List BookEvent) (owner : Owner) (call : TurnCommit)
    (answer : BookAnswer) (later : ConversationBook) : Prop where
  once : ∀ result, answer = .turn (.ok result) → result.duplicate = false →
    (∀ event ∈ log, ∀ response,
      ¬ CommittedBy event owner.conversationId call.clientTurnId response) ∧
    result.response = some call.response ∧ Advances book later owner call
  replay : ∀ result, answer = .turn (.ok result) → result.duplicate = true →
    later = book ∧ ∃ event ∈ log, ∃ response,
      CommittedBy event owner.conversationId call.clientTurnId response ∧
      result.response = some response
  replayed : ∀ event ∈ log, ∀ response,
    CommittedBy event owner.conversationId call.clientTurnId response →
    isObject call.response = true →
    ∀ store, book.open? owner = some store →
      store.row.status.terminal = false →
      ∃ result, answer = .turn (.ok result) ∧ result.duplicate = true ∧
        result.response = some response
  failed : ∀ error, answer = .turn (.error error) →
    later.outbox = book.outbox ∧ ∀ conversationId,
      (later.records conversationId).map ConversationRecord.row =
        (book.records conversationId).map ConversationRecord.row

structure BeginLaw (book : ConversationBook) (log : List BookEvent)
    (owner : Owner) (call : TurnRequest) (answer : BookAnswer)
    (later : ConversationBook) : Prop where
  version : ∀ conversationId,
    (later.records conversationId).map (·.row.stateVersion) =
      (book.records conversationId).map (·.row.stateVersion)
  outbox : later.outbox = book.outbox
  replay : ∀ result, answer = .turn (.ok result) → result.duplicate = true →
    later = book ∧ (result.turn.status = .committed →
      ∃ event ∈ log, ∃ response,
        CommittedBy event owner.conversationId call.clientTurnId response ∧
        result.response = some response)

def ExactlyOnce (encoding : Encoding)
    (logged : Logged ConversationBook BookAction BookAnswer) :
    BookAction → Prop
  | .begin owner call =>
      let answered := bookCall encoding logged.state (.begin owner call)
      BeginLaw logged.state logged.log owner call answered.1 answered.2
  | .commit owner call eventId =>
      let answered :=
        bookCall encoding logged.state (.commit owner call eventId)
      CommitLaw encoding logged.state logged.log owner call answered.1
        answered.2
  | _ => True

/-! The invariant that links the turns, the outbox and the log. -/

def ConversationBook.turn? (book : ConversationBook)
    (conversationId clientTurnId : String) : Option Turn :=
  (book.records conversationId).bind fun record =>
    record.turns.find? clientTurnId

variable {book : ConversationBook}

variable {owner : Owner} {store : ConversationStore}

theorem open?_eq_some_iff :
    book.open? owner = some store ↔
      ∃ record, book.records owner.conversationId = some record ∧
        owner.owns record.row = true ∧
        store = ⟨record.row, record.turns, record.answers, book.outbox⟩ := by
  simp only [ConversationBook.open?, Option.map_eq_some_iff,
    Option.filter_eq_some_iff]
  constructor
  · rintro ⟨record, ⟨found, owns⟩, rfl⟩
    exact ⟨record, found, owns, rfl⟩
  · rintro ⟨record, found, owns, rfl⟩
    exact ⟨record, ⟨found, owns⟩, rfl⟩

theorem turn?_put (book : ConversationBook) (owner : Owner)
    (store : ConversationStore) (conversationId clientTurnId : String) :
    (book.put owner store).turn? conversationId clientTurnId =
      if conversationId = owner.conversationId then
        store.turns.find? clientTurnId
      else book.turn? conversationId clientTurnId := by
  unfold ConversationBook.turn? ConversationBook.put
  dsimp only
  rw [Function.update_apply]
  split <;> rfl

theorem turn?_open (opened : book.open? owner = some store)
    (clientTurnId : String) :
    book.turn? owner.conversationId clientTurnId =
      store.turns.find? clientTurnId := by
  obtain ⟨_, found, _, rfl⟩ := open?_eq_some_iff.mp opened
  simp [ConversationBook.turn?, found]

theorem put_open (opened : book.open? owner = some store) :
    book.put owner store = book := by
  obtain ⟨_, found, _, rfl⟩ := open?_eq_some_iff.mp opened
  unfold ConversationBook.put
  rw [← found, Function.update_eq_self]

structure Recorded (book : ConversationBook) (log : List BookEvent) :
    Prop where
  named : ∀ {conversationId record},
    book.records conversationId = some record →
    record.row.conversationId = conversationId
  committed : ∀ {conversationId clientTurnId turn},
    book.turn? conversationId clientTurnId = some turn →
    turn.status = .committed → ∃ event ∈ log, ∃ response,
      CommittedBy event conversationId clientTurnId response ∧
      turn.response = some response
  kept : ∀ {event conversationId clientTurnId response}, event ∈ log →
    CommittedBy event conversationId clientTurnId response →
    ∃ turn, book.turn? conversationId clientTurnId = some turn ∧
      turn.status = .committed ∧ turn.response = some response
  events : ∀ {event}, event ∈ book.outbox.events.rows →
    ∃ clientTurnId turn,
      event.dedupeKey = turnKey event.aggregate.aggregateId clientTurnId ∧
      book.turn? event.aggregate.aggregateId clientTurnId = some turn ∧
      turn.status = .committed

namespace Recorded

variable {book later : ConversationBook} {log : List BookEvent}

theorem initial : Recorded ConversationBook.empty [] where
  named found := by cases found
  committed found := by cases found
  kept member := absurd member List.not_mem_nil
  events member := absurd member List.not_mem_nil

variable {event : BookEvent}

theorem quiet (recorded : Recorded book log)
    (commitsNone : ∀ conversationId clientTurnId response,
      ¬ CommittedBy event conversationId clientTurnId response)
    (named : ∀ {conversationId record},
      later.records conversationId = some record →
      record.row.conversationId = conversationId)
    (turns : ∀ conversationId clientTurnId turn, turn.status = .committed →
      (book.turn? conversationId clientTurnId = some turn ↔
        later.turn? conversationId clientTurnId = some turn))
    (outbox : later.outbox = book.outbox) :
    Recorded later (event :: log) where
  named := named
  committed found committed := by
    obtain ⟨earlier, member, response, committedBy, same⟩ :=
      recorded.committed ((turns _ _ _ committed).mpr found) committed
    exact ⟨earlier, List.mem_cons_of_mem event member, response, committedBy,
      same⟩
  kept member committedBy := by
    rcases List.mem_cons.mp member with rfl | older
    · exact absurd committedBy (commitsNone _ _ _)
    · obtain ⟨turn, found, committed, same⟩ := recorded.kept older committedBy
      exact ⟨turn, (turns _ _ _ committed).mp found, committed, same⟩
  events member := by
    rw [outbox] at member
    obtain ⟨clientTurnId, turn, sameKey, found, committed⟩ :=
      recorded.events member
    exact ⟨clientTurnId, turn, sameKey, (turns _ _ _ committed).mp found,
      committed⟩

variable {owner : Owner} {store : ConversationStore}

theorem owner_named (recorded : Recorded book log)
    (opened : book.open? owner = some store) :
    store.row.conversationId = owner.conversationId := by
  obtain ⟨_, found, _, rfl⟩ := open?_eq_some_iff.mp opened
  exact recorded.named found

variable {next : ConversationStore}

section Recorded

variable (recorded : Recorded book log) (opened : book.open? owner = some store)

include recorded opened

theorem put_named (sameOwner : SameOwner store.row next.row)
    {conversationId : String} {record : ConversationRecord}
    (found : (book.put owner next).records conversationId = some record) :
    record.row.conversationId = conversationId := by
  unfold ConversationBook.put at found
  dsimp only at found
  rw [Function.update_apply] at found
  split at found
  · rename_i same
    cases found
    rw [same]
    exact sameOwner.conversationId.trans (recorded.owner_named opened)
  · exact recorded.named found

theorem put (uncommitting : Uncommitting store next)
    (commitsNone : ∀ conversationId clientTurnId response,
      ¬ CommittedBy event conversationId clientTurnId response) :
    Recorded (book.put owner next) (event :: log) := by
  refine recorded.quiet commitsNone
    (recorded.put_named opened uncommitting.owner) ?_ ?_
  · intro conversationId clientTurnId turn committed
    rw [turn?_put]
    split
    · rename_i same
      rw [same, turn?_open opened]
      exact uncommitting.turns clientTurnId turn committed
    · exact Iff.rfl
  · obtain ⟨_, _, _, rfl⟩ := open?_eq_some_iff.mp opened
    exact uncommitting.outbox

theorem putRow {row : Conversation} (sameOwner : SameOwner store.row row)
    (commitsNone : ∀ conversationId clientTurnId response,
      ¬ CommittedBy event conversationId clientTurnId response) :
    Recorded (book.putRow owner store row) (event :: log) := by
  have uncommitting : Uncommitting store { store with row } :=
    ⟨sameOwner, rfl, .refl _⟩
  exact recorded.put opened uncommitting commitsNone

theorem undelivered {clientTurnId : String} {turn : Turn}
    (found : store.turns.find? clientTurnId = some turn)
    (started : turn.status = .started) {prior : OutboxEvent}
    (member : prior ∈ store.outbox.events.rows)
    (sameAggregate : prior.aggregate =
      ⟨store.row.tenantId, "conversation", store.row.conversationId⟩) :
    prior.dedupeKey ≠ turnKey store.row.conversationId clientTurnId := by
  intro sameKey
  have named := recorded.owner_named opened
  have stored : prior ∈ book.outbox.events.rows := by
    obtain ⟨_, _, _, rfl⟩ := open?_eq_some_iff.mp opened
    exact member
  obtain ⟨_, _, otherKey, otherFound, committed⟩ := recorded.events stored
  rw [sameAggregate] at otherKey otherFound
  dsimp only at otherKey otherFound
  obtain rfl := turnKey_inj (otherKey.symm.trans sameKey)
  rw [named, turn?_open opened, found, Option.some.injEq] at otherFound
  rw [← otherFound, started] at committed
  cases committed

end Recorded

variable {encoding : Encoding}

theorem appended (recorded : Recorded book log)
    (opened : book.open? owner = some store) {call : TurnCommit} {turn : Turn}
    (commits : Commits encoding store next call turn) :
    ∃ event, next.outbox.events.rows =
        store.outbox.events.rows ++ [event] ∧
      event.eventType = "conversation.turn_committed" ∧
      event.aggregate.aggregateId = owner.conversationId ∧
      event.dedupeKey = turnKey owner.conversationId call.clientTurnId := by
  have named := recorded.owner_named opened
  rcases commits.appended with
    ⟨prior, member, sameKey, sameAggregate⟩ |
      ⟨event, grown, aggregate, eventType, _, dedupeKey⟩
  · exact absurd sameKey (recorded.undelivered opened commits.found
      commits.started member sameAggregate)
  · exact ⟨event, grown, eventType, by rw [aggregate]; exact named,
      by rw [dedupeKey, named]⟩

theorem turn?_commit (opened : book.open? owner = some store)
    {call : TurnCommit} {turn stored : Turn}
    (commits : Commits encoding store next call turn)
    {conversationId clientTurnId : String}
    (found : book.turn? conversationId clientTurnId = some stored)
    (committed : stored.status = .committed) :
    (book.put owner next).turn? conversationId clientTurnId = some stored := by
  rw [turn?_put]
  split
  · rename_i sameConversation
    rw [sameConversation, turn?_open opened] at found
    rw [commits.turns, if_neg]
    · exact found
    · rintro rfl
      rw [commits.found, Option.some.injEq] at found
      rw [← found, commits.started] at committed
      cases committed
  · exact found

section Recorded2

variable (recorded : Recorded book log)

include recorded

theorem commit (opened : book.open? owner = some store) {call : TurnCommit}
    {turn : Turn} (commits : Commits encoding store next call turn)
    (eventId : String) {result : TurnResult} (fresh : result.duplicate = false) :
    Recorded (book.put owner next)
      ((.commit owner call eventId, .turn (.ok result)) :: log) := by
  have committedTurn : (turn.commit encoding call).status = .committed := rfl
  have newest : next.turns.find? call.clientTurnId =
      some (turn.commit encoding call) := by
    rw [commits.turns, if_pos rfl]
  constructor
  · intro conversationId record found
    exact recorded.put_named opened commits.owner found
  · intro conversationId clientTurnId stored found committed
    have ofOlder : book.turn? conversationId clientTurnId = some stored →
        ∃ event ∈ (BookAction.commit owner call eventId,
          BookAnswer.turn (.ok result)) :: log, ∃ response,
          CommittedBy event conversationId clientTurnId response ∧
          stored.response = some response := by
      intro older
      obtain ⟨event, member, response, committedBy, same⟩ :=
        recorded.committed older committed
      exact ⟨event, List.mem_cons_of_mem _ member, response, committedBy, same⟩
    rw [turn?_put] at found
    split at found
    · rename_i same
      subst same
      rw [commits.turns] at found
      split at found
      · rename_i sameTurn
        subst sameTurn
        cases found
        exact ⟨_, List.mem_cons_self, call.response,
          ⟨owner, call, eventId, result, rfl, fresh, rfl, rfl, rfl⟩, rfl⟩
      · exact ofOlder ((turn?_open opened clientTurnId).trans found)
    · exact ofOlder found
  · intro event conversationId clientTurnId response member committedBy
    rcases List.mem_cons.mp member with rfl | older
    · obtain ⟨_, _, _, _, equal, _, rfl, rfl, rfl⟩ := committedBy
      cases equal
      rw [turn?_put, if_pos rfl]
      exact ⟨_, newest, committedTurn, rfl⟩
    · obtain ⟨stored, found, committed, same⟩ := recorded.kept older committedBy
      exact ⟨stored, turn?_commit opened commits found committed, committed,
        same⟩
  · intro event member
    obtain ⟨fresh, grown, _, aggregateId, dedupeKey⟩ :=
      recorded.appended opened commits
    have outbox : book.outbox = store.outbox := by
      obtain ⟨_, _, _, rfl⟩ := open?_eq_some_iff.mp opened
      rfl
    change event ∈ next.outbox.events.rows at member
    rw [grown, List.mem_append, List.mem_singleton] at member
    rcases member with older | rfl
    · obtain ⟨clientTurnId, stored, sameKey, found, committed⟩ :=
        recorded.events (outbox ▸ older)
      exact ⟨clientTurnId, stored, sameKey,
        turn?_commit opened commits found committed, committed⟩
    · refine ⟨call.clientTurnId, turn.commit encoding call, ?_, ?_,
        committedTurn⟩
      · rw [dedupeKey, aggregateId]
      · rw [turn?_put, if_pos aggregateId]
        exact newest

theorem create (call : NewConversation)
    (commitsNone : ∀ conversationId clientTurnId response,
      ¬ CommittedBy event conversationId clientTurnId response) :
    Recorded (createConversation book call).2 (event :: log) := by
  unfold createConversation
  split
  · exact recorded.quiet commitsNone recorded.named (fun _ _ _ _ => Iff.rfl) rfl
  split
  · exact recorded.quiet commitsNone recorded.named (fun _ _ _ _ => Iff.rfl) rfl
  rename_i vacant
  refine recorded.quiet commitsNone ?_ ?_ rfl
  · intro conversationId record found
    dsimp only at found
    rw [Function.update_apply] at found
    split at found
    · rename_i same
      cases found
      rw [same]
      exact (getConversation_owner call.row call.now false).conversationId
    · exact recorded.named found
  · intro conversationId clientTurnId turn _
    unfold ConversationBook.turn?
    dsimp only
    rw [Function.update_apply]
    split
    · rename_i same
      rw [same, vacant]
      simp [Table.find?_eq_some_iff]
    · exact Iff.rfl

theorem call (encoding : Encoding) (action : BookAction) :
    Recorded (bookCall encoding book action).2
      ((action, (bookCall encoding book action).1) :: log) := by
  have quietly : ∀ {answer : BookAnswer},
      (∀ conversationId clientTurnId response,
        ¬ CommittedBy (action, answer) conversationId clientTurnId response) →
      Recorded book ((action, answer) :: log) :=
    fun commitsNone => recorded.quiet commitsNone recorded.named
      (fun _ _ _ _ => Iff.rfl) rfl
  have commitsNone : ∀ {answer : BookAnswer},
      (∀ owner call eventId, action ≠ .commit owner call eventId) →
      ∀ conversationId clientTurnId response,
        ¬ CommittedBy (action, answer) conversationId clientTurnId
          response := by
    rintro answer other _ _ _ ⟨owner, call, eventId, _, equal, _⟩
    exact other owner call eventId (congrArg Prod.fst equal)
  cases action with
  | create call => exact recorded.create call (commitsNone (by simp))
  | get owner now includeTerminal =>
      simp only [bookCall]
      split
      · exact quietly (commitsNone (by simp))
      · rename_i opened
        exact recorded.putRow opened (getConversation_owner _ _ _)
          (commitsNone (by simp))
  | update owner changes now ttlSeconds expectedVersion =>
      simp only [bookCall]
      split
      · exact quietly (commitsNone (by simp))
      · rename_i opened
        exact recorded.putRow opened (updateConversation_owner _ _ _ _ _)
          (commitsNone (by simp))
  | begin owner call =>
      simp only [bookCall]
      split
      · exact quietly (commitsNone (by simp))
      · rename_i opened
        exact recorded.put opened
          (beginConversationTurn_uncommitting encoding _ call)
          (commitsNone (by simp))
  | commit owner call eventId =>
      simp only [bookCall]
      split
      · refine quietly ?_
        rintro _ _ _ ⟨_, _, _, _, equal, _⟩
        cases equal
      rename_i store opened
      rcases commitTurn_cases encoding store call eventId with
        ⟨error, later, refused, row, outbox, turns⟩ |
          ⟨turn, found, committed, replayed⟩ |
            ⟨turn, result, later, accepted, fresh, _, commits⟩
      · rw [refused]
        refine recorded.put opened ⟨?_, outbox, turns⟩ ?_
        · rw [row]
          exact ⟨rfl, rfl, rfl⟩
        · rintro _ _ _ ⟨_, _, _, _, equal, _⟩
          cases equal
      · rw [replayed, put_open opened]
        refine quietly ?_
        rintro _ _ _ ⟨_, _, _, _, equal, fresh, _⟩
        cases equal
        cases fresh
      · rw [accepted]
        exact recorded.commit opened commits eventId fresh
  | close owner now =>
      simp only [bookCall]
      split
      · exact quietly (commitsNone (by simp))
      · rename_i opened
        exact recorded.putRow opened (closeConversation_owner _ _)
          (commitsNone (by simp))

theorem admits (encoding : Encoding) (owner : Owner) (call : TurnCommit)
    (eventId : String) :
    CommitLaw encoding book log owner call
      (bookCall encoding book (.commit owner call eventId)).1
      (bookCall encoding book (.commit owner call eventId)).2 := by
  simp only [bookCall]
  cases opened : book.open? owner with
  | none =>
      constructor
      · intro _ impossible
        cases impossible
      · intro _ impossible
        cases impossible
      · intro _ _ _ _ _ store found
        rw [opened] at found
        cases found
      · intro _ _
        exact ⟨rfl, fun _ => rfl⟩
  | some store =>
      dsimp only
      have outbox : store.outbox = book.outbox := by
        obtain ⟨_, _, _, rfl⟩ := open?_eq_some_iff.mp opened
        rfl
      have replayed : ∀ event ∈ log, ∀ response,
          CommittedBy event owner.conversationId call.clientTurnId response →
          isObject call.response = true → ∀ other,
          book.open? owner = some other →
          other.row.status.terminal = false →
          ∃ result, BookAnswer.turn (commitTurn encoding store call eventId).1 =
              .turn (.ok result) ∧ result.duplicate = true ∧
            result.response = some response := by
        intro event member response committedBy isResponse other found live
        rw [opened, Option.some.injEq] at found
        subst found
        obtain ⟨turn, stored, committed, same⟩ :=
          recorded.kept member committedBy
        rw [turn?_open opened] at stored
        rw [commitTurn_replays encoding eventId isResponse stored committed
          live]
        exact ⟨_, rfl, rfl, same⟩
      rcases commitTurn_cases encoding store call eventId with
        ⟨error, later, refused, row, sameOutbox, turns⟩ |
          ⟨turn, found, committed, repeated⟩ |
            ⟨turn, result, later, accepted, fresh, response, commits⟩
      · rw [refused] at replayed ⊢
        refine ⟨?_, ?_, replayed, ?_⟩
        · intro _ impossible
          cases impossible
        · intro _ impossible
          cases impossible
        · intro _ _
          refine ⟨sameOutbox.trans outbox, ?_⟩
          intro conversationId
          unfold ConversationBook.put
          dsimp only
          rw [Function.update_apply]
          split
          · rename_i same
            obtain ⟨record, present, _, rfl⟩ := open?_eq_some_iff.mp opened
            rw [same, present, Option.map_some, Option.map_some, row]
          · rfl
      · rw [repeated] at replayed ⊢
        refine ⟨?_, ?_, replayed, ?_⟩
        · intro _ equal fresh
          cases equal
          cases fresh
        · intro _ equal _
          cases equal
          obtain ⟨event, member, response, committedBy, same⟩ :=
            recorded.committed ((turn?_open opened _).trans found) committed
          exact ⟨put_open opened, event, member, response, committedBy, same⟩
        · intro _ impossible
          cases impossible
      · rw [accepted] at replayed ⊢
        refine ⟨?_, ?_, replayed, ?_⟩
        · intro _ equal _
          cases equal
          refine ⟨?_, response, ?_, ?_, ?_⟩
          · intro event member other committedBy
            obtain ⟨stored, present, committed, _⟩ :=
              recorded.kept member committedBy
            rw [turn?_open opened, commits.found, Option.some.injEq] at present
            rw [← present, commits.started] at committed
            cases committed
          · obtain ⟨record, present, _, rfl⟩ := open?_eq_some_iff.mp opened
            refine ⟨record, ⟨later.row, later.turns, later.answers⟩, present,
              ?_, commits.version⟩
            unfold ConversationBook.put
            dsimp only
            rw [Function.update_self]
          · intro conversationId other
            unfold ConversationBook.put
            dsimp only
            rw [Function.update_of_ne other]
          · rw [← outbox]
            exact recorded.appended opened commits
        · intro _ equal replay
          cases equal
          rw [fresh] at replay
          cases replay
        · intro _ impossible
          cases impossible

theorem admitsClaim (encoding : Encoding) (owner : Owner) (call : TurnRequest) :
    BeginLaw book log owner call
      (bookCall encoding book (.begin owner call)).1
      (bookCall encoding book (.begin owner call)).2 := by
  simp only [bookCall]
  cases opened : book.open? owner with
  | none =>
      refine ⟨fun _ => rfl, rfl, ?_⟩
      intro _ answered _
      dsimp only at answered
      split at answered <;> cases answered
  | some store =>
      obtain ⟨record, present, _, rfl⟩ := open?_eq_some_iff.mp opened
      dsimp only
      refine ⟨?_, ?_, ?_⟩
      · intro conversationId
        unfold ConversationBook.put
        dsimp only
        rw [Function.update_apply]
        split
        · rename_i same
          rw [same, present, Option.map_some, Option.map_some,
            beginConversationTurn_version]
        · rfl
      · exact (beginConversationTurn_uncommitting encoding _ call).outbox
      · intro result answered replay
        obtain ⟨unchanged, turn, found, status, response⟩ :=
          beginConversationTurn_replay (BookAnswer.turn.inj answered) replay
        refine ⟨by rw [unchanged, put_open opened], ?_⟩
        intro committed
        obtain ⟨event, member, other, committedBy, same⟩ :=
          recorded.committed ((turn?_open opened _).trans found)
            (status.symm.trans committed)
        exact ⟨event, member, other, committedBy, response.trans same⟩

end Recorded2

end Recorded

/-- In every sequence of calls, a turn is committed at most once, and then with
one version and one event more; what is committed is answered again while the
conversation lives; and a refused commit changes no conversation. -/
theorem turns_commit_exactly_once (encoding : Encoding)
    (actions : List BookAction) :
    Along (logStep (bookCall encoding)) (ExactlyOnce encoding)
      ⟨ConversationBook.empty, []⟩ actions := by
  refine Along.of_invariant
    (fun logged => Recorded logged.state logged.log) ?_ ?_ Recorded.initial
    actions
  · intro logged action recorded
    exact recorded.call encoding action
  · intro logged action recorded
    cases action with
    | begin owner call => exact recorded.admitsClaim encoding owner call
    | commit owner call eventId =>
        exact recorded.admits encoding owner call eventId
    | _ => trivial

def BookAnswer.replay? : BookAnswer → Option Bool
  | .turn (.ok result) => some result.duplicate
  | _ => none

theorem committedBy_of_replay? {call : TurnCommit} {eventId : String}
    {answer : BookAnswer} (fresh : answer.replay? = some false) :
    CommittedBy (.commit owner call eventId, answer) owner.conversationId
      call.clientTurnId call.response := by
  unfold BookAnswer.replay? at fresh
  split at fresh
  · rename_i result
    exact ⟨owner, call, eventId, result, rfl, Option.some.inj fresh, rfl, rfl,
      rfl⟩
  · cases fresh

def plainEncoding : Encoding := ⟨⟨fun _ => "json"⟩, fun _ => "sha256"⟩

def plainOwner : Owner := ⟨"conversation:1", "tenant", "principal"⟩

def closingTurn : TurnCommit where
  clientTurnId := "turn:1"
  expectedVersion := 1
  changes := { status := some (.str "closed") }
  response := .dict [("text", .str "done")]
  now := 1
  ttlSeconds := 180

/-- A turn that was committed is not answered again once its conversation is
closed. -/
theorem closed_conversation_replays_nothing :
    ¬ ∀ (actions : List BookAction) (owner : Owner) (call : TurnCommit)
      (eventId : String) (event : BookEvent) (response : Value),
      event ∈ (run (logStep (bookCall plainEncoding))
        ⟨ConversationBook.empty, []⟩ actions).log →
      CommittedBy event owner.conversationId call.clientTurnId response →
      (bookCall plainEncoding (run (logStep (bookCall plainEncoding))
        ⟨ConversationBook.empty, []⟩ actions).state
        (.commit owner call eventId)).1.replay? = some true := by
  intro replays
  have again := replays
    [.create ⟨plainOwner, 0, 180, none⟩,
      .begin plainOwner ⟨"turn:1", 1, .dict [], 1, 180⟩,
      .commit plainOwner closingTurn "outbox:1"]
    plainOwner closingTurn "outbox:2" _ closingTurn.response
    List.mem_cons_self (committedBy_of_replay? (by decide +kernel))
  exact absurd again (by decide +kernel)

end AcpTask.Concierge
