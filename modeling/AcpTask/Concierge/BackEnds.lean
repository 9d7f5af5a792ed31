import AcpTask.Concierge.ExactlyOnce
import AcpTask.Concierge.Postgres

namespace AcpTask.Concierge

open Data Library Outbox

section Definitions

variable (server : Postgres.Server) (encoding : Encoding)

def bothStep (books : ConversationBook × ConversationBook)
    (action : BookAction) : ConversationBook × ConversationBook :=
  ((bookCall encoding books.1 action).2,
    (Postgres.bookCall server encoding books.2 action).2)

def BackEndsAgree (books : ConversationBook × ConversationBook)
    (action : BookAction) : Prop :=
  (Postgres.bookCall server encoding books.2 action).1 =
      .same (bookCall encoding books.1 action).1 ∧
    (Postgres.bookCall server encoding books.2 action).2 =
      (bookCall encoding books.1 action).2

def Kept (row : Conversation) (now : Int) : Prop :=
  Postgres.writtenThenRead server row now = .ok (getConversation row now false)

/-- A commit of a started turn of a live conversation at its version that is
either accepted, or refused for its response after Postgres refused the row. -/
def CommitParts (store : ConversationStore) (call : TurnCommit) : Prop :=
  blockingNeedAccepted (call.changes.applyTo store.row.state) = true ∧
  ∃ revised, call.changes.revise store.row call.now call.ttlSeconds =
      .ok revised ∧
    (call.response.serializable = true ∨
      ∃ refusal, server.storeRow (revised.assign store.row) = .error refusal)

def OpenedPart (store : ConversationStore) : BookAction → Prop
  | .create _ => False
  | .get _ now _ =>
      store.row.lapsed now = true ∧
        server.storeRow (store.row.expire now) ≠ .ok (store.row.expire now)
  | .update _ changes now ttlSeconds expectedVersion =>
      store.row.lapsed now = true ∨
      ∃ current revised, updatePrepared store.row.shown changes now ttlSeconds
          expectedVersion = .ok (current, revised) ∧
        ¬ Kept server (revised.assign store.row) now
  | .begin _ call =>
      let turn := call.row encoding (nextTurnVersion store.turns)
      store.row.lapsed call.now = true ∨
      (store.row.status.terminal = false ∧
        store.turns.find? call.clientTurnId = none ∧
        (store.row.stateVersion : Int) = call.expectedVersion ∧
        (activeTurn store.turns call.expectedVersion = true ∨
          server.storeTurn turn ≠ .ok turn))
  | .commit _ call _ =>
      ∃ turn, store.turns.find? call.clientTurnId = some turn ∧
        (store.row.status.terminal = true ∨
          (turn.status = .started ∧
            (turn.baseStateVersion ≠ call.expectedVersion ∨
              (store.row.stateVersion : Int) ≠ call.expectedVersion ∨
              CommitParts server store call)))
  | .close _ _ => True

def argumentsAccepted : BookAction → Bool
  | .create call => call.owner.tenantId != "" && call.owner.principalId != ""
  | .begin _ call => (requestAccepted call).isOk
  | .commit _ call _ => isObject call.response
  | .get .. | .update .. | .close .. => true

def BookAction.owner : BookAction → Owner
  | .create call => call.owner
  | .get owner _ _ => owner
  | .update owner _ _ _ _ => owner
  | .begin owner _ => owner
  | .commit owner _ _ => owner
  | .close owner _ => owner

def BackEndsPart (book : ConversationBook) (action : BookAction) : Prop :=
  match action with
  | .create call =>
      argumentsAccepted action = true ∧
        (server.storeRow call.row = .error .dataError ∨
          book.records call.owner.conversationId = none ∧
            ¬ Kept server call.row call.now)
  | .close _ _ => True
  | _ =>
      argumentsAccepted action = true ∧
        (server.takes action = false ∨
          ∃ store, book.open? action.owner = some store ∧
            OpenedPart server encoding store action)

end Definitions

theorem of_eq_same_iff {Value : Type}
    {render : Except ConversationError Value → BookAnswer}
    (injective : Function.Injective render)
    {result : Except Postgres.Failure Value}
    {sqlite : Except ConversationError Value} :
    Postgres.Answer.of render result = .same (render sqlite) ↔
      result = sqlite.mapError .raised := by
  cases result with
  | ok =>
      cases sqlite <;>
        simp [Postgres.Answer.of, injective.eq_iff, Except.mapError]
  | error failure =>
      cases failure <;> cases sqlite <;>
        simp [Postgres.Answer.of, injective.eq_iff, Except.mapError]

theorem conversation_injective :
    Function.Injective BookAnswer.conversation :=
  fun _ _ same => BookAnswer.conversation.inj same

theorem turn_injective : Function.Injective BookAnswer.turn :=
  fun _ _ same => BookAnswer.turn.inj same

theorem put_eq_put_iff {book : ConversationBook} {owner : Owner}
    {first second : ConversationStore} :
    book.put owner first = book.put owner second ↔ first = second := by
  constructor
  · intro same
    have records := congrFun (congrArg ConversationBook.records same)
      owner.conversationId
    have outbox := congrArg ConversationBook.outbox same
    simp only [ConversationBook.put, Function.update_self, Option.some.injEq,
      ConversationRecord.mk.injEq] at records outbox
    cases first
    cases second
    simp_all
  · rintro rfl
    rfl

theorem putRow_eq_putRow_iff {book : ConversationBook} {owner : Owner}
    {store : ConversationStore} {first second : Conversation} :
    book.putRow owner store first = book.putRow owner store second ↔
      first = second := by
  rw [ConversationBook.putRow, ConversationBook.putRow, put_eq_put_iff]
  exact ⟨fun same => congrArg ConversationStore.row same,
    fun same => by rw [same]⟩

section Calls

variable {server : Postgres.Server} {encoding : Encoding}

theorem get_agree_iff (row : Conversation) (now : Int)
    (includeTerminal : Bool) :
    (Postgres.getConversation server row now includeTerminal).1 =
          .ok (getConversation row now includeTerminal).1 ∧
        (Postgres.getConversation server row now includeTerminal).2 =
          (getConversation row now includeTerminal).2 ↔
      ¬ (row.lapsed now = true ∧
        server.storeRow (row.expire now) ≠ .ok (row.expire now)) := by
  unfold Postgres.getConversation getConversation Postgres.writeRow
  cases lapsed : row.lapsed now with
  | false => simp
  | true =>
      cases stored : server.storeRow (row.expire now) with
      | error => simp [Except.mapError]
      | ok =>
          simp only [Except.mapError, if_true, ne_eq, true_and, not_not,
            Except.ok.injEq]
          exact ⟨fun same => same.2, fun same => by simp [same]⟩

theorem written_agree_iff {row stored : Conversation} {now : Int}
    (written : Postgres.writeRow server row = .ok stored) :
    ((Postgres.getConversation server stored now false).1 =
          .ok (getConversation row now false).1 ∧
        (Postgres.getConversation server stored now false).2 =
          (getConversation row now false).2) ↔ Kept server row now := by
  unfold Kept Postgres.writtenThenRead
  rw [written]
  dsimp only
  rcases Postgres.getConversation server stored now false with
    ⟨failure | shown, read⟩
  · simp [Except.map]
  · simp [Except.map, Prod.ext_iff]

variable {row : Conversation} {now : Int}

theorem live_eq_shown (current : row.lapsed now = false) :
    Postgres.live row now = row.shown ∧
      getConversation row now false = (row.shown, row) := by
  unfold Postgres.live getConversation Conversation.shown
  rw [current]
  cases terminal : row.status.terminal with
  | true => simp [terminal]
  | false =>
      simp only [Conversation.lapsed, terminal, Bool.not_false, Bool.true_and]
        at current
      simp [terminal, current]

theorem lapsed_apart (lapsed : row.lapsed now = true) :
    Postgres.live row now = none ∧
      getConversation row now false = (none, row.expire now) ∧
      row.expire now ≠ row := by
  have expired : row.status.terminal = false ∧ row.expiresAt < now := by
    simpa [Conversation.lapsed] using lapsed
  refine ⟨?_, ?_, ?_⟩
  · simp [Postgres.live, expired.1, expired.2]
  · simp [getConversation, lapsed, Conversation.expire,
      ConversationStatus.terminal]
  · intro same
    have status := congrArg Conversation.status same
    rw [← status] at expired
    simp [Conversation.expire, ConversationStatus.terminal] at expired

theorem updatePrepared_shown {current : Conversation} {changes : Changes}
    {ttlSeconds : Int} {expectedVersion : Option Int} {revised : Revised}
    (prepared : updatePrepared row.shown changes now ttlSeconds
      expectedVersion = .ok (current, revised)) : current = row := by
  unfold Conversation.shown at prepared
  split at prepared
  · cases prepared
  · simp only [updatePrepared, bind_eq_ok] at prepared
    obtain ⟨_, _, _, _, same⟩ := prepared
    cases same
    rfl

theorem update_agree_iff (row : Conversation) (changes : Changes)
    (now ttlSeconds : Int) (expectedVersion : Option Int) :
    ((Postgres.updateConversation server row changes now ttlSeconds
          expectedVersion).1 =
          (updateConversation row changes now ttlSeconds
            expectedVersion).1.mapError .raised ∧
        (Postgres.updateConversation server row changes now ttlSeconds
          expectedVersion).2 =
          (updateConversation row changes now ttlSeconds expectedVersion).2) ↔
      ¬ (row.lapsed now = true ∨
        ∃ current revised, updatePrepared row.shown changes now ttlSeconds
            expectedVersion = .ok (current, revised) ∧
          ¬ Kept server (revised.assign row) now) := by
  unfold Postgres.updateConversation updateConversation
  cases lapsed : row.lapsed now with
  | true =>
      obtain ⟨gone, read, apart⟩ := lapsed_apart lapsed
      rw [gone, read]
      refine iff_of_false (fun same => ?_) (by simp)
      exact apart same.2.symm
  | false =>
      obtain ⟨live, read⟩ := live_eq_shown lapsed
      rw [live, read]
      simp only [Bool.false_eq_true, false_or]
      cases prepared : updatePrepared row.shown changes now ttlSeconds
          expectedVersion with
      | error => simp [Except.mapError]
      | ok pair =>
          obtain ⟨current, revised⟩ := pair
          obtain rfl := updatePrepared_shown prepared
          have swapped : compareAndSwap current current.stateVersion revised =
              .ok (revised.assign current) := if_pos rfl
          simp only [swapped, Except.ok.injEq, Prod.mk.injEq, and_imp,
            not_exists, not_and, not_not, Except.mapError]
          cases written : Postgres.writeRow server (revised.assign current) with
          | error =>
              refine iff_of_false (fun same => ?_) (fun kept => ?_)
              · cases same.1
              · have unkept := kept current revised rfl rfl
                simp only [Kept, Postgres.writtenThenRead, written] at unkept
                cases unkept
          | ok =>
              refine (written_agree_iff written).trans
                ⟨?_, fun kept => kept current revised rfl rfl⟩
              rintro kept _ _ rfl rfl
              exact kept

variable {store : ConversationStore}

theorem insert_agree_iff {call : TurnRequest} {current : Conversation}
    (fresh : store.turns.find? call.clientTurnId = none) :
    let turn := call.row encoding (nextTurnVersion store.turns)
    let postgres : Except Postgres.Failure TurnResult × ConversationStore :=
      match Postgres.writeTurn server turn with
      | .error failure => (.error failure, store)
      | .ok stored =>
          if activeTurn store.turns call.expectedVersion then
            (.error (.raised .integrityError), store)
          else match store.turns.insert? stored with
            | none => (.error (.raised .integrityError), store)
            | some turns =>
                (.ok (conversationTurnResult stored (some current) false),
                  { store with turns })
    let sqlite : Except ConversationError TurnResult × ConversationStore :=
      if activeTurn store.turns call.expectedVersion then
        (.error turnInProgress, store)
      else match store.turns.insert? turn with
        | none => (.error turnInProgress, store)
        | some turns =>
            (.ok (conversationTurnResult turn (some current) false),
              { store with turns })
    (postgres.1 = sqlite.1.mapError .raised ∧ postgres.2 = sqlite.2) ↔
      ¬ (activeTurn store.turns call.expectedVersion = true ∨
        server.storeTurn turn ≠ .ok turn) := by
  intro turn postgres sqlite
  simp only [postgres, sqlite, Postgres.writeTurn]
  cases active : activeTurn store.turns call.expectedVersion with
  | true =>
      refine iff_of_false (fun same => ?_) (by simp)
      cases kept : server.storeTurn turn with
      | error refusal =>
          rw [kept] at same
          cases refusal <;> cases same.1
      | ok =>
          rw [kept] at same
          cases same.1
  | false =>
      cases inserted : store.turns.insert? turn with
      | none => exact absurd fresh (Table.insert?_eq_none_iff.mp inserted)
      | some turns =>
          have grown := (Table.insert?_eq_some_iff.mp inserted).2
          cases kept : server.storeTurn turn with
          | error =>
              refine iff_of_false (fun same => ?_) (by simp)
              cases same.1
          | ok stored =>
              by_cases sameTurn : stored = turn
              · subst sameTurn
                simp [Except.mapError, inserted]
              · refine iff_of_false (fun same => ?_) (by simp [sameTurn])
                simp only [Except.mapError, Bool.false_eq_true, if_false]
                  at same
                cases other : store.turns.insert? stored with
                | none =>
                    rw [other] at same
                    cases same.1
                | some =>
                    rw [other] at same
                    have rows := congrArg (fun store => store.turns.rows) same.2
                    simp only [(Table.insert?_eq_some_iff.mp other).2, grown]
                      at rows
                    simp [sameTurn] at rows

theorem begin_agree_iff (store : ConversationStore) {call : TurnRequest}
    (owner : Owner) (accepted : requestAccepted call = .ok ()) :
    ((Postgres.beginConversationTurn server encoding store call).1 =
          (beginConversationTurn encoding store call).1.mapError .raised ∧
        (Postgres.beginConversationTurn server encoding store call).2 =
          (beginConversationTurn encoding store call).2) ↔
      ¬ OpenedPart server encoding store (.begin owner call) := by
  unfold Postgres.beginConversationTurn beginConversationTurn
  rw [accepted]
  simp only [OpenedPart]
  cases lapsed : store.row.lapsed call.now with
  | true =>
      obtain ⟨gone, read, apart⟩ := lapsed_apart lapsed
      rw [gone, read]
      refine iff_of_false (fun same => ?_) (by simp)
      exact apart (congrArg ConversationStore.row same.2).symm
  | false =>
      obtain ⟨live, read⟩ := live_eq_shown lapsed
      rw [live, read]
      cases terminal : store.row.status.terminal with
      | true => simp [Conversation.shown, terminal, Except.mapError]
      | false =>
          simp only [Conversation.shown, terminal, Bool.false_eq_true,
            if_false, false_or, true_and]
          cases found : store.turns.find? call.clientTurnId with
          | some prior =>
              by_cases sameRequest :
                  prior.requestHash = encoding.sha256 call.request
              · simp [sameRequest, Except.mapError]
              · simp [sameRequest, Except.mapError]
          | none =>
              by_cases sameVersion :
                  (store.row.stateVersion : Int) = call.expectedVersion
              · simp only [sameVersion, ne_eq, not_true_eq_false, if_false,
                  true_and]
                exact insert_agree_iff found
              · simp [sameVersion, Except.mapError]

def ordinary : Postgres.Failure → Bool
  | .raised (.keyError _) | .raised (.outbox _) => false
  | _ => true

variable {failure : Postgres.Failure}

theorem refusal_ordinary {Value : Type} {result : Except Postgres.Refusal Value}
    (refused : result.mapError Postgres.Refusal.failure = .error failure) :
    ordinary failure = true := by
  cases result with
  | ok => cases refused
  | error refusal => cases refusal <;> cases refused <;> rfl

theorem read_ordinary {includeTerminal : Bool}
    (refused : (Postgres.getConversation server row now includeTerminal).1 =
      .error failure) : ordinary failure = true := by
  unfold Postgres.getConversation at refused
  split at refused
  · split at refused
    · rename_i unwritten
      cases refused
      exact refusal_ordinary unwritten
    · cases refused
  · cases refused

variable {call : TurnCommit}

theorem commitRow_ordinary {error : ConversationError}
    (refused : Postgres.commitRow row call = .error error) :
    ordinary (.raised error) = true := by
  simp only [Postgres.commitRow, bind_eq_error, require_eq_error] at refused
  rcases refused with ⟨_, rfl⟩ | ⟨_, _, invalid | ⟨revised, _, swapped⟩⟩
  · rfl
  · unfold Changes.revise at invalid
    dsimp only at invalid
    split at invalid
    · cases invalid
      rfl
    · simp only [bind_eq_error, require_eq_error] at invalid
      rcases invalid with ⟨_, rfl⟩ | ⟨_, _, impossible⟩
      · rfl
      · cases impossible
  · unfold compareAndSwap at swapped
    split at swapped
    · cases swapped
    · cases swapped
      rfl

variable {turn : Turn}

theorem commitStarted_ordinary
    (refused : Postgres.commitStarted server encoding store call turn =
      .error failure) : ordinary failure = true := by
  simp only [Postgres.commitStarted, bind_eq_error, require_eq_error] at refused
  rcases refused with unassigned | ⟨_, _, unwritten | ⟨_, _, ⟨_, rfl⟩ |
    ⟨_, _, unwritten | ⟨_, _, impossible⟩⟩⟩⟩
  · cases checked : Postgres.commitRow store.row call with
    | ok =>
        rw [checked] at unassigned
        cases unassigned
    | error =>
        rw [checked] at unassigned
        cases unassigned
        exact commitRow_ordinary checked
  · exact refusal_ordinary unwritten
  · rfl
  · exact refusal_ordinary unwritten
  · cases impossible

theorem commit_ordinary
    (found : store.turns.find? call.clientTurnId = some turn)
    (refused : (Postgres.commitConversationTurn server encoding store
      call).1 = .error failure) : ordinary failure = true := by
  unfold Postgres.commitConversationTurn at refused
  rw [found] at refused
  dsimp only at refused
  split at refused
  · cases refused
  split at refused
  · cases refused
    rfl
  cases committed : Postgres.commitStarted server encoding store call turn with
  | error =>
      rw [committed] at refused
      cases refused
      exact commitStarted_ordinary committed
  | ok pair =>
      rw [committed] at refused
      dsimp only at refused
      cases read : (Postgres.getConversation server pair.2.row call.now
          false).1 with
      | error =>
          rw [read] at refused
          cases refused
          exact read_ordinary read
      | ok =>
          rw [read] at refused
          cases refused

theorem commit_outbox (store : ConversationStore) (call : TurnCommit) :
    (Postgres.commitConversationTurn server encoding store call).2.outbox =
      store.outbox := by
  unfold Postgres.commitConversationTurn
  split
  · rfl
  split
  · rfl
  split
  · rfl
  split
  · rfl
  · rename_i committed
    simp only [Postgres.commitStarted, bind_eq_ok] at committed
    obtain ⟨_, _, _, _, _, _, _, _, same⟩ := committed
    cases same
    rfl

structure Committable (store : ConversationStore) (call : TurnCommit)
    (turn : Turn) : Prop where
  found : store.turns.find? call.clientTurnId = some turn
  live : store.row.status.terminal = false
  started : turn.status = .started
  base : turn.baseStateVersion = call.expectedVersion
  version : (store.row.stateVersion : Int) = call.expectedVersion

theorem append_changes {json : Json} {store later : OutboxStore}
    (unsent : store = OutboxStore.empty) {aggregate : Aggregate}
    {eventType dedupeKey eventId : String} {payload : Value} {maxAttempts : Int}
    {availableAt : Option Int} {event : OutboxEvent}
    (appended : appendOutboxEvent json store aggregate eventType payload
      dedupeKey eventId now maxAttempts availableAt = (.ok event, later)) :
    later ≠ store := by
  subst unsent
  rintro rfl
  rcases appendOutboxEvent_ok appended with ⟨prior, -⟩ | ⟨-, grown, -⟩
  · cases prior
  · have lengths := congrArg List.length grown
    simp at lengths

theorem transacted_committable (committable : Committable store call turn)
    (eventId : String) :
    commitConversationTurn encoding store call eventId =
      (transaction store fun store => do
        let row ← Postgres.commitRow store.row call
        require call.response.serializable .typeError
        match appendOutboxEvent encoding.toJson store.outbox
            ⟨row.tenantId, "conversation", row.conversationId⟩
            "conversation.turn_committed" (commitEvent encoding call turn)
            ("conversation-turn:" ++ row.conversationId ++ ":" ++
              call.clientTurnId) eventId call.now 5 none with
        | (.error error, _) => throw (.outbox error)
        | (.ok _, outbox) =>
            pure (true, {
              store with
              row, outbox
              turns := store.turns.updateWhere
                (fun turn => turn.clientTurnId == call.clientTurnId &&
                  turn.status == .started)
                (fun turn => { turn with
                  status := .committed
                  responseHash := some (encoding.sha256 call.response)
                  response := some call.response
                  committedAt := some call.now })
                (fun _ => by rfl) })) := by
  obtain ⟨found, live, started, base, version⟩ := committable
  unfold commitConversationTurn
  rw [found]
  dsimp only
  rw [live, if_neg Bool.false_ne_true, if_neg (by rw [started]; decide),
    if_neg (not_not.mpr started),
    if_neg (not_or.mpr ⟨not_not.mpr base, not_not.mpr version⟩)]
  refine congrArg (transaction store) (funext fun store => ?_)
  rw [Postgres.commitRow, bind_assoc]
  exact congrArg _ (funext fun _ => (bind_assoc ..).symm)

theorem commitTurn_committable {store : ConversationStore}
    {call : TurnCommit} {turn : Turn}
    (committable : Committable store call turn)
    (isResponse : isObject call.response = true)
    (unsent : store.outbox = OutboxStore.empty) (eventId : String) :
    match Postgres.commitRow store.row call with
    | .error error =>
        commitTurn encoding store call eventId = (.error error, store)
    | .ok _ =>
        if call.response.serializable then
          (∃ error, (commitTurn encoding store call eventId).1 =
            .error (.outbox error)) ∨
          (commitTurn encoding store call eventId).2.outbox ≠ store.outbox
        else commitTurn encoding store call eventId =
          (.error .typeError, store) := by
  unfold commitTurn
  rw [transacted_committable committable, isResponse]
  cases checked : Postgres.commitRow store.row call with
  | error => simp [transaction, checked, bind, Except.bind]
  | ok row =>
      cases serializable : call.response.serializable with
      | false => simp [transaction, checked, require, bind, Except.bind]
      | true =>
          rcases appended : appendOutboxEvent encoding.toJson store.outbox
            ⟨row.tenantId, "conversation", row.conversationId⟩
            "conversation.turn_committed" (commitEvent encoding call turn)
            ("conversation-turn:" ++ row.conversationId ++ ":" ++
              call.clientTurnId) eventId call.now 5 none with
            ⟨error | event, outbox⟩
          · simp [transaction, checked, require, bind,
              Except.bind, appended, throw, throwThe, MonadExceptOf.throw]
          · have changed := append_changes unsent appended
            simp only [transaction, checked, require, bind,
              Except.bind, appended, if_true, pure, Except.pure, Bool.not_true,
              Bool.false_eq_true, if_false]
            refine .inr ?_
            split <;> exact changed

theorem commitRow_ok_iff
    (version : (store.row.stateVersion : Int) = call.expectedVersion) :
    Postgres.commitRow store.row call = .ok row ↔
      blockingNeedAccepted (call.changes.applyTo store.row.state) = true ∧
      ∃ revised, call.changes.revise store.row call.now call.ttlSeconds =
        .ok revised ∧ revised.assign store.row = row := by
  simp [Postgres.commitRow, bind_eq_ok, compareAndSwap, version]

theorem committable_agree_iff (committable : Committable store call turn)
    (isResponse : isObject call.response = true)
    (unsent : store.outbox = OutboxStore.empty) (eventId : String) :
    ((Postgres.commitConversationTurn server encoding store call).1 =
          (commitTurn encoding store call eventId).1.mapError .raised ∧
        (Postgres.commitConversationTurn server encoding store call).2 =
          (commitTurn encoding store call eventId).2) ↔
      ¬ CommitParts server store call := by
  have sqlite := @commitTurn_committable encoding _ _ _ committable
    isResponse unsent eventId
  have found := committable.found
  have postgres : ∀ failure,
      Postgres.commitStarted server encoding store call turn = .error failure →
      Postgres.commitConversationTurn server encoding store call =
        (.error failure, store) := by
    intro failure refused
    simp only [Postgres.commitConversationTurn, found, committable.started,
      committable.base, committable.version, refused, reduceCtorEq, ne_eq,
      not_true_eq_false, or_self, if_false]
  cases checked : Postgres.commitRow store.row call with
  | error error =>
      rw [checked] at sqlite
      dsimp only at sqlite
      have refused : Postgres.commitStarted server encoding store call turn =
          .error (.raised error) := by
        simp [Postgres.commitStarted, checked, Except.mapError, bind,
          Except.bind]
      rw [sqlite, postgres _ refused]
      refine iff_of_true ⟨rfl, rfl⟩ ?_
      rintro ⟨accepted, revised, revision, -⟩
      have row := (commitRow_ok_iff committable.version).mpr
        ⟨accepted, revised, revision, rfl⟩
      rw [checked] at row
      cases row
  | ok row =>
      rw [checked] at sqlite
      dsimp only at sqlite
      obtain ⟨accepted, revised, revision, rfl⟩ :=
        (commitRow_ok_iff committable.version).mp checked
      cases serializable : call.response.serializable with
      | true =>
          rw [serializable, if_pos rfl] at sqlite
          refine iff_of_false (fun same => ?_)
            (fun agree => agree ⟨accepted, revised, revision,
              .inl serializable⟩)
          rcases sqlite with ⟨error, failed⟩ | changed
          · rw [failed] at same
            have plain := commit_ordinary found same.1
            cases plain
          · apply changed
            rw [← same.2]
            exact commit_outbox store call
      | false =>
          rw [serializable, if_neg (by simp)] at sqlite
          rw [sqlite]
          cases written : server.storeRow (revised.assign store.row) with
          | error refusal =>
              have refused : Postgres.commitStarted server encoding store call
                  turn = .error refusal.failure := by
                simp [Postgres.commitStarted, Postgres.writeRow, checked,
                  written, Except.mapError, bind, Except.bind]
              rw [postgres _ refused]
              refine iff_of_false (fun same => ?_)
                (fun agree => agree ⟨accepted, revised, revision,
                  .inr ⟨refusal, written⟩⟩)
              cases refusal <;> cases same.1
          | ok =>
              have refused : Postgres.commitStarted server encoding store call
                  turn = .error (.raised .typeError) := by
                simp [Postgres.commitStarted, Postgres.writeRow, checked,
                  written, serializable, require, Except.mapError, bind,
                  Except.bind]
              rw [postgres _ refused]
              refine iff_of_true ⟨rfl, rfl⟩ ?_
              rintro ⟨_, other, otherRevision, valid | ⟨refusal, unwritten⟩⟩
              · rw [serializable] at valid
                cases valid
              · rw [revision] at otherRevision
                cases otherRevision
                rw [written] at unwritten
                cases unwritten

theorem conflictTurn_ne {clientTurnId : String}
    (found : store.turns.find? clientTurnId = some turn)
    (started : turn.status = .started) :
    conflictTurn store clientTurnId ≠ store := by
  intro same
  have kept := congrArg (fun store => store.turns.find? clientTurnId) same
  have sameId := (Table.find?_eq_some_iff.mp found).2
  simp only [conflictTurn, Table.find?_updateWhere, found, Option.map_some,
    sameId, beq_self_eq_true, if_true, Option.some.injEq] at kept
  have status := congrArg Turn.status kept
  rw [started] at status
  cases status

theorem commit_agree_iff (isResponse : isObject call.response = true)
    (unsent : store.outbox = OutboxStore.empty) (owner : Owner)
    (eventId : String) :
    ((Postgres.commitConversationTurn server encoding store call).1 =
          (commitTurn encoding store call eventId).1.mapError .raised ∧
        (Postgres.commitConversationTurn server encoding store call).2 =
          (commitTurn encoding store call eventId).2) ↔
      ¬ OpenedPart server encoding store (.commit owner call eventId) := by
  simp only [OpenedPart]
  cases found : store.turns.find? call.clientTurnId with
  | none =>
      have refused : commitConversationTurn encoding store call eventId =
          (.error (.keyError "conversation turn unavailable"), store) := by
        simp [commitConversationTurn, found]
      simp [Postgres.commitConversationTurn, commitTurn, isResponse, refused,
        found, Except.mapError]
  | some turn =>
      simp only [Option.some.injEq, exists_eq_left']
      cases terminal : store.row.status.terminal with
      | true =>
          refine iff_of_false (fun same => ?_) (by simp)
          have refused : commitConversationTurn encoding store call eventId =
              (.error conversationUnavailable, store) := by
            simp [commitConversationTurn, found, terminal]
          have answered : (commitTurn encoding store call eventId).1 =
              .error conversationUnavailable := by
            simp [commitTurn, isResponse, refused]
          rw [answered] at same
          have plain := commit_ordinary found same.1
          cases plain
      | false =>
          simp only [Bool.false_eq_true, false_or]
          by_cases committed : turn.status = .committed
          · rw [commitTurn_replays encoding eventId isResponse found committed
              terminal]
            simp [Postgres.commitConversationTurn, found, committed,
              Except.mapError]
          by_cases started : turn.status = .started
          · by_cases current :
                turn.baseStateVersion = call.expectedVersion ∧
                  (store.row.stateVersion : Int) = call.expectedVersion
            · refine (committable_agree_iff ⟨found, terminal, started,
                current.1, current.2⟩ isResponse unsent eventId).trans ?_
              simp [started, current.1, current.2]
            · have stale : turn.baseStateVersion ≠ call.expectedVersion ∨
                  (store.row.stateVersion : Int) ≠ call.expectedVersion := by
                rwa [← not_and_or]
              refine iff_of_false (fun same => ?_)
                (fun agree => agree ⟨started, stale.imp_right .inl⟩)
              have marked : (commitTurn encoding store call eventId).2 =
                  conflictTurn store call.clientTurnId := by
                have refused : commitConversationTurn encoding store call
                    eventId = (.error versionConflict,
                      conflictTurn store call.clientTurnId) := by
                  simp [commitConversationTurn, found, terminal, started, stale]
                simp [commitTurn, isResponse, refused]
              have unmarked : (Postgres.commitConversationTurn server encoding
                  store call).2 = store := by
                simp [Postgres.commitConversationTurn, found, started, stale]
              rw [marked, unmarked] at same
              exact conflictTurn_ne found started same.2.symm
          · have refused : commitConversationTurn encoding store call eventId =
                (.error versionConflict, store) := by
              simp [commitConversationTurn, found, terminal, committed, started]
            simp [Postgres.commitConversationTurn, commitTurn, isResponse,
              refused, found, committed, started, Except.mapError]

theorem open?_outbox {book : ConversationBook} {owner : Owner}
    (opened : book.open? owner = some store) :
    store.outbox = book.outbox := by
  obtain ⟨_, _, _, rfl⟩ := open?_eq_some_iff.mp opened
  rfl

theorem create_agree_iff (book : ConversationBook) (call : NewConversation) :
    BackEndsAgree server encoding (book, book) (.create call) ↔
      ¬ BackEndsPart server encoding book (.create call) := by
  simp only [BackEndsAgree, BackEndsPart, Postgres.bookCall, bookCall,
    of_eq_same_iff conversation_injective, argumentsAccepted,
    Postgres.createConversation, createConversation]
  by_cases unnamed : call.owner.tenantId = "" ∨ call.owner.principalId = ""
  · rw [if_pos unnamed, if_pos unnamed]
    refine iff_of_true ⟨rfl, rfl⟩ (fun part => ?_)
    have named := part.1
    simp only [Bool.and_eq_true, bne_iff_ne, ne_eq] at named
    exact unnamed.elim named.1 named.2
  rw [if_neg unnamed, if_neg unnamed]
  have named : (call.owner.tenantId != "" && call.owner.principalId != "") =
      true := by
    simpa [not_or] using unnamed
  simp only [named, true_and]
  cases present : book.records call.owner.conversationId with
  | some =>
      cases server.storeRow call.row with
      | error refusal => cases refusal <;> simp [Except.mapError]
      | ok => simp [Except.mapError]
  | none =>
      cases written : server.storeRow call.row with
      | error refusal =>
          have unkept : ¬ Kept server call.row call.now := by
            intro kept
            simp only [Kept, Postgres.writtenThenRead, Postgres.writeRow,
              written, Except.mapError] at kept
            cases kept
          refine iff_of_false (fun same => ?_) (by simp [unkept])
          cases refusal <;> cases same.1
      | ok stored =>
          have kept := @written_agree_iff server call.row stored call.now
            (show Postgres.writeRow server call.row = .ok stored by
              rw [Postgres.writeRow, written]
              rfl)
          simp only [reduceCtorEq, false_or, true_and, not_not]
          rw [← kept]
          refine and_congr Iff.rfl ?_
          constructor
          · intro same
            have records := congrFun (congrArg ConversationBook.records same)
              call.owner.conversationId
            simpa using records
          · intro same
            rw [same]

theorem call_agree_iff {book : ConversationBook}
    (unsent : book.outbox = OutboxStore.empty) (action : BookAction) :
    BackEndsAgree server encoding (book, book) action ↔
      ¬ BackEndsPart server encoding book action := by
  cases action with
  | create call => exact create_agree_iff book call
  | get owner now includeTerminal =>
      simp only [BackEndsAgree, BackEndsPart, Postgres.bookCall, bookCall,
        argumentsAccepted, BookAction.owner, true_and]
      cases server.takes (.get owner now includeTerminal) with
      | false => simp
      | true =>
          cases book.open? owner with
          | none => simp
          | some store =>
              simp only [Bool.not_true, Bool.false_eq_true, if_false,
                of_eq_same_iff conversation_injective, putRow_eq_putRow_iff,
                Option.some.injEq, exists_eq_left', Bool.true_eq_false,
                false_or]
              exact get_agree_iff store.row now includeTerminal
  | update owner changes now ttlSeconds expectedVersion =>
      simp only [BackEndsAgree, BackEndsPart, Postgres.bookCall, bookCall,
        argumentsAccepted, BookAction.owner, true_and]
      cases server.takes
          (.update owner changes now ttlSeconds expectedVersion) with
      | false => simp
      | true =>
          cases book.open? owner with
          | none => simp
          | some store =>
              simp only [Bool.not_true, Bool.false_eq_true, if_false,
                of_eq_same_iff conversation_injective, putRow_eq_putRow_iff,
                Option.some.injEq, exists_eq_left', Bool.true_eq_false,
                false_or]
              exact update_agree_iff store.row changes now ttlSeconds
                expectedVersion
  | begin owner call =>
      simp only [BackEndsAgree, BackEndsPart, Postgres.bookCall, bookCall,
        argumentsAccepted, BookAction.owner]
      cases accepted : requestAccepted call with
      | error =>
          cases opened : book.open? owner with
          | none => simp [Except.isOk, Except.toBool]
          | some =>
              simp [beginConversationTurn, accepted, put_open opened,
                Except.isOk, Except.toBool]
      | ok =>
          cases server.takes (.begin owner call) with
          | false => simp [Except.isOk, Except.toBool]
          | true =>
              cases book.open? owner with
              | none => simp
              | some store =>
                  simp only [Bool.not_true, Bool.false_eq_true, if_false,
                    of_eq_same_iff turn_injective, put_eq_put_iff,
                    Option.some.injEq, exists_eq_left', Bool.true_eq_false,
                    false_or, Except.isOk, Except.toBool, true_and]
                  exact begin_agree_iff store owner accepted
  | commit owner call eventId =>
      simp only [BackEndsAgree, BackEndsPart, Postgres.bookCall, bookCall,
        argumentsAccepted, BookAction.owner]
      cases isResponse : isObject call.response with
      | false =>
          cases opened : book.open? owner with
          | none => simp
          | some => simp [commitTurn, isResponse, put_open opened]
      | true =>
          cases server.takes (.commit owner call eventId) with
          | false => simp
          | true =>
              cases opened : book.open? owner with
              | none => simp
              | some =>
                  simp only [Bool.not_true, Bool.false_eq_true, if_false,
                    of_eq_same_iff turn_injective, put_eq_put_iff,
                    Option.some.injEq, exists_eq_left', Bool.true_eq_false,
                    false_or, true_and]
                  exact commit_agree_iff isResponse
                    ((open?_outbox opened).trans unsent) owner eventId
  | close =>
      refine iff_of_false (fun same => ?_) (fun agree => agree trivial)
      have answer := same.1
      simp only [Postgres.bookCall] at answer
      split at answer
      · cases answer
      split at answer
      · cases answer
      split at answer <;> cases answer

theorem begin_outbox (store : ConversationStore) (call : TurnRequest) :
    (Postgres.beginConversationTurn server encoding store call).2.outbox =
      store.outbox := by
  unfold Postgres.beginConversationTurn
  split
  · rfl
  split
  · split <;> rfl
  split
  · rfl
  split
  · rfl
  split
  · rfl
  split <;> rfl

theorem postgres_outbox (book : ConversationBook) (action : BookAction) :
    (Postgres.bookCall server encoding book action).2.outbox = book.outbox := by
  cases action with
  | create =>
      simp only [Postgres.bookCall, Postgres.createConversation]
      split
      · rfl
      split
      · rfl
      · rfl
      split <;> rfl
  | get | update | close =>
      simp only [Postgres.bookCall]
      split
      · rfl
      split
      · rfl
      · rename_i opened
        exact open?_outbox opened
  | begin owner call =>
      simp only [Postgres.bookCall]
      split
      · rfl
      split
      · rfl
      split
      · rfl
      · rename_i opened
        exact (begin_outbox _ call).trans (open?_outbox opened)
  | commit owner call eventId =>
      simp only [Postgres.bookCall]
      split
      · rfl
      split
      · rfl
      split
      · rfl
      · rename_i opened
        exact (commit_outbox _ call).trans (open?_outbox opened)

end Calls

/-- In every sequence of calls of one client, the two repositories answer alike
and end with the same conversations, turns and events as long as no call parts
them. -/
theorem conversation_back_ends_agree_iff (server : Postgres.Server)
    (encoding : Encoding) (actions : List BookAction) :
    Along (bothStep server encoding) (BackEndsAgree server encoding)
        (ConversationBook.empty, ConversationBook.empty) actions ↔
      Along (bothStep server encoding)
        (fun books action => ¬ BackEndsPart server encoding books.1 action)
        (ConversationBook.empty, ConversationBook.empty) actions := by
  refine Along.iff_of_invariant
    (fun books => books.2 = books.1 ∧ books.1.outbox = OutboxStore.empty)
    ?_ ?_ ⟨rfl, rfl⟩ actions
  · rintro ⟨book, other⟩ action ⟨same, unsent⟩
    dsimp only at same unsent ⊢
    subst same
    exact call_agree_iff unsent action
  · rintro ⟨book, other⟩ action ⟨same, unsent⟩ apart
    dsimp only at same unsent apart
    subst same
    have sameLater := ((call_agree_iff unsent action).mpr apart).2
    refine ⟨sameLater, ?_⟩
    dsimp only [bothStep]
    rw [← sameLater, postgres_outbox]
    exact unsent

def plainServer : Postgres.Server where
  takes := fun _ => true
  storeRow := .ok
  storeTurn := .ok

/-- The commit of a turn appends its event in one database only. -/
theorem commit_event_missing :
    ¬ ∀ (server : Postgres.Server) (actions : List BookAction),
      Along (bothStep server plainEncoding) (BackEndsAgree server plainEncoding)
        (ConversationBook.empty, ConversationBook.empty) actions := by
  intro agree
  have committed := (agree plainServer
    [.create ⟨plainOwner, 0, 180, none⟩,
      .begin plainOwner ⟨"turn:1", 1, .dict [], 1, 180⟩,
      .commit plainOwner closingTurn "outbox:1"]).2.2.1.2
  have events := congrArg (fun book : ConversationBook =>
    book.outbox.events.rows.length) committed
  exact absurd events (by decide +kernel)

end AcpTask.Concierge
