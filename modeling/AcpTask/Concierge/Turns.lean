import AcpTask.Library.Run
import AcpTask.Concierge.Repository

namespace AcpTask.Concierge

open Data Library Outbox

/-! The repository's calls on one conversation, each run whole: a client that
waits for one answer before it asks for the next. -/

/-- `get_conversation`: the row it shows, and the row it leaves. -/
def getConversation (row : Conversation) (now : Int)
    (includeTerminal : Bool) : Option Conversation × Conversation :=
  let read := if row.lapsed now then row.expire now else row
  (if read.status.terminal && !includeTerminal then none else some read, read)

theorem getConversation_eq_some {row read : Conversation} {now : Int}
    (shown : (getConversation row now false).1 = some read) :
    getConversation row now false = (some row, row) ∧ now ≤ row.expiresAt := by
  unfold getConversation at shown ⊢
  cases lapsed : row.lapsed now with
  | true =>
      simp [lapsed, Conversation.expire, ConversationStatus.terminal] at shown
  | false =>
      cases terminal : row.status.terminal with
      | true => simp [lapsed, terminal] at shown
      | false =>
          refine ⟨by simp [terminal], ?_⟩
          simpa [Conversation.lapsed, terminal] using lapsed

theorem getConversation_of_live {row : Conversation} {now : Int}
    (live : row.status.terminal = false) (inTime : now ≤ row.expiresAt) :
    getConversation row now false = (some row, row) := by
  have lapsed : row.lapsed now = false := by
    simpa [Conversation.lapsed, live] using inTime
  simp [getConversation, lapsed, live]

def updateConversation (row : Conversation) (changes : Changes)
    (now ttlSeconds : Int) (expectedVersion : Option Int) :
    Except ConversationError (Option Conversation) × Conversation :=
  let read := getConversation row now false
  match updatePrepared read.1 changes now ttlSeconds expectedVersion with
  | .error error => (.error error, read.2)
  | .ok (current, revised) =>
      match compareAndSwap read.2 current.stateVersion revised with
      | .error error => (.error error, read.2)
      | .ok updated =>
          let shown := getConversation updated now false
          (.ok shown.1, shown.2)

/-- The `turn` object of a result. -/
structure TurnView where
  clientTurnId : String
  turnVersion : Nat
  baseStateVersion : Int
  status : TurnStatus
  requestHash : String
  responseHash : Option String

structure TurnResult where
  turn : TurnView
  conversation : Option Conversation
  response : Option Value
  duplicate : Bool

def Turn.view (turn : Turn) : TurnView where
  clientTurnId := turn.clientTurnId
  turnVersion := turn.turnVersion
  baseStateVersion := turn.baseStateVersion
  status := turn.status
  requestHash := turn.requestHash
  responseHash := turn.responseHash

def conversationTurnResult (turn : Turn) (conversation : Option Conversation)
    (duplicate : Bool) : TurnResult where
  turn := turn.view
  conversation := conversation
  response := turn.response
  duplicate := duplicate

def isObject : Value → Bool
  | .dict _ => true
  | _ => false

structure TurnRequest where
  clientTurnId : String
  expectedVersion : Int
  request : Value
  now : Int
  contentTtlSeconds : Int

/-- `COALESCE(MAX(turn_version), 0) + 1`. -/
def nextTurnVersion (turns : Table Turn Turn.clientTurnId) : Nat :=
  (turns.rows.map Turn.turnVersion).foldr max 0 + 1

def TurnRequest.row (call : TurnRequest) (encoding : Encoding)
    (turnVersion : Nat) : Turn where
  clientTurnId := call.clientTurnId
  turnVersion := turnVersion
  baseStateVersion := call.expectedVersion
  requestHash := encoding.sha256 call.request
  request := call.request
  contentExpiresAt := call.now + call.contentTtlSeconds
  createdAt := call.now

def requestAccepted (call : TurnRequest) : Except ConversationError Unit := do
  require (call.clientTurnId != "" && isObject call.request)
    (.valueError "client_turn_id and request object are required")
  require call.request.serializable .typeError

def turnInProgress : ConversationError :=
  .runtimeError "conversation turn already in progress"

def activeTurn (turns : Table Turn Turn.clientTurnId) (version : Int) : Bool :=
  turns.rows.any fun turn =>
    turn.baseStateVersion == version && turn.status == .started

def beginConversationTurn (encoding : Encoding) (store : ConversationStore)
    (call : TurnRequest) :
    Except ConversationError TurnResult × ConversationStore :=
  match requestAccepted call with
  | .error error => (.error error, store)
  | .ok () =>
      let read := getConversation store.row call.now false
      let store := { store with row := read.2 }
      match read.1 with
      | none => (.error conversationUnavailable, store)
      | some current =>
          match store.turns.find? call.clientTurnId with
          | some prior =>
              if prior.requestHash ≠ encoding.sha256 call.request then
                (.error (.valueError
                  "client turn id was used for a different request"), store)
              else (.ok (conversationTurnResult prior (some current) true),
                store)
          | none =>
              if (current.stateVersion : Int) ≠ call.expectedVersion then
                (.error versionConflict, store)
              else if activeTurn store.turns call.expectedVersion then
                (.error turnInProgress, store)
              else
                let turn := call.row encoding (nextTurnVersion store.turns)
                match store.turns.insert? turn with
                | none => (.error turnInProgress, store)
                | some turns =>
                    (.ok (conversationTurnResult turn (some current) false),
                      { store with turns })

/-- `commit_conversation_turn` around its transaction. -/
def commitTurn (encoding : Encoding) (store : ConversationStore)
    (commit : TurnCommit) (eventId : String) :
    Except ConversationError TurnResult × ConversationStore :=
  if !isObject commit.response then
    (.error (.valueError "turn changes and response must be objects"), store)
  else
    match commitConversationTurn encoding store commit eventId with
    | (.error error, later) => (.error error, later)
    | (.ok committed, later) =>
        match later.turns.find? commit.clientTurnId with
        | none => (.error (.keyError "conversation turn unavailable"), later)
        | some turn =>
            if committed then
              let read := getConversation later.row commit.now false
              (.ok (conversationTurnResult turn read.1 false),
                { later with row := read.2 })
            else
              (.ok (conversationTurnResult turn (some later.row) true), later)

/-- Whether a row was closed; nothing when the outcome event that follows cannot
be given the operation it is for. -/
def closeConversation (row : Conversation) (now : Int) :
    Option Bool × Conversation :=
  let read := getConversation row now false
  let closed := closeUpdate read.2 now
  let operation := (read.1.map fun current =>
    current.state.value .operation).getD .none
  (if closed.1 then (if bindable operation then some true else none)
    else some false, closed.2)

structure Owner where
  conversationId : String
  tenantId : String
  principalId : String

structure ConversationRecord where
  row : Conversation
  turns : Table Turn Turn.clientTurnId
  answers : Table ConciergeAnswer ConciergeAnswer.idempotencyKey

structure ConversationBook where
  records : String → Option ConversationRecord
  outbox : OutboxStore

def ConversationBook.empty : ConversationBook :=
  ⟨fun _ => none, OutboxStore.empty⟩

def Owner.owns (owner : Owner) (row : Conversation) : Bool :=
  row.conversationId == owner.conversationId &&
    row.tenantId == owner.tenantId && row.principalId == owner.principalId

namespace ConversationBook

def open? (book : ConversationBook) (owner : Owner) :
    Option ConversationStore :=
  ((book.records owner.conversationId).filter fun record =>
    owner.owns record.row).map fun record =>
      ⟨record.row, record.turns, record.answers, book.outbox⟩

def put (book : ConversationBook) (owner : Owner) (store : ConversationStore) :
    ConversationBook where
  records := Function.update book.records owner.conversationId
    (some ⟨store.row, store.turns, store.answers⟩)
  outbox := store.outbox

def putRow (book : ConversationBook) (owner : Owner)
    (store : ConversationStore) (row : Conversation) : ConversationBook :=
  book.put owner { store with row }

end ConversationBook

structure NewConversation where
  owner : Owner
  now : Int
  ttlSeconds : Int
  locale : Option String

def NewConversation.row (call : NewConversation) : Conversation where
  conversationId := call.owner.conversationId
  tenantId := call.owner.tenantId
  principalId := call.owner.principalId
  status := .interpreting
  state := fun field =>
    match field, call.locale with
    | .locale, some locale => if locale = "" then none else some (.str locale)
    | _, _ => none
  stateVersion := 1
  workflowRunId := none
  workflowRevisionId := none
  presentation := none
  presentationHash := none
  createdAt := call.now
  updatedAt := call.now
  expiresAt := call.now + call.ttlSeconds
  contentExpiresAt := call.now + call.ttlSeconds
  closedAt := none

inductive BookAction where
  | create (call : NewConversation)
  | get (owner : Owner) (now : Int) (includeTerminal : Bool)
  | update (owner : Owner) (changes : Changes) (now ttlSeconds : Int)
      (expectedVersion : Option Int)
  | begin (owner : Owner) (call : TurnRequest)
  | commit (owner : Owner) (call : TurnCommit) (eventId : String)
  | close (owner : Owner) (now : Int)

inductive BookAnswer where
  | conversation (result : Except ConversationError (Option Conversation))
  | turn (result : Except ConversationError TurnResult)
  | closed (result : Option Bool)

def createConversation (book : ConversationBook) (call : NewConversation) :
    Except ConversationError (Option Conversation) × ConversationBook :=
  if call.owner.tenantId = "" ∨ call.owner.principalId = "" then
    (.error (.valueError "tenant_id and principal_id are required"), book)
  else match book.records call.owner.conversationId with
    | some _ => (.error .integrityError, book)
    | none =>
        let read := getConversation call.row call.now false
        (.ok read.1, {
          book with
          records := Function.update book.records call.owner.conversationId
            (some ⟨read.2, Table.empty, Table.empty⟩) })

def bookCall (encoding : Encoding) (book : ConversationBook) :
    BookAction → BookAnswer × ConversationBook
  | .create call =>
      let created := createConversation book call
      (.conversation created.1, created.2)
  | .get owner now includeTerminal =>
      match book.open? owner with
      | none => (.conversation (.ok none), book)
      | some store =>
          let read := getConversation store.row now includeTerminal
          (.conversation (.ok read.1), book.putRow owner store read.2)
  | .update owner changes now ttlSeconds expectedVersion =>
      match book.open? owner with
      | none => (.conversation (.error conversationUnavailable), book)
      | some store =>
          let updated :=
            updateConversation store.row changes now ttlSeconds expectedVersion
          (.conversation updated.1, book.putRow owner store updated.2)
  | .begin owner call =>
      match book.open? owner with
      | none =>
          (.turn (match requestAccepted call with
            | .error error => .error error
            | .ok () => .error conversationUnavailable), book)
      | some store =>
          let begun := beginConversationTurn encoding store call
          (.turn begun.1, book.put owner begun.2)
  | .commit owner call eventId =>
      match book.open? owner with
      | none =>
          (.turn (.error (if isObject call.response then
            .keyError "conversation turn unavailable"
          else .valueError "turn changes and response must be objects")), book)
      | some store =>
          let committed := commitTurn encoding store call eventId
          (.turn committed.1, book.put owner committed.2)
  | .close owner now =>
      match book.open? owner with
      | none => (.closed (some false), book)
      | some store =>
          let closed := closeConversation store.row now
          (.closed closed.1, book.putRow owner store closed.2)

end AcpTask.Concierge
