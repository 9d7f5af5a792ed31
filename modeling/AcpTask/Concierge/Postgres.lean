import AcpTask.Concierge.Turns

namespace AcpTask.Concierge

open Library

namespace Postgres

/-! The conversation calls of `PostgresWorkflowRepository`, each one transaction
after another. -/

inductive Refusal where
  /-- A value that the driver or the column does not take. -/
  | dataError
  | integrityError

inductive Failure where
  | raised (error : ConversationError)
  | dataError

def Refusal.failure : Refusal → Failure
  | .dataError => .dataError
  | .integrityError => .raised .integrityError

/-- What the database makes of the values sent to it: whether a call's first
`SELECT` is taken, and the row that a write leaves, its references checked. -/
structure Server where
  takes : BookAction → Bool
  storeRow : Conversation → Except Refusal Conversation
  storeTurn : Turn → Except Refusal Turn

section Calls

variable (server : Server)

def writeRow (row : Conversation) : Except Failure Conversation :=
  (server.storeRow row).mapError Refusal.failure

def writeTurn (turn : Turn) : Except Failure Turn :=
  (server.storeTurn turn).mapError Refusal.failure

def getConversation (row : Conversation) (now : Int)
    (includeTerminal : Bool) :
    Except Failure (Option Conversation) × Conversation :=
  if row.lapsed now then
    match writeRow server (row.expire now) with
    | .error failure => (.error failure, row)
    | .ok expired =>
        (.ok (if expired.status.terminal && !includeTerminal then none
          else some expired), expired)
  else (.ok (if row.status.terminal && !includeTerminal then none
    else some row), row)

/-- `status not in ('closed','expired') and expires_at >= now`. -/
def live (row : Conversation) (now : Int) : Option Conversation :=
  if row.status.terminal || decide (row.expiresAt < now) then none else some row

/-- `get_conversation` after a write, which stays whatever the read does. -/
def writtenThenRead (row : Conversation) (now : Int) :
    Except Failure (Option Conversation × Conversation) :=
  match writeRow server row with
  | .error failure => .error failure
  | .ok stored =>
      let read := getConversation server stored now false
      read.1.map fun shown => (shown, read.2)

def updateConversation (row : Conversation) (changes : Changes)
    (now ttlSeconds : Int) (expectedVersion : Option Int) :
    Except Failure (Option Conversation) × Conversation :=
  match updatePrepared (live row now) changes now ttlSeconds
      expectedVersion with
  | .error error => (.error (.raised error), row)
  | .ok (current, revised) =>
      match compareAndSwap row current.stateVersion revised with
      | .error error => (.error (.raised error), row)
      | .ok updated =>
          match writeRow server updated with
          | .error failure => (.error failure, row)
          | .ok stored => getConversation server stored now false

/-- `concierge_turns_one_active_base` allows one turn of a version. -/
def beginConversationTurn (encoding : Encoding) (store : ConversationStore)
    (call : TurnRequest) : Except Failure TurnResult × ConversationStore :=
  match live store.row call.now with
  | none => (.error (.raised conversationUnavailable), store)
  | some current =>
      match store.turns.find? call.clientTurnId with
      | some prior =>
          if prior.requestHash ≠ encoding.sha256 call.request then
            (.error (.raised (.valueError
              "client turn id was used for a different request")), store)
          else (.ok (conversationTurnResult prior (some current) true), store)
      | none =>
          if (current.stateVersion : Int) ≠ call.expectedVersion then
            (.error (.raised versionConflict), store)
          else
            match writeTurn server
                (call.row encoding (nextTurnVersion store.turns)) with
            | .error failure => (.error failure, store)
            | .ok stored =>
                if activeTurn store.turns call.expectedVersion then
                  (.error (.raised .integrityError), store)
                else match store.turns.insert? stored with
                  | none => (.error (.raised .integrityError), store)
                  | some turns =>
                      (.ok (conversationTurnResult stored (some current)
                        false), { store with turns })

/-- The row that a commit's `UPDATE` assigns. -/
def commitRow (row : Conversation) (commit : TurnCommit) :
    Except ConversationError Conversation := do
  require (blockingNeedAccepted (commit.changes.applyTo row.state))
    (.valueError "blocking_need must be one object")
  let revised ← commit.changes.revise row commit.now commit.ttlSeconds
  compareAndSwap row commit.expectedVersion revised

def commitStarted (encoding : Encoding) (store : ConversationStore)
    (commit : TurnCommit) (turn : Turn) :
    Except Failure (Turn × ConversationStore) := do
  let updated ← (commitRow store.row commit).mapError .raised
  let row ← writeRow server updated
  require commit.response.serializable (.raised .typeError)
  let stored ← writeTurn server { turn with
    status := .committed
    responseHash := some (encoding.sha256 commit.response)
    response := some commit.response
    committedAt := some commit.now }
  pure (stored, {
    store with
    row
    turns := store.turns.updateWhere
      (fun other => other.clientTurnId == commit.clientTurnId &&
        other.status == .started)
      (fun other => { stored with clientTurnId := other.clientTurnId })
      (fun _ => by rfl) })

/-- A conversation may be closed or expired, the mark of a conflict is rolled
back by the exception that reports it, and no event is appended. -/
def commitConversationTurn (encoding : Encoding) (store : ConversationStore)
    (commit : TurnCommit) : Except Failure TurnResult × ConversationStore :=
  match store.turns.find? commit.clientTurnId with
  | none =>
      (.error (.raised (.keyError "conversation turn unavailable")), store)
  | some turn =>
      if turn.status = .committed then
        (.ok (conversationTurnResult turn (some store.row) true), store)
      else if turn.status ≠ .started ∨
          turn.baseStateVersion ≠ commit.expectedVersion ∨
          (store.row.stateVersion : Int) ≠ commit.expectedVersion then
        (.error (.raised versionConflict), store)
      else match commitStarted server encoding store commit turn with
        | .error failure => (.error failure, store)
        | .ok (stored, later) =>
            let read := getConversation server later.row commit.now false
            (read.1.map fun shown => conversationTurnResult stored shown false,
              { later with row := read.2 })

end Calls

/-- The answer of a call: SQLite's, an error of the database's own, or that the
class has no `_lock`. -/
inductive Answer where
  | same (answer : BookAnswer)
  | dataError
  | attributeError

def Answer.of {Value : Type}
    (render : Except ConversationError Value → BookAnswer) :
    Except Failure Value → Answer
  | .ok value => .same (render (.ok value))
  | .error (.raised error) => .same (render (.error error))
  | .error .dataError => .dataError

def createConversation (server : Server) (book : ConversationBook)
    (call : NewConversation) :
    Except Failure (Option Conversation) × ConversationBook :=
  if call.owner.tenantId = "" ∨ call.owner.principalId = "" then
    (.error (.raised
      (.valueError "tenant_id and principal_id are required")), book)
  else match server.storeRow call.row with
    | .error .dataError => (.error .dataError, book)
    | .error .integrityError => (.error (.raised .integrityError), book)
    | .ok stored =>
        match book.records call.owner.conversationId with
        | some _ => (.error (.raised .integrityError), book)
        | none =>
            let read := getConversation server stored call.now false
            (read.1, {
              book with
              records := Function.update book.records call.owner.conversationId
                (some ⟨read.2, Table.empty, Table.empty⟩) })

def bookCall (server : Server) (encoding : Encoding)
    (book : ConversationBook) (action : BookAction) :
    Answer × ConversationBook :=
  match action with
  | .create call =>
      let created := createConversation server book call
      (.of .conversation created.1, created.2)
  | .get owner now includeTerminal =>
      if !server.takes action then (.dataError, book)
      else match book.open? owner with
        | none => (.same (.conversation (.ok none)), book)
        | some store =>
            let read := getConversation server store.row now includeTerminal
            (.of .conversation read.1, book.putRow owner store read.2)
  | .update owner changes now ttlSeconds expectedVersion =>
      if !server.takes action then (.dataError, book)
      else match book.open? owner with
        | none => (.same (.conversation (.error conversationUnavailable)), book)
        | some store =>
            let updated := updateConversation server store.row changes now
              ttlSeconds expectedVersion
            (.of .conversation updated.1, book.putRow owner store updated.2)
  | .begin owner call =>
      match requestAccepted call with
      | .error error => (.same (.turn (.error error)), book)
      | .ok () =>
          if !server.takes action then (.dataError, book)
          else match book.open? owner with
            | none => (.same (.turn (.error conversationUnavailable)), book)
            | some store =>
                let begun := beginConversationTurn server encoding store call
                (.of .turn begun.1, book.put owner begun.2)
  | .commit owner call _ =>
      if !isObject call.response then
        (.same (.turn (.error
          (.valueError "turn changes and response must be objects"))), book)
      else if !server.takes action then (.dataError, book)
      else match book.open? owner with
        | none => (.same (.turn (.error
            (.keyError "conversation turn unavailable"))), book)
        | some store =>
            let committed := commitConversationTurn server encoding store call
            (.of .turn committed.1, book.put owner committed.2)
  | .close owner now =>
      if !server.takes action then (.dataError, book)
      else match book.open? owner with
        | none => (.attributeError, book)
        | some store =>
            let read := getConversation server store.row now false
            (match read.1 with
              | .ok _ => .attributeError
              | .error _ => .dataError, book.putRow owner store read.2)

end Postgres

end AcpTask.Concierge
