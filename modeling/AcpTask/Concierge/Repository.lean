import Mathlib.Data.Fintype.Basic
import AcpTask.Outbox.Repository

namespace AcpTask.Concierge

open Data Library Outbox Workflow

variable (encoding : Encoding) (store : ConversationStore)

/-! One owner's Concierge conversation: its row, its turns and its answers, and
the statements that read and write them.  A value is what `json.loads` gives
back for the stored text, so the items of a dict stand in the order of their
keys. -/

inductive ConversationStatus where
  | interpreting
  | resolving
  | needsInput
  | retrieving
  | answering
  | ready
  | awaitingApproval
  | executing
  | succeeded
  | retryableFailure
  | unknownOutcome
  | cancelled
  | expired
  | closed
  deriving DecidableEq

def ConversationStatus.terminal : ConversationStatus → Bool
  | .closed | .expired => true
  | _ => false

/-- The member of `CONVERSATION_STATUSES` that a value is. -/
def conversationStatus? : Value → Option ConversationStatus
  | .str "interpreting" => some .interpreting
  | .str "resolving" => some .resolving
  | .str "needs_input" => some .needsInput
  | .str "retrieving" => some .retrieving
  | .str "answering" => some .answering
  | .str "ready" => some .ready
  | .str "awaiting_approval" => some .awaitingApproval
  | .str "executing" => some .executing
  | .str "succeeded" => some .succeeded
  | .str "retryable_failure" => some .retryableFailure
  | .str "unknown_outcome" => some .unknownOutcome
  | .str "cancelled" => some .cancelled
  | .str "expired" => some .expired
  | .str "closed" => some .closed
  | _ => none

/-- `CONVERSATION_STATE_FIELDS`. -/
inductive StateField where
  | locale
  | operation
  | operationCandidates
  | activeConnection
  | activeChannel
  | activePerson
  | activeThread
  | activeMessage
  | activeFile
  | activeReaction
  | readPeriod
  | pendingDraft
  | effectCandidates
  | knownInputs
  | slotState
  | corrections
  | dependencies
  | blockers
  | entityRefs
  | blockingNeed
  | resolutionRequest
  | readProgress
  | effectGroup
  deriving DecidableEq

def StateField.all : List StateField :=
  [.locale, .operation, .operationCandidates, .activeConnection, .activeChannel,
    .activePerson, .activeThread, .activeMessage, .activeFile, .activeReaction,
    .readPeriod, .pendingDraft, .effectCandidates, .knownInputs, .slotState,
    .corrections, .dependencies, .blockers, .entityRefs, .blockingNeed,
    .resolutionRequest, .readProgress, .effectGroup]

instance : Fintype StateField :=
  Fintype.ofList StateField.all fun field => by cases field <;> decide

/-- The object in `state_json`; a field it lacks is `none`. -/
abbrev ConversationState := StateField → Option Value

/-- `conversation.get(field)`. -/
def ConversationState.value (state : ConversationState) (field : StateField) :
    Value :=
  (state field).getD .none

/-- The fields that are not `None`. -/
def ConversationState.present (state : ConversationState) :
    ConversationState := fun field =>
  match state field with
  | some .none => none
  | stored => stored

theorem ConversationState.value_present (state : ConversationState)
    (field : StateField) : state.present.value field = state.value field := by
  unfold ConversationState.value ConversationState.present
  cases state field with
  | none => rfl
  | some value => cases value <;> rfl

/-- `json.dumps` accepts the object. -/
def ConversationState.serializable (state : ConversationState) : Bool :=
  decide (∀ field, (state.value field).serializable = true)

structure Conversation where
  conversationId : String
  tenantId : String
  principalId : String
  status : ConversationStatus
  state : ConversationState
  stateVersion : Nat
  workflowRunId : Option String
  workflowRevisionId : Option String
  presentation : Option Value
  presentationHash : Option String
  createdAt : Int
  updatedAt : Int
  expiresAt : Int
  contentExpiresAt : Int
  closedAt : Option Int

inductive TurnStatus where
  | started
  | committed
  | conflicted
  | failed
  deriving DecidableEq

structure Turn where
  clientTurnId : String
  turnVersion : Nat
  baseStateVersion : Int
  requestHash : String
  request : Value
  status : TurnStatus := .started
  responseHash : Option String := none
  response : Option Value := none
  contentExpiresAt : Int
  createdAt : Int
  committedAt : Option Int := none

structure ConciergeAnswer where
  idempotencyKey : String
  fieldName : String
  answerHash : String
  workflowRunId : Option String
  workflowRevisionId : Option String
  appliedAt : Int

structure ConversationStore where
  row : Conversation
  turns : Table Turn Turn.clientTurnId
  answers : Table ConciergeAnswer ConciergeAnswer.idempotencyKey
  outbox : OutboxStore

inductive ConversationError where
  | keyError (message : String)
  | runtimeError (message : String)
  | valueError (message : String)
  | typeError
  | integrityError
  | outbox (error : WorkflowError)

def conversationUnavailable : ConversationError :=
  .keyError "conversation unavailable"

def versionConflict : ConversationError :=
  .runtimeError "conversation version conflict"

/-! `get_conversation`. -/

def Conversation.lapsed (row : Conversation) (now : Int) : Bool :=
  !row.status.terminal && decide (row.expiresAt < now)

/-- What the expiry `UPDATE` makes of a row. -/
def Conversation.expire (row : Conversation) (now : Int) : Conversation :=
  { row with
    status := .expired, state := fun _ => none, presentation := none
    closedAt := some now, updatedAt := now }

def Conversation.shown (row : Conversation) : Option Conversation :=
  if row.status.terminal then none else some row

/-! `update_conversation` and `commit_conversation_turn`. -/

/-- A `changes` object, its keys checked: a field that is not in it is `none`,
and one set to `None` is there with that value. -/
structure Changes where
  status : Option Value := none
  workflowRunId : Option (Option String) := none
  workflowRevisionId : Option (Option String) := none
  fields : ConversationState := fun _ => none

def Changes.applyTo (changes : Changes) (state : ConversationState) :
    ConversationState := fun field =>
  match changes.fields field with
  | none => state.present field
  | some .none => none
  | some value => some value

/-- What an `UPDATE` that bumps the version assigns. -/
structure Revised where
  status : ConversationStatus
  state : ConversationState
  workflowRunId : Option String
  workflowRevisionId : Option String
  updatedAt : Int
  expiresAt : Int

def Revised.assign (revised : Revised) (row : Conversation) : Conversation :=
  { row with
    status := revised.status, state := revised.state
    workflowRunId := revised.workflowRunId
    workflowRevisionId := revised.workflowRevisionId
    updatedAt := revised.updatedAt, expiresAt := revised.expiresAt
    contentExpiresAt := revised.expiresAt
    stateVersion := row.stateVersion + 1 }

def Changes.revise (changes : Changes) (current : Conversation)
    (now ttlSeconds : Int) : Except ConversationError Revised :=
  let requested := match changes.status with
    | none => some current.status
    | some value => conversationStatus? value
  match requested with
  | none => .error (.valueError "invalid conversation status")
  | some status => do
      let state := changes.applyTo current.state
      require state.serializable .typeError
      pure {
        status, state
        workflowRunId := changes.workflowRunId.getD current.workflowRunId
        workflowRevisionId :=
          changes.workflowRevisionId.getD current.workflowRevisionId
        updatedAt := now
        expiresAt := now + ttlSeconds }

/-- `update_conversation` between its read and its `UPDATE`. -/
def updatePrepared (current : Option Conversation) (changes : Changes)
    (now ttlSeconds : Int) (expectedVersion : Option Int) :
    Except ConversationError (Conversation × Revised) :=
  match current with
  | none => .error conversationUnavailable
  | some current => do
      require (expectedVersion.all fun version =>
        version == (current.stateVersion : Int)) versionConflict
      let revised ← changes.revise current now ttlSeconds
      pure (current, revised)

/-- The `UPDATE … WHERE … AND state_version = ?`. -/
def compareAndSwap (row : Conversation) (version : Int) (revised : Revised) :
    Except ConversationError Conversation :=
  if (row.stateVersion : Int) = version then .ok (revised.assign row)
  else .error versionConflict

def blockingNeedAccepted (state : ConversationState) : Bool :=
  match state .blockingNeed with
  | none | some (.dict _) => true
  | some _ => false

structure TurnCommit where
  clientTurnId : String
  expectedVersion : Int
  changes : Changes
  response : Value
  now : Int
  ttlSeconds : Int

/-- `json.dumps` and the SHA-256 of what it writes. -/
structure Encoding extends Json where
  sha256 : Value → String

def commitEvent (commit : TurnCommit) (turn : Turn) : Value :=
  .dict [
    ("client_turn_id", .str commit.clientTurnId),
    ("request_hash", .str turn.requestHash),
    ("response_hash", .str (encoding.sha256 commit.response)),
    ("state_version", .int (commit.expectedVersion + 1))]

def conflictTurn (clientTurnId : String) : ConversationStore :=
  { store with
    turns := store.turns.updateWhere
      (fun turn => turn.clientTurnId == clientTurnId)
      (fun turn => { turn with status := .conflicted })
      (fun _ => by rfl) }

/-- The transaction of `commit_conversation_turn`; its answer is whether the
turn was committed by this call.  A conflict is committed before it is
raised. -/
def commitConversationTurn (commit : TurnCommit) (eventId : String) :
    Except ConversationError Bool × ConversationStore :=
  match store.turns.find? commit.clientTurnId with
  | none => (.error (.keyError "conversation turn unavailable"), store)
  | some turn =>
      if store.row.status.terminal then (.error conversationUnavailable, store)
      else if turn.status = .committed then (.ok false, store)
      else if turn.status ≠ .started then (.error versionConflict, store)
      else if turn.baseStateVersion ≠ commit.expectedVersion ∨
          (store.row.stateVersion : Int) ≠ commit.expectedVersion then
        (.error versionConflict, conflictTurn store commit.clientTurnId)
      else transaction store fun store => do
        require (blockingNeedAccepted (commit.changes.applyTo store.row.state))
          (.valueError "blocking_need must be one object")
        let revised ← commit.changes.revise store.row commit.now
          commit.ttlSeconds
        let row ← compareAndSwap store.row commit.expectedVersion revised
        require commit.response.serializable .typeError
        match appendOutboxEvent encoding.toJson store.outbox
            ⟨row.tenantId, "conversation", row.conversationId⟩
            "conversation.turn_committed" (commitEvent encoding commit turn)
            ("conversation-turn:" ++ row.conversationId ++ ":" ++
              commit.clientTurnId) eventId commit.now 5 none with
        | (.error error, _) => throw (.outbox error)
        | (.ok _, outbox) =>
            pure (true, {
              store with
              row, outbox
              turns := store.turns.updateWhere
                (fun turn => turn.clientTurnId == commit.clientTurnId &&
                  turn.status == .started)
                (fun turn => { turn with
                  status := .committed
                  responseHash := some (encoding.sha256 commit.response)
                  response := some commit.response
                  committedAt := some commit.now })
                (fun _ => by rfl) })

/-! `apply_conversation_answer`. -/

def entityField? : String → Option StateField
  | "locale" => some .locale
  | "operation" => some .operation
  | "active_connection" => some .activeConnection
  | "active_channel" => some .activeChannel
  | "active_person" => some .activePerson
  | "active_thread" => some .activeThread
  | "read_period" => some .readPeriod
  | "pending_draft" => some .pendingDraft
  | _ => none

def StateField.answerKeeps : StateField → Bool
  | .locale | .operation | .activeConnection | .activeChannel | .activePerson
  | .activeThread | .readPeriod | .pendingDraft | .knownInputs => true
  | _ => false

structure AnswerCall where
  idempotencyKey : String
  fieldName : String
  value : Value
  now : Int
  workflowRunId : Option String
  workflowRevisionId : Option String

/-- One item of what `dict(…)` is given when it is not a mapping: two values,
the first of them a string. -/
def pairItem? : Value → Option (String × Value)
  | .list [.str key, value] => some (key, value)
  | .str text =>
      match text.toList with
      | [key, value] => some (key.toString, .str value.toString)
      | _ => none
  | _ => none

/-- `dict(value or {})`; no item when it raises, or when a key is left that
`json.dumps` cannot sort beside a string. -/
def asDict? (value : Value) : Option (List (String × Value)) :=
  match value.orEmpty with
  | .dict items => some items
  | .list items => (items.mapM pairItem?).map fun pairs =>
      pairs.foldl (fun built item => Value.insertItem built item.1 item.2) []
  | _ => none

/-- `isinstance(need, dict) and need.get("field") == field_name`. -/
def needsField (need : Value) (fieldName : String) : Bool :=
  match need with
  | .dict items => Value.lookup items "field" == .str fieldName
  | _ => false

def answeredState (state : ConversationState) (call : AnswerCall) :
    Except ConversationError ConversationState :=
  let kept : ConversationState := fun field =>
    if field.answerKeeps then state.present field else none
  match entityField? call.fieldName with
  | some entity => .ok (Function.update kept entity (some call.value))
  | none =>
      match asDict? (state.value .knownInputs) with
      | none => .error .typeError
      | some known => .ok (Function.update kept .knownInputs
          (some (.dict (Value.insertItem known call.fieldName call.value))))

structure Answered where
  answer : ConciergeAnswer
  state : ConversationState

def answerArguments (call : AnswerCall) : Except ConversationError Unit := do
  require (call.idempotencyKey != "" && call.fieldName != "")
    (.valueError "idempotency_key and field_name are required")
  require call.value.serializable .typeError

def answerPrepared (current : Option Conversation) (call : AnswerCall) :
    Except ConversationError (Option Answered) :=
  match current with
  | none => .error conversationUnavailable
  | some current =>
      match store.answers.find? call.idempotencyKey with
      | some prior => do
          require (prior.fieldName == call.fieldName &&
              prior.answerHash == encoding.sha256 call.value)
            (.valueError "idempotency key was used for a different answer")
          pure none
      | none => do
          require (needsField (current.state.value .blockingNeed)
              call.fieldName)
            (.valueError "answer does not match the active blocking need")
          let state ← answeredState current.state call
          pure (some {
            state
            answer := {
              idempotencyKey := call.idempotencyKey
              fieldName := call.fieldName
              answerHash := encoding.sha256 call.value
              workflowRunId := call.workflowRunId
              workflowRevisionId := call.workflowRevisionId
              appliedAt := call.now } })

def Answered.assign (answered : Answered) (row : Conversation) :
    Conversation :=
  { row with
    status := .interpreting, state := answered.state
    workflowRunId := answered.answer.workflowRunId.or row.workflowRunId
    workflowRevisionId :=
      answered.answer.workflowRevisionId.or row.workflowRevisionId
    updatedAt := answered.answer.appliedAt }

/-- The answer's transaction: its key is new, and its row is written whatever
version the conversation has. -/
def answerTransaction (answered : Answered) :
    Except ConversationError Unit × ConversationStore :=
  match store.answers.insert? answered.answer with
  | none => (.error .integrityError, store)
  | some answers =>
      (.ok (), { store with answers, row := answered.assign store.row })

/-! `close_conversation`. -/

def bindable : Value → Bool
  | .none | .bool _ | .float _ | .str _ => true
  | .int value => decide (-2 ^ 63 ≤ value ∧ value < 2 ^ 63)
  | _ => false

def Conversation.close (row : Conversation) (now : Int) : Conversation :=
  { row with
    status := .closed, state := fun _ => none, presentation := none
    closedAt := some now, updatedAt := now }

/-- True when the `UPDATE` found the row live. -/
def closeUpdate (row : Conversation) (now : Int) : Bool × Conversation :=
  if row.status.terminal then (false, row) else (true, row.close now)

end AcpTask.Concierge
