import AcpTask.Data.Json
import AcpTask.Library.Items
import AcpTask.Library.Table
import AcpTask.Library.Transaction

namespace AcpTask.Collaboration

open Data Library

variable (setting : Setting) (store : TaskStore)

abbrev Fields := List (String × Value)

inductive TaskStatus where
  | active
  | waiting
  | waitingPermission
  | waitingConfirmation
  | agentUnavailable
  | expired
  deriving DecidableEq

structure TaskState where
  taskId : String
  conversationId : String
  agentId : String
  capability : String
  status : TaskStatus
  knownInputs : Fields
  unresolvedNeeds : List Fields
  permissions : Fields
  answers : Fields
  preferences : Fields
  proposal : Fields
  continuationReceipts : List (String × Fields)
  createdAt : Int
  updatedAt : Int
  expiresAt : Int

abbrev TaskStore := Table TaskState TaskState.taskId

inductive StateError where
  | valueError (message : String)
  | keyError (message : String)
  | timeoutError (message : String)
  | protocolValidationError (message : String)
  | typeError
  | integrityError

structure Protocol where
  statuses : List String
  needsInput : String
  needsPermission : String
  needsApproval : String
  progress : String
  continuation : String

structure Setting where
  protocol : Protocol
  timeoutSeconds : Int
  sha256 : String → String
  /-- `str(value)`. -/
  str : Value → String

/-- `fields.update(incoming)`. -/
def update (fields incoming : Fields) : Fields :=
  Items.assignAll fields incoming

/-- `json.dumps(state)` raises nothing. -/
def TaskState.serializable (state : TaskState) : Bool :=
  Value.dictSerializable state.knownInputs &&
    state.unresolvedNeeds.all Value.dictSerializable &&
    Value.dictSerializable state.permissions &&
    Value.dictSerializable state.answers &&
    Value.dictSerializable state.preferences &&
    Value.dictSerializable state.proposal &&
    state.continuationReceipts.all fun receipt =>
      Value.dictSerializable receipt.2

def write (state : TaskState) : TaskStore :=
  store.updateWhere (fun row => decide (row.taskId = state.taskId))
    (fun row => { state with taskId := row.taskId }) (fun _ => rfl)

def save (state : TaskState) (now : Int) : Except StateError TaskStore :=
  if state.serializable then .ok (write store { state with updatedAt := now })
  else .error .typeError

def insert (state : TaskState) : Except StateError TaskStore :=
  if !state.serializable then .error .typeError
  else if store.rows.any fun row =>
      decide (row.conversationId = state.conversationId) then
    .error .integrityError
  else match store.insert? state with
    | some store => .ok store
    | none => .error .integrityError

/-- `_expire_if_needed`: whether the task is expired. -/
def expireIfNeeded (state : TaskState) (now : Int) : Bool × TaskStore :=
  if state.status ≠ .expired ∧ state.expiresAt < now then
    (true, write store { state with
      status := .expired, unresolvedNeeds := [], updatedAt := now })
  else (decide (state.status = .expired), store)

def active (taskId : String) (now : Int) :
    Except StateError TaskState × TaskStore :=
  match store.find? taskId with
  | none => (.error (.keyError "unknown task"), store)
  | some state =>
      let expired := expireIfNeeded store state now
      if expired.1 then
        (.error (.timeoutError "task conversation expired"), expired.2)
      else (.ok state, expired.2)

def getTask (taskId : String) (includeExpired : Bool) (now : Int) :
    Option TaskState × TaskStore :=
  match store.find? taskId with
  | none => (none, store)
  | some state =>
      let expired := expireIfNeeded store state now
      if expired.1 then
        (if includeExpired then expired.2.find? taskId else none, expired.2)
      else (some state, expired.2)

structure Context where
  knownInputs : Fields := []
  permissions : Fields := []
  answers : Fields := []
  preferences : Fields := []

def createTask (taskId agentId capability : String)
    (conversationId : Option String) (context : Context) (now : Int) :
    Except StateError (Option TaskState) × TaskStore :=
  if taskId = "" ∨ agentId = "" ∨ capability = "" then
    (.error (.valueError "task_id, agent_id and capability are required"),
      store)
  else
    let conversation :=
      (conversationId.filter fun text => text != "").getD taskId
    match store.find? taskId with
    | some current =>
        let expired := expireIfNeeded store current now
        if expired.1 then
          (.error (.timeoutError "task conversation expired"), expired.2)
        else if current.agentId ≠ agentId ∨ current.capability ≠ capability ∨
            current.conversationId ≠ conversation then
          (.error (.valueError ("an existing task cannot change agent, " ++
            "capability, or conversation")), expired.2)
        else
          match save expired.2 { current with
              knownInputs := update current.knownInputs context.knownInputs
              permissions := update current.permissions context.permissions
              answers := update current.answers context.answers
              preferences := update current.preferences context.preferences
              status := .active
              expiresAt := now + setting.timeoutSeconds } now with
          | .error error => (.error error, expired.2)
          | .ok saved =>
              let read := getTask saved taskId false now
              (.ok read.1, read.2)
    | none =>
        match insert store {
            taskId, conversationId := conversation, agentId, capability
            status := .active
            knownInputs := context.knownInputs
            unresolvedNeeds := []
            permissions := context.permissions
            answers := context.answers
            preferences := context.preferences
            proposal := []
            continuationReceipts := []
            createdAt := now, updatedAt := now
            expiresAt := now + setting.timeoutSeconds } with
        | .error error => (.error error, store)
        | .ok inserted =>
            let read := getTask inserted taskId false now
            (.ok read.1, read.2)

def nonEmptyText (value : Value) : Bool :=
  match value with
  | .str text => text != ""
  | _ => false

def isDict : Value → Bool
  | .dict _ => true
  | _ => false

def isNonEmptyList : Value → Bool
  | .list items => !items.isEmpty
  | _ => false

def validateCollaborationEnvelope (protocol : Protocol) (envelope : Value) :
    Except StateError Fields := do
  let fields ← match envelope with
    | .dict fields => pure fields
    | _ => .error (.protocolValidationError "unknown collaboration status")
  let status := Value.lookup fields "type"
  require status.hashable .typeError
  let text ← match status with
    | .str text => pure text
    | _ => .error (.protocolValidationError "unknown collaboration status")
  require (protocol.statuses.contains text)
    (.protocolValidationError "unknown collaboration status")
  ["task_id", "conversation_id", "reason"].forM fun field =>
    require (nonEmptyText (Value.lookup fields field))
      (.protocolValidationError (field ++ " is required"))
  require (match (Value.get? fields "blocking").getD (.bool true) with
      | .bool _ => true
      | _ => false)
    (.protocolValidationError "blocking must be boolean")
  if text = protocol.needsInput then do
    require (isNonEmptyList (Value.lookup fields "missing_fields"))
      (.protocolValidationError "missing_fields is required")
    require (isDict (Value.lookup fields "input_schema"))
      (.protocolValidationError "input_schema is required")
  else if text = protocol.needsPermission then
    require (nonEmptyText (Value.lookup fields "permission"))
      (.protocolValidationError "permission is required")
  else if text = protocol.needsApproval then
    require (isDict (Value.lookup fields "proposal"))
      (.protocolValidationError "proposal is required")
  else if text = protocol.progress then
    require (match (Value.lookup fields "progress").number? with
        | some progress => decide (0 ≤ progress) && decide (progress ≤ 1)
        | none => false)
      (.protocolValidationError "progress must be between 0 and 1")
  pure fields

def assertNeedIdentity (state : TaskState) (need : Fields) :
    Except StateError Unit :=
  match Value.get? need "task_id" with
  | none => .error (.keyError "task_id")
  | some taskId =>
      if !taskId.isText state.taskId then
        .error (.valueError "need does not belong to this task conversation")
      else match Value.get? need "conversation_id" with
        | none => .error (.keyError "conversation_id")
        | some conversationId =>
            require (conversationId.isText state.conversationId) (.valueError
              "need does not belong to this task conversation")

def recordNeed (taskId : String) (need : Value) (now : Int) :
    Except StateError (Option TaskState) × TaskStore :=
  match validateCollaborationEnvelope setting.protocol need with
  | .error error => (.error error, store)
  | .ok fields =>
      match active store taskId now with
      | (.error error, store) => (.error error, store)
      | (.ok state, store) =>
          match assertNeedIdentity state fields with
          | .error error => (.error error, store)
          | .ok _ =>
              match save store { state with
                  unresolvedNeeds := [fields], status := .waiting } now with
              | .error error => (.error error, store)
              | .ok saved =>
                  let read := getTask saved taskId false now
                  (.ok read.1, read.2)

def fieldLabel (field : String) : String :=
  match field with
  | "contact" => "contacto"
  | "duration" => "duración"
  | "start_time" => "hora de inicio"
  | "time" => "hora"
  | field => field.replace "_" " "

def permissionLabel (permission : String) : String :=
  match permission with
  | "contacts.read" => "tus contactos"
  | "profile.read" => "tu perfil"
  | "provider.read" => "los datos de tu proveedor"
  | permission => permission.replace "." " "

/-- `text.rstrip("?")`. -/
def withoutMarks (text : String) : String :=
  String.ofList (text.toList.reverse.dropWhile fun character =>
    character == '?').reverse

/-- `_question_for`; nothing when the options cannot be gone through. -/
def questionFor (field : String) (options : Value) : Option String :=
  let values := match options with
    | .dict items => Value.lookup items field
    | .list items => .list items
    | _ => .none
  if values.truthy then
    values.iterate?.map fun choices =>
      "¿Qué " ++ fieldLabel field ++ " prefieres: " ++
        " o ".intercalate (choices.map setting.str) ++ "?"
  else some ("¿Qué " ++ fieldLabel field ++ " prefieres?")

/-- What the fields of a need resolve to: all of them gone through, or one whose
recommended value waits to be confirmed. -/
inductive Resolution where
  | through (resolved : Fields) (unresolved : List String)
  | unconfirmed (resolved : Fields) (unresolved : List String)
      (field : String) (recommended : Value)

/-- `recommended[field]`, where there is one. -/
def recommendedFor? (recommended : Value) (field : String) : Option Value :=
  match recommended with
  | .dict items => Value.get? items field
  | _ => none

/-- The loop over the missing fields; the sources stand in their order of
precedence. -/
def resolveFields (sources : List Fields) (recommended : Value)
    (confirmations resolved : Fields) (unresolved : List String) :
    List String → Resolution
  | [] => .through resolved unresolved
  | field :: rest =>
      match sources.findSome? fun source => Value.get? source field,
          recommendedFor? recommended field with
      | some value, _ =>
          resolveFields sources recommended confirmations
            (Items.assign field value resolved) unresolved rest
      | none, some value =>
          if Value.get? confirmations field = some (.bool true) then
            resolveFields sources recommended confirmations
              (Items.assign field value resolved) unresolved rest
          else .unconfirmed resolved (unresolved ++ [field]) field value
      | none, none =>
          resolveFields sources recommended confirmations resolved
            (unresolved ++ [field]) rest

def fieldNames? : Value → Option (List String)
  | .list items => items.mapM Value.asStr?
  | _ => none

def saved (state : TaskState) (now : Int) (answer : Except StateError Fields) :
    Except StateError Fields × TaskStore :=
  match save store state now with
  | .error error => (.error error, store)
  | .ok later => (answer, later)

def pending (state : TaskState) (need resolved : Fields)
    (unresolved : List String) (status : TaskStatus) : TaskState :=
  { state with
    knownInputs := update state.knownInputs resolved
    unresolvedNeeds := [Items.assign "missing_fields"
      (.list (unresolved.map .str)) need]
    status }

/-- What the caller of `resolve_need` hands over. -/
structure Sources where
  conversation : Fields := []
  authorizedData : Fields := []
  preferences : Fields := []
  confirmations : Fields := []

def resolvePermission (state : TaskState) (need : Fields) (now : Int) :
    Except StateError Fields × TaskStore :=
  match (Value.get? need "permission").bind Value.asStr?,
      (Value.get? need "reason").bind Value.asStr? with
  | some permission, some reason =>
      if Value.get? state.permissions permission = some (.bool true) then
        saved store { state with unresolvedNeeds := [], status := .active } now
          (.ok [("status", .str "resolved"),
            ("resolved_fields", .dict [("permission", .str permission)])])
      else
        saved store { state with status := .waitingPermission } now
          (.ok [("status", .str "needs_permission"),
            ("question", .str ("¿Me autorizas a usar " ++
              permissionLabel permission ++ " para " ++
              withoutMarks reason ++ "?"))])
  | _, _ => (.error .typeError, store)

def resolveApproval (state : TaskState) (need : Fields) (confirmations : Fields)
    (now : Int) : Except StateError Fields × TaskStore :=
  match Value.lookup need "proposal" with
  | .dict proposal =>
      if Value.get? confirmations "approved" = some (.bool true) then
        saved store { state with
            proposal, unresolvedNeeds := [], status := .active } now
          (.ok [("status", .str "resolved"),
            ("resolved_fields", .dict [("approved", .bool true)])])
      else
        saved store { state with
            proposal, status := .waitingConfirmation } now
          (.ok [("status", .str "needs_confirmation"),
            ("question", .str "¿Confirmas esta propuesta?"),
            ("proposal", .dict proposal)])
  | _ => (.error .typeError, store)

def resolveInput (state : TaskState) (need : Fields) (sources : Sources)
    (now : Int) : Except StateError Fields × TaskStore :=
  match Value.get? need "missing_fields" with
  | none => (.error (.keyError "missing_fields"), store)
  | some missing =>
      match fieldNames? missing with
      | none => (.error .typeError, store)
      | some fields =>
          match resolveFields [sources.conversation, state.knownInputs,
              sources.authorizedData, state.preferences]
              (Value.lookup need "recommended_default")
              sources.confirmations [] [] fields with
          | .unconfirmed resolved unresolved field recommended =>
              saved store (pending state need resolved unresolved
                  .waitingConfirmation) now
                (.ok [("status", .str "needs_confirmation"),
                  ("resolved_fields", .dict resolved),
                  ("question", .str ("¿Confirmas una " ++ fieldLabel field ++
                    " de " ++ setting.str recommended ++ "?"))])
          | .through resolved [] =>
              saved store { state with
                  knownInputs := update state.knownInputs resolved
                  unresolvedNeeds := [], status := .active } now
                (.ok [("status", .str "resolved"),
                  ("resolved_fields", .dict resolved)])
          | .through resolved (field :: others) =>
              saved store (pending state need resolved (field :: others)
                  .waiting) now
                (match questionFor setting field
                    (Value.lookup need "options") with
                  | none => .error .typeError
                  | some question =>
                      .ok [("status", .str "needs_input"),
                        ("resolved_fields", .dict resolved),
                        ("unresolved_fields",
                          .list ((field :: others).map .str)),
                        ("question", .str question)])

def resolveNeed (taskId : String) (need : Value) (sources : Sources)
    (now : Int) : Except StateError Fields × TaskStore :=
  match validateCollaborationEnvelope setting.protocol need with
  | .error error => (.error error, store)
  | .ok fields =>
      match active store taskId now with
      | (.error error, store) => (.error error, store)
      | (.ok state, store) =>
          match assertNeedIdentity state fields with
          | .error error => (.error error, store)
          | .ok _ =>
              let asked := { state with
                unresolvedNeeds := [fields]
                preferences := update state.preferences sources.preferences }
              let status := Value.lookup fields "type"
              if status.isText setting.protocol.needsPermission then
                resolvePermission store asked fields now
              else if status.isText setting.protocol.needsApproval then
                resolveApproval store asked fields sources.confirmations now
              else resolveInput setting store asked fields sources now

def answerDigest (taskId conversationId : String)
    (resolvedFields permissions : Fields) : Option String :=
  (Value.dumps (.dict [("task_id", .str taskId),
    ("conversation_id", .str conversationId),
    ("resolved_fields", .dict resolvedFields),
    ("permissions", .dict permissions)])).map setting.sha256

def continuationEnvelope (state : TaskState)
    (resolvedFields permissions : Fields) (digest : String) : Fields :=
  [("type", .str setting.protocol.continuation),
    ("task_id", .str state.taskId),
    ("conversation_id", .str state.conversationId),
    ("resolved_fields", .dict resolvedFields),
    ("idempotency_key", .str digest)] ++
  if permissions = [] then [] else [("permissions", .dict permissions)]

/-- What `continue_task` comes to before it would call the sender. -/
inductive Beginning where
  | rejected (error : StateError)
  | repeated (digest : String) (receipt : Fields)
  | sending (agentId : String) (envelope : Fields) (digest : String)

def beginContinuation (taskId : String) (resolvedFields permissions : Fields)
    (now : Int) : Beginning × TaskStore :=
  if resolvedFields = [] then
    (.rejected (.valueError "resolved_fields must be a non-empty object"),
      store)
  else match active store taskId now with
    | (.error error, store) => (.rejected error, store)
    | (.ok state, store) =>
        let answered := { state with
          answers := update state.answers resolvedFields
          knownInputs := update state.knownInputs resolvedFields
          proposal := update state.proposal resolvedFields
          permissions := update state.permissions permissions }
        match answerDigest setting taskId state.conversationId resolvedFields
            permissions with
        | none => (.rejected .typeError, store)
        | some digest =>
            match Items.get? state.continuationReceipts digest with
            | some prior => (.repeated digest prior, store)
            | none =>
                match save store answered now with
                | .error error => (.rejected error, store)
                | .ok store =>
                    (.sending state.agentId (continuationEnvelope setting
                      answered resolvedFields permissions digest) digest, store)

inductive Sent where
  | raised
  | returned (response : Value)

/-- `str(response.get("type", "")).startswith("task.needs_")`. -/
def needOf? (response : Value) : Option Fields :=
  match response with
  | .dict fields =>
      match Value.get? fields "type" with
      | some (.str text) =>
          if "task.needs_".toList.isPrefixOf text.toList then some fields
          else none
      | _ => none
  | _ => none

def continued (state : TaskState) (response : Value) : Fields :=
  [("status", .str "continued"),
    ("task_id", .str state.taskId),
    ("conversation_id", .str state.conversationId),
    ("agent_id", .str state.agentId),
    ("response", response)]

/-- What `continue_task` does with what the sender came back with. -/
def endContinuation (taskId digest : String) (sent : Sent) (now : Int) :
    Except StateError Fields × TaskStore :=
  match active store taskId now, sent with
  | (.error error, store), _ => (.error error, store)
  | (.ok state, store), .raised =>
      saved store { state with status := .agentUnavailable } now
        (.ok [("status", .str "agent_unavailable"),
          ("message", .str ("No pude continuar con el agente seleccionado. " ++
            "Puedes intentarlo de nuevo."))])
  | (.ok state, store), .returned response =>
      let result := continued state response
      let received := { state with
        continuationReceipts :=
          Items.assign digest result state.continuationReceipts
        unresolvedNeeds := []
        status := .active }
      match needOf? response with
      | none => saved store received now (.ok result)
      | some need =>
          match assertNeedIdentity received need with
          | .error error => (.error error, store)
          | .ok _ =>
              saved store { received with
                unresolvedNeeds := [need], status := .waiting } now (.ok result)

def continueTask (taskId : String) (resolvedFields permissions : Fields)
    (now : Int) (sent : Sent) (later : Int) :
    Except StateError Fields × TaskStore :=
  match beginContinuation setting store taskId resolvedFields permissions
      now with
  | (.rejected error, store) => (.error error, store)
  | (.repeated _ receipt, store) => (.ok receipt, store)
  | (.sending _ _ digest, store) =>
      endContinuation store taskId digest sent later

end AcpTask.Collaboration
