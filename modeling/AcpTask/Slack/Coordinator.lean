import AcpTask.Concierge.Resolver
import AcpTask.Slack.Reads

namespace AcpTask.Slack

open Concierge Data Library

variable (library : StandardLibrary)

/-! The coordinator of Slack turns.  A turn names its targets as a person does;
they are looked up in the projections of the workspace, and what the turn leaves
open is taken from the conversation.  The turn is the one read from the text,
offline or by the model. -/

abbrev Row := List (String × Value)

structure SlackTurn where
  operation : String
  locale : String
  channelName : Option String := none
  personName : Option String := none
  messageText : Option String := none
  refersToActiveTarget : Bool := false
  periodDays : Option Int := none
  deriving DecidableEq

inductive TurnState where
  | completed
  | needsInput
  | cancelled
  | resolving
  deriving DecidableEq

/-- `resolved` and, apart from it, its item `"message_text"`. -/
structure SlackTurnResult where
  state : TurnState
  turn : SlackTurn
  resolved : ConversationState := fun _ => none
  messageText : Option String := none
  need : Option Value := none
  message : Option String := none

/-- A call of the coordinator, and whether the service goes on to store its
result: it does not where a feature is disabled. -/
structure TurnCall where
  text : String
  turn : SlackTurn
  installations : List Row
  channels : List Row
  users : List Row
  stored : Bool := true

abbrev TurnStage := Stage ServiceError SlackTurnResult

/-- `items[key]`. -/
def itemOf (items : Row) (key : String) : Except ServiceError Value :=
  match Value.get? items key with
  | some value => .ok value
  | none => .error (.keyError key)

inductive Named where
  | channel
  | person

def Named.field : Named → StateField
  | .channel => .activeChannel
  | .person => .activePerson

def Named.asked : Named → String
  | .channel => "channel"
  | .person => "person"

def SlackTurn.name? (turn : SlackTurn) : Named → Option String
  | .channel => turn.channelName.filter fun name => name != ""
  | .person => turn.personName.filter fun name => name != ""

def TurnCall.rows (call : TurnCall) : Named → List Row
  | .channel => call.channels
  | .person => call.users

def Named.fits (name : String) (row : Row) :
    Named → Bool
  | .channel =>
      normalizeName library (Value.lookup row "name") ==
          normalizeName library (.str name) &&
        Value.lookup row "is_archived" != .bool true &&
        Value.lookup row "is_private" != .bool true &&
        Value.lookup row "is_ext_shared" != .bool true
  | .person => ["display_name", "real_name", "handle"].any fun key =>
      normalizeName library (Value.lookup row key) ==
        normalizeName library (.str name)

def personKeys : List String :=
  ["id", "display_name", "real_name", "handle", "image_url"]

def Named.entity : Named → Row → Except ServiceError Value
  | .channel, row => do
      let id ← itemOf row "id"
      let name ← itemOf row "name"
      pure (.dict [("id", id), ("name", name)])
  | .person, row => .ok (.dict (Value.select row personKeys))

def teamLabel (row : Row) : Value :=
  (Value.lookup row "team_name").orElse (Value.lookup row "team_id")

def connectionRef (row : Row) : Except ServiceError Value := do
  let id ← itemOf row "connection_id"
  pure (.dict [("id", id), ("label", teamLabel row)])

/-! `_need`. -/

def question? : String → String → Option String
  | "es", "operation" => some "¿Qué quieres hacer en Slack?"
  | "es", "workspace" => some "¿Qué espacio de trabajo de Slack quieres usar?"
  | "es", "channel" => some "¿En qué canal público de Slack?"
  | "es", "person" => some "¿Qué persona de Slack?"
  | "es", "thread" => some "¿En qué hilo quieres responder?"
  | "es", "message_text" => some "¿Qué mensaje quieres enviar?"
  | "en", "operation" => some "What would you like to do in Slack?"
  | "en", "workspace" => some "Which Slack workspace should I use?"
  | "en", "channel" => some "Which public Slack channel?"
  | "en", "person" => some "Which Slack person?"
  | "en", "thread" => some "Which thread should I reply to?"
  | "en", "message_text" => some "What message would you like to send?"
  | _, _ => none

def optionKeys : List String :=
  ["connection_id", "team_name", "team_id", "id", "name", "display_name",
    "real_name", "handle", "image_url"]

def needValue (field question : String) (candidates : List Row) : Value :=
  .dict [
    ("kind", .str (if candidates.isEmpty then "missing" else "selection")),
    ("field", .str field), ("question", .str question),
    ("options", .list (candidates.map fun row =>
      .dict (Value.select row optionKeys)))]

def needInput (turn : SlackTurn) (resolved : ConversationState)
    (field : String) (candidates : List Row) :
    Except ServiceError SlackTurnResult :=
  match question? turn.locale field with
  | none => .error (.keyError turn.locale)
  | some question => .ok {
      state := .needsInput, turn, resolved
      need := some (needValue field question candidates) }

/-! `_answer_blocking_need`. -/

def answeringTurn (active : ConversationState) (parsed : SlackTurn)
    (messageText : Option String) : Except ServiceError SlackTurn :=
  match (active.value .operation).orElse (.str parsed.operation),
      (active.value .locale).orElse (.str parsed.locale) with
  | .str operation, .str locale =>
      .ok { operation, locale, messageText, refersToActiveTarget := true }
  | _, _ => .error (.valueError "validation error for SlackTurn")

def mentions (normalized : String) (row : Row) (keys : List String) : Bool :=
  keys.any fun key =>
    let name := normalizeName library (Value.lookup row key)
    name != "" && decide (name.toList <:+: normalized.toList)

def labelKeys : List String :=
  ["connection_id", "team_name", "team_id", "id", "name", "display_name",
    "real_name", "handle"]

/-- The option that the answer means: the one whose identifier it says, or else
the one it says anything of. -/
def chosenOption (value : String) (options : List Row) : Option Row :=
  let normalized := normalizeName library (.str (String.ofList
    (value.toList.map fun character =>
      if character = '·' then ' ' else character)))
  match options.filter fun row => mentions library normalized row
      ["connection_id", "team_id", "id", "handle"] with
  | [selected] => some selected
  | _ =>
      match options.filter fun row =>
          mentions library normalized row labelKeys with
      | [selected] => some selected
      | _ => none

def nothingResolved : ConversationState := fun _ => none

def answeredWith (field : Value) (selected : Row) :
    Except ServiceError ConversationState :=
  if field.isText "workspace" then do
    let connection ← connectionRef selected
    pure (Function.update nothingResolved .activeConnection (some connection))
  else
    let named : Named := if field.isText "channel" then .channel else .person
    do
      let entity ← named.entity selected
      pure (Function.update nothingResolved named.field (some entity))

def messageAnswer (text : String) (parsed : SlackTurn) : String :=
  match parsed.messageText with
  | none => library.strip text
  | some message =>
      if library.strip message = "" then library.strip text
      else library.strip message

def answerBySelection (text : String) (parsed : SlackTurn)
    (active : ConversationState) (field : Value) (options : List Row) :
    Except ServiceError (SlackTurn × ConversationState) :=
  match chosenOption library (library.strip text) options with
  | none => .ok (parsed, nothingResolved)
  | some selected => do
      let answered ← answeredWith field selected
      let turn ← answeringTurn active parsed none
      pure (turn, answered)

/-- The items of a stored option; `option.get` raises for anything else. -/
def optionItems (option : Value) : Except ServiceError Row :=
  match asItems? option with
  | some items => .ok items
  | none => .error .attributeError

def answerBlockingNeed (text : String) (parsed : SlackTurn)
    (active : ConversationState) (need : Row) :
    Except ServiceError (SlackTurn × ConversationState) :=
  let field := Value.lookup need "field"
  match (Value.lookup need "options").listOr? with
  | none => .error .typeError
  | some options =>
      if field.isText "message_text" then
        let message := messageAnswer library text parsed
        if message = "" then .ok (parsed, nothingResolved)
        else do
          let turn ← answeringTurn active parsed (some message)
          pure (turn, nothingResolved)
      else if field.isText "operation" && parsed.operation != "unsupported" &&
          parsed.operation != "clarify" then .ok (parsed, nothingResolved)
      else do
        require field.hashable .typeError
        if (["workspace", "channel", "person"].any field.isText) &&
            !options.isEmpty then
          let rows ← options.mapM optionItems
          answerBySelection library text parsed active field rows
        else pure (parsed, nothingResolved)

/-! The stages of `coordinate`. -/

def carriedFields : List StateField :=
  [.activeConnection, .activeChannel, .activePerson, .activeThread,
    .activeMessage, .activeFile, .activeReaction, .readPeriod, .pendingDraft]

def carriedOver (active : ConversationState) : ConversationState :=
  fun field => if field ∈ carriedFields then active.present field else none

def withPendingText (turn : SlackTurn) (resolved : ConversationState) :
    Except ServiceError SlackTurn :=
  match turn.messageText with
  | some _ => .ok turn
  | none =>
      match (resolved.value .pendingDraft).orEmpty.item? "text" with
      | none => .error .attributeError
      | some (.str text) =>
          .ok (if text = "" then turn else { turn with messageText := text })
      | some _ => .ok turn

def isConnected (row : Row) : Bool :=
  (Value.lookup row "status").isText "connected"

def TurnCall.usable (call : TurnCall) : List Row :=
  call.installations.filter isConnected

def statusMessage (locale : String) (usable : List Row) :
    Except ServiceError String :=
  if usable.isEmpty then
    .ok (if locale = "es" then "No. Slack no está conectado."
      else "No. Slack is not connected.")
  else
    match ((usable.map teamLabel).filter Value.truthy).mapM Value.asStr? with
    | none => .error .typeError
    | some labels =>
        let workspace := String.intercalate ", " labels
        .ok (if locale = "es" then
          "Sí. Tengo acceso a Slack" ++
            (if workspace = "" then "."
              else " mediante el workspace " ++ workspace ++ ".")
        else
          "Yes. I have access to Slack" ++
            (if workspace = "" then "."
              else " through the " ++ workspace ++ " workspace."))

def statusResult (turn : SlackTurn) (usable : List Row) :
    Except ServiceError SlackTurnResult := do
  let message ← statusMessage turn.locale usable
  pure { state := .completed, turn, message := some message }

/-- The pending need is answered, and what the answer resolves comes over what
was carried. -/
def withAnswer (active : ConversationState) (text : String) (turn : SlackTurn) :
    Except ServiceError (SlackTurn × ConversationState) :=
  match active.value .blockingNeed with
  | .dict need => do
      let answered ← answerBlockingNeed library text turn active need
      pure (answered.1,
        fun field => (answered.2 field).or (carriedOver active field))
  | _ => .ok (turn, carriedOver active)

def stillUsable (connection : Value) (usable : List Row) :
    Except ServiceError Bool :=
  if usable.isEmpty then .ok false
  else match connection.item? "id" with
    | none => .error .attributeError
    | some id => .ok (usable.any fun row =>
        (Value.lookup row "connection_id").equals id)

def selectConnection (turn : SlackTurn) (resolved : ConversationState)
    (usable : List Row) : TurnStage ConversationState :=
  match usable with
  | [selected] => do
      let connection ← raising (connectionRef selected)
      pure (Function.update resolved .activeConnection (some connection))
  | _ => returning (needInput turn
      (Function.update resolved .activeConnection none) "workspace" usable)

def connect (turn : SlackTurn) (resolved : ConversationState)
    (usable : List Row) : TurnStage ConversationState :=
  match resolved .activeConnection with
  | none => selectConnection turn resolved usable
  | some connection =>
      if connection.truthy then do
        let kept ← raising (stillUsable connection usable)
        if kept then pure resolved else selectConnection turn resolved usable
      else pure resolved

def ground (call : TurnCall) (turn : SlackTurn) (named : Named)
    (resolved : ConversationState) : TurnStage ConversationState :=
  match turn.name? named with
  | none => pure resolved
  | some name =>
      match (call.rows named).filter fun row => named.fits library name row with
      | [selected] => do
          let entity ← raising (named.entity selected)
          pure (Function.update resolved named.field (some entity))
      | candidates => returning (needInput turn resolved named.asked candidates)

def missingField? (turn : SlackTurn) (resolved : ConversationState) :
    Option String :=
  let spoken := turn.messageText.any fun text => text != ""
  if ["read", "summarize", "post"].contains turn.operation &&
      (resolved .activeChannel).isNone then some "channel"
  else if turn.operation = "dm" && (resolved .activePerson).isNone then
    some "person"
  else if turn.operation = "reply" && (resolved .activeThread).isNone then
    some "thread"
  else if ["post", "reply", "dm"].contains turn.operation && !spoken then
    some "message_text"
  else none

def withPeriod (turn : SlackTurn) (resolved : ConversationState) :
    ConversationState :=
  match turn.periodDays.filter fun days => days != 0, resolved .readPeriod with
  | some days, none => Function.update resolved .readPeriod
      (some (.dict [("days", .int days), ("defaulted", .bool true)]))
  | _, _ => resolved

def resolvingResult (turn : SlackTurn) (resolved : ConversationState) :
    SlackTurnResult where
  state := .resolving
  turn := turn
  resolved := withPeriod turn resolved
  messageText := turn.messageText.filter fun text => text != ""

def groundedTurn (call : TurnCall) (turn : SlackTurn)
    (resolved : ConversationState) : TurnStage SlackTurnResult := do
  let connected ← connect turn resolved call.usable
  let withChannel ← ground library call turn .channel connected
  let withPerson ← ground library call turn .person withChannel
  match missingField? turn withPerson with
  | some field => returning (needInput turn withPerson field [])
  | none => pure (resolvingResult turn withPerson)

def turnStages (active : ConversationState) (call : TurnCall) :
    TurnStage SlackTurnResult := do
  let parsed ← raising (withPendingText call.turn (carriedOver active))
  if parsed.operation = "status" then
    returning (statusResult parsed call.usable)
  else
    let answered ← raising (withAnswer library active call.text parsed)
    let turn := answered.1
    if turn.operation = "unsupported" then
      returning (needInput turn answered.2 "operation" [])
    else if turn.operation = "cancel" then
      pure { state := .cancelled, turn }
    else groundedTurn library call turn answered.2

def coordinate (active : ConversationState) (call : TurnCall) :
    Except ServiceError SlackTurnResult :=
  finished (turnStages library active call)

def turnFields (result : SlackTurnResult) : ConversationState
  | .operation => some (.str result.turn.operation)
  | .locale => some (.str result.turn.locale)
  | .blockingNeed => some .none
  | field => if field ∈ carriedFields then result.resolved field else none

/-- The two updates of `coordinate_slack_turn`: of the turn, and of its need. -/
def keepTurn (active : ConversationState) (result : SlackTurnResult) :
    ConversationState :=
  let updated := Changes.applyTo { fields := turnFields result } active
  match result.need with
  | none => updated
  | some need => Changes.applyTo { fields := fun
      | .blockingNeed => some need
      | _ => none } updated

def turnStep (active : ConversationState) (call : TurnCall) :
    Except ServiceError SlackTurnResult × ConversationState :=
  match coordinate library active call with
  | .error error => (.error error, active)
  | .ok result =>
      (.ok result, if call.stored then keepTurn active result else active)

end AcpTask.Slack
