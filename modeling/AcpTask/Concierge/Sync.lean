import AcpTask.Concierge.Outcome
import AcpTask.Concierge.Resolver

namespace AcpTask.Concierge

open Data Workflow

variable (library : StandardLibrary)

/-! `sync_conversation_workflow_outcome`: what a finished workflow makes of the
conversation it is linked to.  `none` is an exception. -/

/-- The first value of a key that is not `None`, with where it stands. -/
def firstItem? (key : String) : List Value → Option (Option (Value × Value))
  | [] => some none
  | output :: outputs => do
      let value ← output.item? key
      match value with
      | .none => firstItem? key outputs
      | value => pure (some (output, value))

def channelName? : Value → Option String
  | .dict items =>
      let name := Value.lookup items "name"
      if name.truthy then some ("#" ++ library.str name) else none
  | _ => none

def channelAnswer (locale operation : Value) (names : List String) : String :=
  let hidden := operation.isText "list_private_channels"
  let kindEs := if hidden then "privados" else "públicos"
  let kindEn := if hidden then "private" else "public"
  if names.isEmpty then
    if locale.isText "es" then "No encontré canales " ++ kindEs ++ "."
    else "I found no " ++ kindEn ++ " channels."
  else
    (if locale.isText "es" then
      "Tienes " ++ toString names.length ++ " canales " ++ kindEs ++ ": "
    else "You have " ++ toString names.length ++ " " ++ kindEn ++
      " channels: ") ++ String.intercalate ", " names

structure Listing where
  names : List String
  incomplete : Bool

def channelListing? (outputs : List Value) : Option (Option Listing) := do
  match ← firstItem? "channels" outputs.reverse with
  | none => pure none
  | some (_, channels) =>
      let listed ← channels.listOr?
      let source ← firstItem? "channels" outputs
      let incomplete ← match source with
        | none => pure (.bool false)
        | some (output, _) => output.item? "partial"
      pure (some {
        names := listed.filterMap (channelName? library)
        incomplete := incomplete.truthy })

def Listing.presentation (listing : Listing) (locale operation : Value) :
    Value :=
  .dict [
    ("answer", .str (channelAnswer locale operation listing.names)),
    ("citations", .list []),
    ("partial", .bool listing.incomplete)]

/-- The permalinks the steps have fetched, under the timestamps of their
messages. -/
def stepLink? (step : Step) : Option (Option (Value × Value)) := do
  let permalink ← (stepOutput step).item? "permalink"
  if permalink.truthy then
    let ts ← (stepInput step).item? "message_ts"
    if !ts.truthy then pure none
    else if ts.hashable then pure (some (ts, permalink))
    else none
  else pure none

def readStep? (steps : List Step) : Option (Option Step) :=
  match steps with
  | [] => some none
  | step :: steps => do
      match ← (stepOutput step).item? "messages" with
      | .none => readStep? steps
      | _ => pure (some step)

structure Fetched where
  output : Value
  input : Value
  directory : Value

def fetched? (steps : List Step) : Option Fetched := do
  let step ← readStep? steps.reverse
  let users ← firstItem? "users" (steps.map stepOutput)
  pure {
    output := match step with
      | none => .dict []
      | some step => stepOutput step
    input := match step with
      | none => .dict []
      | some step => stepInput step
    directory := match users with
      | none => .none
      | some (_, users) => users }

inductive ReadBranch where
  | listed (presentation : Value)
  | linked (presented : Presented)
  | awaiting (progress : Value)
  | continuing (progress : Value)
  | finished (presented : Presented)

def pageBranch? (view : View) (fetched : Fetched) : Option ReadBranch := do
  let progress := view.readProgress.orEmpty
  let prior ← prior? library progress
  let page ← readPage? view fetched.output fetched.input
  let linksDispatched ← progress.item? "links_dispatched"
  let read := accumulate prior page
  if !read.continues && !read.messages.isEmpty && !linksDispatched.truthy then
    pure (.awaiting (read.awaitingLinks fetched.directory))
  else if read.continues then pure (.continuing read.state)
  else
    let presented ← presentSlackEvidence? library read.messages
      (read.cursor.truthy || read.budgetExhausted) fetched.input view.locale
      fetched.directory
    pure (.finished presented)

def readBranch? (view : View) (steps : List Step) : Option ReadBranch := do
  match ← channelListing? library (steps.map stepOutput) with
  | some listing =>
      pure (.listed (listing.presentation view.locale view.operation))
  | none =>
      let links ← steps.mapM stepLink?
      match links.filterMap id with
      | [] =>
          let fetched ← fetched? steps
          pageBranch? library view fetched
      | links => do
          let presented ← presentLinkedSlackRead? library view links
          pure (.linked presented)

def readProgressField (progress : Value) : ConversationState
  | .readProgress => some progress
  | _ => none

def ReadBranch.projected : ReadBranch → Projected
  | .listed presentation => {
      status := .ready, presentation := some presentation }
  | .linked presented => {
      status := .ready, fields := readProgressField .none
      presentation := some presented.value }
  | .awaiting progress => {
      status := .retrieving, fields := readProgressField progress }
  | .continuing progress => {
      status := .retrieving, fields := readProgressField progress }
  | .finished presented => {
      status := .ready, fields := readProgressField .none
      presentation := some presented.value }

def messageSent (locale : Value) : Value :=
  .dict [
    ("answer", .str (if locale.isText "es" then "Mensaje enviado"
      else "Message sent")),
    ("citations", .list []),
    ("locale", locale),
    ("partial", .bool false)]

def writtenProjected (locale : Value) : Projected where
  status := .succeeded
  fields := fun
    | .pendingDraft => some .none
    | _ => none
  presentation := some (messageSent locale)

def onlyEffect (steps : List Step) (effect : StepEffect) : Bool :=
  !steps.isEmpty && steps.all fun step => step.effect == effect

structure OutcomeEvent where
  eventType : String
  operationFamily : Value
  createdAt : Int

structure SyncStore where
  row : Conversation
  runs : ResolverRuns
  outcomeEvents : List OutcomeEvent

def syncTtlSeconds : Int := 180

/-- `store_conversation_presentation` and `update_conversation`, one after the
other on a row that was just read.  What is written came out of JSON text and
the status is a known one, so neither raises. -/
def Projected.write (hash : Value → String) (projected : Projected)
    (row : Conversation) (now : Int) : Conversation :=
  let shown := match projected.presentation with
    | none => row
    | some presentation => { row with
        presentation := some presentation
        presentationHash := some (hash presentation) }
  Revised.assign {
    status := projected.status
    state := ({ fields := projected.fields } : Changes).applyTo row.state
    workflowRunId := row.workflowRunId
    workflowRevisionId := row.workflowRevisionId
    updatedAt := now
    expiresAt := now + syncTtlSeconds } shown

/-- What a complete outcome projects, and the resolver runs and outcome events
it leaves. -/
def completeProjected (store : SyncStore) (steps : List Step)
    (tenantId : String) (now : Int) : Option Projected × SyncStore :=
  let view := View.of store.row.state
  match resolverStep steps, view.resolutionRequest.truthy with
  | some step, true =>
      let (projected, runs) := resolve library store.runs tenantId
        view.resolutionRequest step now
      (projected, { store with runs })
  | _, _ =>
      if onlyEffect steps .read then
        if bindable view.operation then
          ((readBranch? library view steps).map ReadBranch.projected,
            { store with
              outcomeEvents := store.outcomeEvents ++
                [⟨"completed", view.operation, now⟩] })
        else (none, store)
      else if onlyEffect steps .write then
        (some (writtenProjected view.locale), store)
      else (some { status := .succeeded }, store)

/-- The steps are those of the revision, none when it is gone; the answer is
whether there was something to project, and nothing when it raised.  A
conversation that has run out is expired by being read, and what is then to be
written finds none. -/
def syncConversationWorkflowOutcome (hash : Value → String) (store : SyncStore)
    (steps : List Step) (revisionId tenantId : String)
    (outcome : List (String × Value)) (now : Int) : Option Bool × SyncStore :=
  if (linkedConversation [store.row] revisionId tenantId).isNone then
    (some false, store)
  else match mappedStatus (Value.lookup outcome "status") with
    | none => (some false, store)
    | some mapped =>
        if store.row.lapsed now then
          (none, { store with
            row := store.row.expire now
            outcomeEvents :=
              if (Value.lookup outcome "status").isText "complete" &&
                  onlyEffect steps .read then
                store.outcomeEvents ++ [⟨"completed", .none, now⟩]
              else store.outcomeEvents })
        else
          let (projected, later) :=
            if (Value.lookup outcome "status").isText "complete" then
              completeProjected library store steps tenantId now
            else (some { status := mapped }, store)
          match projected with
          | none => (none, later)
          | some projected => (some true, { later with
              row := projected.write hash later.row now })

end AcpTask.Concierge
