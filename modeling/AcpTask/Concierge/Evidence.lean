import AcpTask.Concierge.Repository

namespace AcpTask.Concierge

open Data

variable (library : StandardLibrary)

/-! Slack messages as evidence: how a page of them is folded into the progress
of a read, and how they are presented.  `none` is an exception. -/

structure View where
  locale : Value
  operation : Value
  activePerson : Value
  activeThread : Value
  resolutionRequest : Value
  readProgress : Value

/-- Only the locale has a default of its own, for a conversation without the
field. -/
def View.of (state : ConversationState) : View where
  locale := (state .locale).getD (.str "es")
  operation := state.value .operation
  activePerson := state.value .activePerson
  activeThread := state.value .activeThread
  resolutionRequest := state.value .resolutionRequest
  readProgress := state.value .readProgress

/-! `_accumulate_slack_read_page`. -/

def readPageBudget : Int := 5

def readMessageBudget : Nat := 500

/-- The author to filter by; `None` keeps everyone. -/
def slackReadAuthor? (view : View) : Option Value :=
  if !view.operation.hashable then none
  else if view.operation.isText "read" || view.operation.isText "summarize" then
    view.activePerson.orEmpty.item? "id"
  else some .none

def slackMessageRelation (message : List (String × Value)) (threadTs : Value) :
    String :=
  let ownThread := Value.lookup message "thread_ts"
  let ts := Value.lookup message "ts"
  if threadTs.truthy then
    if ts.equals threadTs then "parent" else "reply"
  else if ownThread.truthy && !ownThread.equals ts then "reply"
  else if ownThread.truthy then "thread_parent"
  else "message"

/-- `isinstance(message, dict) and message.get("ts")`. -/
def readable? : Value → Option (List (String × Value))
  | .dict items => if (Value.lookup items "ts").truthy then some items else none
  | _ => none

def keptMessage? (author threadTs : Value) (message : List (String × Value)) :
    Option Value :=
  if author.truthy && !(Value.lookup message "user").equals author then none
  else some (.dict (Value.insertItem message "relation"
    (.str (slackMessageRelation message threadTs))))

structure ReadPage where
  examined : Nat
  kept : List Value
  cursor : Value
  channelId : Value

def nextCursor? (output : Value) : Option Value := do
  let next ← output.item? "next_cursor"
  if next.truthy then pure next
  else
    let metadata ← output.item? "response_metadata"
    let next ← metadata.orEmpty.item? "next_cursor"
    pure (next.orElse .none)

def readPage? (view : View) (output stepInput : Value) : Option ReadPage := do
  let author ← slackReadAuthor? view
  let ownThread ← view.activeThread.orEmpty.item? "thread_ts"
  let channelId ← stepInput.item? "channel_id"
  let threadTs ← if ownThread.truthy then pure ownThread
    else stepInput.item? "thread_ts"
  let messages ← output.item? "messages"
  let listed ← messages.listOr?
  let cursor ← nextCursor? output
  let examined := listed.filterMap readable?
  pure {
    examined := examined.length
    kept := examined.filterMap (keptMessage? author threadTs)
    cursor, channelId }

structure Prior where
  messages : List Value
  examined : Int
  pages : Int

def prior? (progress : Value) : Option Prior := do
  let stored ← progress.item? "messages"
  let messages ← stored.listOr?
  let examined ← progress.item? "examined" >>= library.intOr?
  let pages ← progress.item? "pages" >>= library.intOr?
  pure { messages, examined, pages }

structure ReadProgress where
  pages : Int
  cursor : Value
  messages : List Value
  channelId : Value
  examined : Int

def accumulate (prior : Prior) (page : ReadPage) : ReadProgress where
  pages := prior.pages + 1
  cursor := page.cursor
  messages := (prior.messages ++ page.kept).take readMessageBudget
  channelId := page.channelId
  examined := prior.examined + page.examined

namespace ReadProgress

def spent (progress : ReadProgress) : Bool :=
  decide (readPageBudget ≤ progress.pages) ||
    decide ((readMessageBudget : Int) ≤ progress.examined)

def budgetExhausted (progress : ReadProgress) : Bool :=
  progress.spent && progress.cursor.truthy

def continues (progress : ReadProgress) : Bool :=
  progress.cursor.truthy && !progress.spent

/-- `progress["state"]`. -/
def state (progress : ReadProgress) : Value :=
  .dict [
    ("channel_id", progress.channelId),
    ("cursor", progress.cursor),
    ("examined", .int progress.examined),
    ("messages", .list progress.messages),
    ("pages", .int progress.pages)]

def awaitingLinks (progress : ReadProgress) (directory : Value) : Value :=
  .dict [
    ("awaiting_links", .bool true),
    ("budget_exhausted", .bool progress.budgetExhausted),
    ("channel_id", progress.channelId),
    ("cursor", .none),
    ("directory", directory),
    ("examined", .int progress.examined),
    ("messages", .list progress.messages),
    ("pages", .int progress.pages)]

end ReadProgress

/-! `_present_slack_evidence` and the presenter it calls. -/

def authorLabel? (member : Value) : Option (Option (Value × Value)) :=
  match member with
  | .dict items =>
      let id := Value.lookup items "id"
      let label := ((Value.lookup items "display_name").orElse
        (Value.lookup items "real_name")).orElse (Value.lookup items "handle")
      if !id.truthy || !label.truthy then some none
      else if id.hashable then some (some (id, label)) else none
  | _ => some none

def authorLabels? (directory : Value) : Option (List (Value × Value)) := do
  let members ← directory.listOr?
  let labels ← members.mapM authorLabel?
  pure (labels.filterMap id)

/-- `labels.get(key)`: the last assignment to a key is the one a dict keeps. -/
def labelOf? (labels : List (Value × Value)) (key : Value) :
    Option (Option Value) :=
  if key.hashable then
    some ((labels.reverse.find? fun label => label.1.equals key).map Prod.snd)
  else none

def localizedTimestamp (locale value : Value) : String :=
  match library.instant (locale.isText "es") value with
  | some instant => instant
  | none => library.str (value.orElse (.str "unknown"))

def evidenceLine? (locale : Value) (labels : List (Value × Value))
    (message : List (String × Value)) : Option String := do
  let author := Value.lookup message "user"
  let label ← labelOf? labels author
  pure (library.str (label.getD (author.orElse (.str "Slack"))) ++ " (" ++
    localizedTimestamp library locale (Value.lookup message "ts") ++ "): " ++
    library.str ((Value.get? message "text").getD (.str "")))

def citation (channelId : Value) (message : List (String × Value)) :
    List (String × Value) :=
  let ts := Value.lookup message "ts"
  [("author_id", Value.lookup message "user"),
    ("channel_id", channelId),
    ("citation_id", .str ("slack:" ++ library.str channelId ++ ":" ++
      library.str ts)),
    ("message_ts", ts),
    ("relation", (Value.lookup message "relation").orElse (.str "message"))]

structure Presented where
  answer : String
  citations : List (List (String × Value))
  citationComplete : Bool
  locale : Value
  truncated : Bool
  period : Value

def Presented.value (presented : Presented) : Value :=
  .dict [
    ("answer", .str presented.answer),
    ("citation_complete", .bool presented.citationComplete),
    ("citations", .list (presented.citations.map .dict)),
    ("locale", presented.locale),
    ("partial", .bool presented.truncated),
    ("partial_reason", if presented.truncated then .str "page_budget_reached"
      else .none),
    ("period", presented.period)]

def evidencePeriod? (stepInput : Value) : Option Value := do
  let oldest ← stepInput.item? "oldest"
  let latest ← stepInput.item? "latest"
  pure (if oldest.truthy && latest.truthy then
    .dict [("latest", latest), ("oldest", oldest)] else .none)

def noMessages (locale : Value) : String :=
  if locale.isText "es" then "No encontré mensajes en ese período."
  else "I found no messages in that period."

def presentSlackEvidence? (messages : List Value) (truncated : Bool)
    (stepInput locale directory : Value) : Option Presented := do
  let channelId ← stepInput.item? "channel_id"
  let period ← evidencePeriod? stepInput
  let labels ← authorLabels? directory
  let evidence := messages.filterMap readable?
  let lines ← evidence.mapM (evidenceLine? library locale labels)
  pure {
    answer := if lines.isEmpty then noMessages locale
      else String.intercalate "\n" lines
    citations := evidence.map (citation library channelId)
    citationComplete := false
    locale, truncated, period }

def linkCitation? (links : List (Value × Value))
    (cited : List (String × Value)) : Option (List (String × Value)) := do
  let link ← labelOf? links (Value.lookup cited "message_ts")
  pure (if (link.getD .none).truthy then
    Value.insertItem cited "permalink" (link.getD .none) else cited)

/-- What `_present_linked_slack_read` stores. -/
def presentLinkedSlackRead? (view : View) (links : List (Value × Value)) :
    Option Presented := do
  let progress := view.readProgress.orEmpty
  let stored ← progress.item? "messages"
  let messages ← stored.listOr?
  let exhausted ← progress.item? "budget_exhausted"
  let channelId ← progress.item? "channel_id"
  let directory ← progress.item? "directory"
  let presented ← presentSlackEvidence? library messages exhausted.truthy
    (.dict [("channel_id", channelId)]) view.locale directory
  let citations ← presented.citations.mapM (linkCitation? links)
  pure { presented with
    citations
    citationComplete := citations.all fun cited =>
      (Value.lookup cited "permalink").truthy }

end AcpTask.Concierge
