import AcpTask.Concierge.Evidence

namespace AcpTask.Concierge

open Data Library Workflow

variable (library : StandardLibrary)

/-! Resolver runs: the pages of one search for a channel or a person, and what
the projection makes of a page.  `none` is an exception. -/

inductive ResolverStatus where
  | pending
  | running
  | waitingRetry
  | completed
  | failed
  | cancelled

def ResolverStatus.terminal : ResolverStatus → Bool
  | .completed | .failed | .cancelled => true
  | _ => false

structure ResolverRun where
  resolverRunId : String
  tenantId : String
  status : ResolverStatus
  next : Value
  consumed : List String
  maxPages : Int
  maxCandidates : Int
  pagesProcessed : Int
  candidatesSeen : Int
  workflowRevisionId : Option String
  outcome : Option Value
  lastErrorCode : Option String
  updatedAt : Int
  completedAt : Option Int

abbrev ResolverRun.key (run : ResolverRun) : String × String :=
  (run.resolverRunId, run.tenantId)

abbrev ResolverRuns := Table ResolverRun ResolverRun.key

/-- What `record_slack_resolver_page` adds to the run it returns, when it has
applied the page. -/
structure PageCount where
  budgetExhausted : Bool
  exhausted : Bool

structure ResolverPage where
  pageToken : Option String
  nextCursor : Value
  candidatesSeen : Int
  workflowRevisionId : Option String := none

/-- `"" if page_token is None else str(page_token)`. -/
def ResolverPage.token (page : ResolverPage) : String := page.pageToken.getD ""

def ResolverRun.apply (run : ResolverRun) (page : ResolverPage) (now : Int) :
    ResolverRun :=
  { run with
    status := .running, next := page.nextCursor
    consumed := run.consumed ++ [page.token]
    pagesProcessed := run.pagesProcessed + 1
    candidatesSeen := run.candidatesSeen + max page.candidatesSeen 0
    workflowRevisionId := page.workflowRevisionId.or run.workflowRevisionId
    updatedAt := now }

@[simp] theorem ResolverRun.apply_key (page : ResolverPage) (now : Int)
    (run : ResolverRun) : (run.apply page now).key = run.key := rfl

/-- A run that has ended, or has consumed the page before, is returned as it
is. -/
def ResolverRun.refuses (run : ResolverRun) (page : ResolverPage) : Bool :=
  run.status.terminal || run.consumed.contains page.token

def ResolverRun.count (run : ResolverRun) (page : ResolverPage) : PageCount :=
  let budgetExhausted :=
    decide (run.maxPages ≤ run.pagesProcessed + 1) ||
      decide (run.maxCandidates ≤
        run.candidatesSeen + max page.candidatesSeen 0)
  ⟨budgetExhausted, budgetExhausted || !page.nextCursor.truthy⟩

def recordSlackResolverPage (runs : ResolverRuns) (key : String × String)
    (page : ResolverPage) (now : Int) :
    Option (Option PageCount) × ResolverRuns :=
  match runs.find? key with
  | none => (none, runs)
  | some run =>
      if run.refuses page then (some none, runs)
      else (some (some (run.count page)),
        runs.updateWhere (fun other => decide (other.key = key))
          (fun other => other.apply page now) (ResolverRun.apply_key page now))

def ResolverRun.close (status : ResolverStatus) (outcome : Value)
    (errorCode : Option String) (now : Int) (run : ResolverRun) : ResolverRun :=
  { run with
    status, outcome := some outcome, lastErrorCode := errorCode
    updatedAt := now, completedAt := some now }

/-- What the projection completes a run with is never `"failed"`. -/
def ResolverRun.complete (outcome : Value) (now : Int) (run : ResolverRun) :
    ResolverRun :=
  run.close .completed outcome none now

@[simp] theorem ResolverRun.complete_key (outcome : Value) (now : Int)
    (run : ResolverRun) : (run.complete outcome now).key = run.key := rfl

def completeSlackResolverRun (runs : ResolverRuns) (key : String × String)
    (outcome : Value) (now : Int) : ResolverRuns :=
  runs.updateWhere
    (fun run => decide (run.key = key) && !run.status.terminal)
    (ResolverRun.complete outcome now) (ResolverRun.complete_key outcome now)

def normalizeName (value : Value) : String :=
  let text := (library.nfkd (library.str (value.orElse (.str "")))).toList
  let lowered := library.lower (String.ofList
    (text.filter fun character => !library.combining character))
  let bare := String.ofList (lowered.toList.dropWhile fun character =>
    character == '#' || character == '@')
  String.intercalate " " (library.words bare)

def nameMatches (channel : Bool) (wanted : String)
    (item : List (String × Value)) : Bool :=
  if channel then
    normalizeName library (Value.lookup item "name") == wanted &&
      Value.lookup item "is_private" != .bool true
  else
    ["display_name", "real_name", "handle"].any fun key =>
      normalizeName library (Value.lookup item key) == wanted

def asItems? : Value → Option (List (String × Value))
  | .dict items => some items
  | _ => none

/-- `{"id": selected["id"], …}`. -/
def selectedEntity? (channel : Bool) (selected : List (String × Value)) :
    Option Value :=
  if channel then do
    let id ← Value.get? selected "id"
    let name ← Value.get? selected "name"
    pure (.dict [("id", id), ("name", name)])
  else
    some (.dict (Value.select selected
      ["display_name", "handle", "id", "image_url", "real_name"]))

def safeOption (item : List (String × Value)) : Value :=
  .dict (Value.select item
    ["display_name", "handle", "id", "image_url", "name", "real_name"])

def resolverQuestion (channel : Bool) (locale : Value) : String :=
  if locale.isText "es" then
    if channel then "¿Qué canal público de Slack?" else "¿Qué persona de Slack?"
  else if channel then "Which public Slack channel?" else "Which Slack person?"

def resolverStep (steps : List Step) : Option Step :=
  steps.find? fun step =>
    step.capabilityId == "slack.channels.list" ||
      step.capabilityId == "slack.users.list"

def stepOutput (step : Step) : Value := (step.output.getD (.dict [])).orEmpty

def stepInput (step : Step) : Value := step.input.orEmpty

def resolverPage? (step : Step) (candidates : Nat) : Option ResolverPage := do
  let token ← (stepInput step).item? "cursor"
  let nextCursor ← nextCursor? (stepOutput step)
  pure {
    pageToken := match token with
      | .none => none
      | token => some (library.str token)
    nextCursor, candidatesSeen := candidates
    workflowRevisionId := some step.workflowRevisionId }

structure Resolution where
  channel : Bool
  field : Value
  locale : Value
  found : List (List (String × Value))
  run : Option (String × ResolverPage)

def resolution? (request : Value) (step : Step) : Option Resolution := do
  let field ← request.item? "field"
  let channel := field.isText "channel"
  let listed ← (stepOutput step).item? (if channel then "channels" else "users")
  let candidates ← listed.listOr?
  let query ← request.item? "query"
  let wanted := normalizeName library query
  let items ← candidates.mapM asItems?
  let runId ← request.item? "resolver_run_id"
  let page ← if runId.truthy then
      (resolverPage? library step candidates.length).map some
    else pure none
  let locale := match request with
    | .dict items => (Value.get? items "locale").getD (.str "es")
    | _ => .str "es"
  pure {
    channel, field, locale
    found := items.filter (nameMatches library channel wanted)
    run := match runId, page with
      | .str id, some page => some (id, page)
      | _, _ => none }

inductive Decision where
  | select (entity : Value)
  | wait
  | ask (options : List Value)

/-- A page that was not applied has no `"exhausted"` to look at. -/
def decision? (resolution : Resolution) (page : Option (Option PageCount)) :
    Option Decision :=
  match resolution.found, page with
  | [selected], _ => (selectedEntity? resolution.channel selected).map .select
  | [], none => some (.ask [])
  | [], some none => none
  | [], some (some count) => some (if count.exhausted then .ask [] else .wait)
  | found, _ => some (.ask (found.map safeOption))

structure Projected where
  status : ConversationStatus
  fields : ConversationState := fun _ => none
  presentation : Option Value := none

def Decision.projected (resolution : Resolution) : Decision → Projected
  | .select entity => {
      status := .resolving
      fields := fun
        | .blockingNeed => some .none
        | .activeChannel => if resolution.channel then some entity else none
        | .activePerson => if resolution.channel then none else some entity
        | _ => none }
  | .wait => { status := .retrieving }
  | .ask options => {
      status := .needsInput
      fields := fun
        | .blockingNeed => some (.dict [
            ("field", resolution.field),
            ("kind", .str (if options.isEmpty then "missing" else "selection")),
            ("options", .list options),
            ("question", .str (resolverQuestion resolution.channel
              resolution.locale))])
        | _ => none }

def Decision.outcome (page : Option (Option PageCount)) :
    Decision → Option Value
  | .select entity =>
      some (.dict [("entity", entity), ("kind", .str "matched")])
  | .wait => none
  | .ask options =>
      let kind := if !options.isEmpty then "ambiguous"
        else match page with
          | some (some count) =>
              if count.budgetExhausted then "exhausted" else "not_found"
          | _ => "not_found"
      some (.dict [("kind", .str kind), ("options", .list options)])

def recordIfAny (runs : ResolverRuns) (tenantId : String)
    (run : Option (String × ResolverPage)) (now : Int) :
    Option (Option PageCount) × ResolverRuns :=
  match run with
  | none => (none, runs)
  | some (id, page) => recordSlackResolverPage runs (id, tenantId) page now

def completeIfAny (runs : ResolverRuns) (tenantId : String)
    (run : Option (String × ResolverPage)) (outcome : Option Value)
    (now : Int) : ResolverRuns :=
  match run, outcome with
  | some (id, _), some outcome =>
      completeSlackResolverRun runs (id, tenantId) outcome now
  | _, _ => runs

def resolve (runs : ResolverRuns) (tenantId : String) (request : Value)
    (step : Step) (now : Int) : Option Projected × ResolverRuns :=
  match resolution? library request step with
  | none => (none, runs)
  | some resolution =>
      let (page, recorded) := recordIfAny runs tenantId resolution.run now
      match decision? resolution page with
      | none => (none, recorded)
      | some decision =>
          (some (decision.projected resolution),
            completeIfAny recorded tenantId resolution.run
              (decision.outcome page) now)

end AcpTask.Concierge
