import AcpTask.Concierge.Resolver

namespace AcpTask.Concierge

open Data
open Data.Value (lookup)
open Library Outbox

/-! The resolver runs of the repository: the calls that start one, count its
pages and close it, and the outbox that its completion is published in. -/

/-- A row of `slack_resolver_runs`. -/
structure SlackResolverRun extends ResolverRun where
  conversationId : String
  principalId : String
  connectionId : String
  entityKind : String
  queryHash : String
  requestedStateVersion : Int
  /-- `cursor["dispatched"]`. -/
  dispatched : Option Value
  workflowRunId : Option String
  createdAt : Int

abbrev SlackResolverRun.key (run : SlackResolverRun) : String × String :=
  run.toResolverRun.key

structure ResolverStore where
  runs : Table SlackResolverRun SlackResolverRun.key
  outbox : OutboxStore

/-! `start_slack_resolver_run`. -/

/-- The keys of `SLACK_ENTITY_FIELDS`. -/
def slackEntityKinds : List String :=
  ["workspace", "channel", "user", "message", "thread", "file", "reaction"]

structure ResolverRequest where
  conversationId : String
  tenantId : String
  principalId : String
  connectionId : String
  entityKind : String
  queryHash : String
  requestedStateVersion : Int
  maxPages : Int := 10
  maxCandidates : Int := 5000
  workflowRunId : Option String := none
  workflowRevisionId : Option String := none

def SlackResolverRun.serves (run : SlackResolverRun)
    (request : ResolverRequest) : Bool :=
  run.tenantId == request.tenantId &&
    run.conversationId == request.conversationId &&
    run.connectionId == request.connectionId &&
    run.entityKind == request.entityKind &&
    run.queryHash == request.queryHash &&
    run.requestedStateVersion == request.requestedStateVersion

def ResolverRequest.bound (request : ResolverRequest) : Bool :=
  [request.conversationId, request.tenantId, request.principalId,
    request.connectionId, request.entityKind, request.queryHash].all (· != "")

def ResolverRequest.row (request : ResolverRequest) (resolverRunId : String)
    (now : Int) : SlackResolverRun where
  resolverRunId
  tenantId := request.tenantId
  status := .pending
  next := .none
  consumed := []
  maxPages := request.maxPages
  maxCandidates := request.maxCandidates
  pagesProcessed := 0
  candidatesSeen := 0
  workflowRevisionId := request.workflowRevisionId
  outcome := none
  lastErrorCode := none
  updatedAt := now
  completedAt := none
  conversationId := request.conversationId
  principalId := request.principalId
  connectionId := request.connectionId
  entityKind := request.entityKind
  queryHash := request.queryHash
  requestedStateVersion := request.requestedStateVersion
  dispatched := none
  workflowRunId := request.workflowRunId
  createdAt := now

/-- The run and whether this call created it; `live` is whether the principal's
conversation is there, neither over nor past its expiry. -/
def ResolverStore.startSlackResolverRun (store : ResolverStore)
    (request : ResolverRequest) (resolverRunId : String) (live : Bool)
    (now : Int) :
    Except ConversationError (SlackResolverRun × Bool) × ResolverStore :=
  transaction store fun store => do
    require request.bound (.valueError "resolver run binding is required")
    require (slackEntityKinds.contains request.entityKind)
      (.valueError "unsupported Slack entity kind")
    require (decide (0 < request.requestedStateVersion))
      (.valueError "resolver run requires a positive state version")
    require live conversationUnavailable
    match store.runs.rows.find? fun run => run.serves request with
    | some existing => pure ((existing, false), store)
    | none =>
        let row := request.row resolverRunId now
        match store.runs.insert? row with
        | none => throw .integrityError
        | some runs => pure ((row, true), { store with runs })

/-! `record_slack_resolver_page`. -/

def SlackResolverRun.recordPage (run : SlackResolverRun) (page : ResolverPage)
    (now : Int) : SlackResolverRun :=
  { run with toResolverRun := run.apply page now, dispatched := none }

def ResolverStore.recordSlackResolverPage (store : ResolverStore)
    (key : String × String) (page : ResolverPage) (now : Int) :
    Except ConversationError (SlackResolverRun × Option PageCount) ×
      ResolverStore :=
  transaction store fun store =>
    match store.runs.find? key with
    | none => throw (.keyError "resolver run not found")
    | some run =>
        if run.refuses page then
          pure ((run, none), store)
        else do
          require page.nextCursor.serializable .typeError
          pure ((run.recordPage page now, some (run.count page)),
            { store with
              runs := store.runs.updateWhere
                (fun other => decide (other.key = key))
                (fun other => other.recordPage page now) (fun _ => rfl) })

/-! `attach_slack_resolver_workflow`. -/

def SlackResolverRun.attach (run : SlackResolverRun)
    (workflowRunId workflowRevisionId : Option String) (cursorToken : Value)
    (now : Int) : SlackResolverRun :=
  { run with
    status := .running, dispatched := some cursorToken
    workflowRunId, workflowRevisionId, updatedAt := now }

def ResolverStore.attachSlackResolverWorkflow (store : ResolverStore)
    (key : String × String) (workflowRunId workflowRevisionId : Option String)
    (cursorToken : Value) (now : Int) :
    Except ConversationError Bool × ResolverStore :=
  transaction store fun store =>
    if (store.runs.find? key).any fun run => !run.status.terminal then do
      require cursorToken.serializable .typeError
      pure (true, { store with
        runs := store.runs.updateWhere
          (fun run => decide (run.key = key) && !run.status.terminal)
          (fun run => run.attach workflowRunId workflowRevisionId cursorToken
            now) (fun _ => rfl) })
    else pure (false, store)

/-! `complete_slack_resolver_run`. -/

def resolverOutcomes : List String :=
  ["matched", "ambiguous", "not_found", "exhausted", "failed"]

/-- The member of `RESOLVER_OUTCOMES` that an outcome is of. -/
def outcomeKind? (outcome : List (String × Value)) : Option String :=
  match lookup outcome "kind" with
  | .str kind => if resolverOutcomes.contains kind then some kind else none
  | _ => none

def SlackResolverRun.close (run : SlackResolverRun) (kind : String)
    (outcome : List (String × Value)) (errorCode : Option String) (now : Int) :
    SlackResolverRun :=
  { run with
    toResolverRun := run.toResolverRun.close
      (if kind = "failed" then .failed else .completed) (.dict outcome) errorCode
      now }

def completionEvent (run : SlackResolverRun) (kind : String) : Value :=
  .dict [
    ("candidates_seen", .int run.candidatesSeen),
    ("entity_kind", .str run.entityKind),
    ("outcome", .str kind),
    ("pages_processed", .int run.pagesProcessed),
    ("principal_id", .str run.principalId),
    ("requested_state_version", .int run.requestedStateVersion),
    ("resolver_run_id", .str run.resolverRunId)]

def completionKey (resolverRunId : String) : String :=
  "slack-resolver:" ++ resolverRunId

def ResolverStore.completeSlackResolverRun (encoding : Encoding)
    (store : ResolverStore) (key : String × String)
    (outcome : List (String × Value)) (errorCode : Option String)
    (eventId : String) (now : Int) :
    Except ConversationError (SlackResolverRun × Bool) × ResolverStore :=
  match outcomeKind? outcome with
  | none => (.error (.valueError "unsupported resolver outcome"), store)
  | some kind => transaction store fun store =>
      match store.runs.find? key with
      | none => throw (.keyError "resolver run not found")
      | some run =>
          if run.status.terminal then pure ((run, false), store)
          else do
            require (Value.dict outcome).serializable .typeError
            match appendOutboxEvent encoding.toJson store.outbox
                ⟨run.tenantId, "conversation", run.conversationId⟩
                "conversation.resolver_completed" (completionEvent run kind)
                (completionKey run.resolverRunId) eventId now 5 none with
            | (.error error, _) => throw (.outbox error)
            | (.ok _, outbox) =>
                pure ((run.close kind outcome errorCode now, true), {
                  outbox
                  runs := store.runs.updateWhere
                    (fun other => decide (other.key = key) &&
                      !other.status.terminal)
                    (fun other => other.close kind outcome errorCode now)
                    (fun _ => rfl) })

end AcpTask.Concierge
