import AcpTask.Concierge.Repository
import AcpTask.Workflow.Executor

namespace AcpTask.Concierge

open Data Outbox Workflow

/-! The outcomes a workflow hands to the conversation it was started from. -/

/-- `… WHERE workflow_revision_id = ? AND tenant_id = ? AND status NOT IN
('closed', 'expired')`. -/
def linkedConversation (rows : List Conversation)
    (revisionId tenantId : String) : Option Conversation :=
  rows.find? fun row =>
    row.workflowRevisionId == some revisionId && row.tenantId == tenantId &&
      !row.status.terminal

def outcomeStatus : RunResult → String
  | .needsApproval => "needs_approval"
  | .complete => "complete"
  | .blocked => "blocked"
  | .needsReplan _ => "needs_replan"
  | .pausedByPolicy _ _ => "paused_by_policy"
  | .executionUnknown _ => "execution_unknown"
  | .retryWait _ => "retry_wait"
  | .blockedConnection _ => "blocked_connection"
  | .retryableFailure _ _ => "retryable_failure"
  | .stepCompleted _ => "step_completed"

/-- The object `run_next` returns. -/
def runOutcome (result : RunResult) : Value :=
  let status := ("status", Value.str (outcomeStatus result))
  match result with
  | .needsApproval | .complete | .blocked => .dict [status]
  | .needsReplan stepId | .executionUnknown stepId | .retryWait stepId
  | .blockedConnection stepId | .stepCompleted stepId =>
      .dict [status, ("step_id", .str stepId)]
  | .pausedByPolicy stepId reason =>
      .dict [("reason", .str reason), status, ("step_id", .str stepId)]
  | .retryableFailure stepId recovery =>
      .dict [("recovery", .str recovery), status, ("step_id", .str stepId)]

def mappedStatus : Value → Option ConversationStatus
  | .str "complete" => some .succeeded
  | .str "retry_wait" => some .retryableFailure
  | .str "retryable_failure" => some .retryableFailure
  | .str "blocked_connection" => some .retryableFailure
  | .str "execution_unknown" => some .unknownOutcome
  | .str "paused_by_policy" => some .retryableFailure
  | .str "needs_replan" => some .retryableFailure
  | _ => none

def conversationAggregate (tenantId conversationId : String) : Aggregate :=
  ⟨tenantId, "conversation", conversationId⟩

def outcomePayload (revisionId : String) (outcome : Value) : Value :=
  .dict [("outcome", outcome), ("revision_id", .str revisionId)]

def outcomeDedupeKey (revisionId status : String) : String :=
  "revision:" ++ revisionId ++ ":" ++ status

def outcomeLinked (rows : List Conversation) (tenantId : String) :
    Value → Bool
  | .dict items =>
      match Value.lookup items "revision_id" with
      | .str revisionId => (linkedConversation rows revisionId tenantId).isSome
      | _ => false
  | _ => false

def outcomeMapped : Value → Bool
  | .dict items =>
      match Value.lookup items "outcome" with
      | .dict outcome => (mappedStatus (Value.lookup outcome "status")).isSome
      | _ => false
  | _ => false

/-- `sync_conversation_workflow_outcome` gets past its two early returns. -/
def projectable (rows : List Conversation) (tenantId : String)
    (payload : Value) : Bool :=
  outcomeLinked rows tenantId payload && outcomeMapped payload

@[simp] theorem outcomeMapped_payload (revisionId : String)
    (result : RunResult) :
    outcomeMapped (outcomePayload revisionId (runOutcome result)) =
      (mappedStatus (.str (outcomeStatus result))).isSome := by
  cases result <;> rfl

end AcpTask.Concierge
