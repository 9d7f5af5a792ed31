import AcpTask.Broker.SingleEffect
import AcpTask.Broker.Unanswered
import AcpTask.Dispatch.SingleFlight

namespace AcpTask.Broker

open Data Dispatch Library

/-! What lies under a provider call of the broker: the write-ahead ledger, and
under it the connector's request. -/

inductive RetryAfter where
  | seconds (value : Int)
  | text (value : String)

inductive HttpAnswer where
  | timeout
  | requestException
  | response (statusCode : Nat) (body : Option Value)
      (retryAfter : Option RetryAfter)

inductive ConnectorException where
  | timeoutError
  | providerNetworkError
  | twilioAPIError (category : String) (retryAfter : Option RetryAfter)
  | keyError (key : String)
  | valueError (message : String)
  | typeError
  | attributeError

def invalidNumberCodes : List String :=
  ["21211", "21606", "21610", "21612", "21614"]

def namesInvalidNumber : Value → Bool
  | .str code => invalidNumberCodes.contains code
  | .int code => invalidNumberCodes.contains (toString code)
  | _ => false

def twilioCategory (statusCode : Nat) (code : Value) : String :=
  if statusCode = 429 then "rate_limit"
  else if statusCode = 401 ∨ statusCode = 403 then "auth"
  else if 500 ≤ statusCode then "transient"
  else if namesInvalidNumber code then "validation"
  else "provider"

/-- `body["sid"]` and `body.get("status", "queued")`. -/
def createdEffect (capabilityId : String) (body : Option Value) :
    Except ConnectorException Value :=
  match body with
  | none => .error (.valueError "Expecting value")
  | some (.dict items) =>
      match Value.get? items "sid" with
      | none => .error (.keyError "sid")
      | some sid => .ok (.dict [("provider", .str "twilio"),
          ("capability_id", .str capabilityId), ("provider_id", sid),
          ("status", (Value.get? items "status").getD (.str "queued"))])
  | some _ => .error .typeError

/-- `body.get("code")`, of `{}` where the body is no JSON. -/
def refusedEffect (statusCode : Nat) (body : Option Value)
    (retryAfter : Option RetryAfter) : ConnectorException :=
  match body with
  | none => .twilioAPIError (twilioCategory statusCode .none) retryAfter
  | some (.dict items) =>
      .twilioAPIError (twilioCategory statusCode (Value.lookup items "code"))
        retryAfter
  | some _ => .attributeError

def HttpAnswer.succeeded (statusCode : Nat) : Bool :=
  decide (200 ≤ statusCode ∧ statusCode < 300)

def createEffect (capabilityId : String) :
    HttpAnswer → Except ConnectorException Value
  | .timeout => .error .timeoutError
  | .requestException => .error .providerNetworkError
  | .response statusCode body retryAfter =>
      if HttpAnswer.succeeded statusCode then createdEffect capabilityId body
      else .error (refusedEffect statusCode body retryAfter)

def ConnectorException.providerException :
    ConnectorException → ProviderException
  | .timeoutError => .timeoutError
  | .providerNetworkError => .providerNetworkError
  | .twilioAPIError category _ => .other "TwilioAPIError" (some category)
  | .keyError _ => .other "KeyError" none
  | .valueError _ => .other "JSONDecodeError" none
  | .typeError => .other "TypeError" none
  | .attributeError => .other "AttributeError" none

/-- The exception as the broker's `except` looks at it. -/
def ConnectorException.brokerException :
    ConnectorException → BrokerException
  | .timeoutError => .other "TimeoutError"
  | .providerNetworkError => .providerNetworkError none
  | .twilioAPIError _ (some (.seconds value)) =>
      .providerError "TwilioAPIError" (some value)
  | .twilioAPIError _ _ => .providerError "TwilioAPIError" none
  | .keyError key => .keyError key
  | .valueError message => .valueError message
  | .typeError => .other "TypeError"
  | .attributeError => .other "AttributeError"

def providerOutcome : Except ConnectorException Value → ProviderOutcome
  | .ok result => .returned result
  | .error exception => .raised exception.providerException

/-- What the ledger raises itself; `error` is what the connector raised. -/
def ledgerException (error : Option ConnectorException) :
    DispatchError → BrokerException
  | .duplicateDispatch _ => .other "DuplicateDispatch"
  | .ambiguousDispatch _ => .other "AmbiguousDispatch"
  | .integrityError => .other "IntegrityError"
  | .provider _ =>
      (error.map ConnectorException.brokerException).getD (.other "Exception")

def executeEffect (table : DispatchTable) (intent : Intent)
    (capabilityId : String) (answer : HttpAnswer) (now : Int) :
    BrokerAnswer × DispatchTable :=
  match claim table intent now with
  | .error error => (.raised (ledgerException none error), table)
  | .ok claimed =>
      let effect := createEffect capabilityId answer
      let outcome := providerOutcome effect
      (match dispatchResult outcome with
        | .ok result => .returned result
        | .error error => .raised (ledgerException
            (match effect with
              | .ok _ => none
              | .error exception => some exception) error),
        recordOutcome claimed intent outcome now)

def messageRequest : Action.ProposalRequest where
  proposalId := "proposal:send"
  idempotencyKey := "workflow:revision:send"
  userPrincipalId := "user"
  agentPrincipalId := "agent:orchestrator"
  credentialId := "credential"
  capabilityId := "twilio.sms.send"
  payloadJson := messageConfig.canonicalJson messagePayload
  payloadHash := messageConfig.payloadHash messagePayload
  expiresAt := 300
  workflowRevisionId := "revision"
  stepId := "send"
  planGraphHash := "graph"
  connectionId := "connection"
  attempt := 1
  tenantId := some "tenant"

def messageJob : Job where
  claim := ⟨"lease", ("revision", "send"), 1⟩
  effect := .write
  capabilityId := "twilio.sms.send"
  payload := messagePayload
  userPrincipalId := "user"
  startedAt := 0
  proposal := messageRequest
  lease := {
    leaseHash := "lease"
    userPrincipalId := "user"
    agentPrincipalId := "agent:orchestrator"
    taskId := "revision:send"
    credentialId := "credential"
    capabilities := ["twilio.sms.send"]
    expiresAt := 300
    workflowRevisionId := "revision"
    stepId := "send"
    planGraphHash := "graph"
    connectionId := "connection"
    attempt := 1
    tenantId := some "tenant" }
  binding := {
    proposalId := "proposal:send"
    version := 1
    userPrincipalId := "user"
    agentPrincipalId := "agent:orchestrator"
    credentialId := "credential"
    capabilityId := "twilio.sms.send"
    payloadHash := messageConfig.payloadHash messagePayload
    idempotencyKey := "workflow:revision:send:attempt:1"
    taskId := some "revision:send"
    workflowRevisionId := some "revision"
    stepId := some "send"
    planGraphHash := some "graph"
    connectionId := some "connection"
    attempt := some 1
    authority := {}
    tenantId := some "tenant" }

def messageIntent : Intent where
  tenantId := "tenant"
  dispatchKey := "workflow:revision:send:attempt:1"
  effectId := "send"
  payloadHash := messageConfig.payloadHash messagePayload
  callbackToken := "callback"

def timedOutMessage : List ExecuteAction :=
  [.other (.createProposal messageRequest),
    .other (.decide "proposal:send" 1 "user" true 0 (some "tenant")),
    .other (.issueLease messageJob.lease 0),
    .execute 0 messageJob "lease"] ++
  [.checks messageChecks, .live true none, .proceed, .proceed,
    .opened ["twilio:sms:send"] [], .proceed,
    (executeEffect Table.empty messageIntent "twilio.sms.send" .timeout
      1).1].map fun answer => .advance 0 answer 1

theorem proposal_stuck_after_timeout :
    ((executeRun messageConfig timedOutMessage).actions.proposals.find?
      ("proposal:send", 1)).map (fun row => (row.status, row.dispatchedAt)) =
        some (.executing, some 1) ∧
    ¬ ∀ (config : BrokerConfig) (actions : List ExecuteAction),
      (executeRun config actions).AllAnswered := by
  refine ⟨by decide +kernel, fun holds => ?_⟩
  have dropped : (executeRun messageConfig timedOutMessage).unanswered =
      [("proposal:send", 1)] := by decide +kernel
  have responded := (holds messageConfig timedOutMessage).responded
  rw [dropped] at responded
  cases responded

def bindable : Value → Bool
  | .none | .bool _ | .float _ | .str _ => true
  | .int value => decide (-2 ^ 63 ≤ value ∧ value < 2 ^ 63)
  | .list _ | .dict _ | .object _ => false

/-- The statement raises on what SQLite does not take, and the row stays as it
was claimed. -/
def recordAnswer (claimed : DispatchTable) (intent : Intent)
    (outcome : ProviderOutcome) (now : Int) : DispatchTable :=
  match outcome with
  | .raised _ => recordOutcome claimed intent outcome now
  | .returned result =>
      if (durableIdentifier result).all fun identifier =>
          bindable identifier.1 && bindable identifier.2 then
        recordOutcome claimed intent outcome now
      else claimed

def HttpAnswer.refused : HttpAnswer → Bool
  | .response statusCode _ _ => decide (400 ≤ statusCode ∧ statusCode < 500)
  | _ => false

def RecordsCertainty (claimed : DispatchTable) (intent : Intent)
    (capabilityId : String) (answer : HttpAnswer) (now : Int) : Prop :=
  ∃ row, (recordAnswer claimed intent
      (providerOutcome (createEffect capabilityId answer)) now).find?
        intent.key = some row ∧
    ((row.status = .rejected ∨ row.status = .retryable) ∧
        answer.refused = true ∨
      row.status = .accepted ∨ row.status = .ambiguous)

/-- A request that was refused or got no answer, or a success whose body is an
object with a `sid` that the ledger can store, or with an empty one. -/
def HttpAnswer.Recordable : HttpAnswer → Prop
  | .timeout | .requestException => True
  | .response statusCode body _ =>
      (400 ≤ statusCode ∧ statusCode < 500) ∨
      ((200 ≤ statusCode ∧ statusCode < 300) ∧
        ∃ items sid, body = some (.dict items) ∧
          Value.get? items "sid" = some sid ∧
          (sid.truthy = true → bindable sid = true ∧
            bindable ((Value.get? items "status").getD (.str "queued")) = true))

section Recording

variable {table claimed : DispatchTable} {intent : Intent} {now : Int}

theorem find?_recordOutcome_claimed {row : DispatchRow}
    (found : claimed.find? intent.key = some row) (outcome : ProviderOutcome) :
    (recordOutcome claimed intent outcome now).find? intent.key =
      some (outcomeRow outcome now row) := by
  rw [find?_recordOutcome, if_pos rfl, found]
  rfl

theorem claimed_status {claimedAt : Int}
    (claims : claim table intent claimedAt = .ok claimed) :
    ∃ row, claimed.find? intent.key = some row ∧
      (row.status = .intentRecorded ∨ row.status = .retryable) := by
  obtain ⟨⟨row, found, status⟩, _⟩ := claim_ok claims
  rcases status with ⟨_, recorded⟩ | ⟨_, _, _, retryable⟩
  · exact ⟨row, found, .inl recorded⟩
  · exact ⟨row, found, .inr retryable⟩

theorem exceptionStatus_other (className : String)
    (category : Option String) :
    exceptionStatus (.other className category) = .rejected ∨
      exceptionStatus (.other className category) = .retryable := by
  rw [exceptionStatus]
  split
  · exact .inr rfl
  · exact .inl rfl

theorem exceptionStatus_ne_accepted (exception : ProviderException) :
    exceptionStatus exception ≠ .accepted := by
  cases exception with
  | timeoutError | providerNetworkError => decide
  | other className category =>
      rcases exceptionStatus_other className category with closed | closed <;>
        (rw [closed]; decide)

theorem recordsCertainty_raised {capabilityId : String} {answer : HttpAnswer}
    {exception : ConnectorException} {row : DispatchRow}
    (found : claimed.find? intent.key = some row)
    (raised : createEffect capabilityId answer = .error exception) :
    RecordsCertainty claimed intent capabilityId answer now ↔
      answer.refused = true ∨
        exceptionStatus exception.providerException = .ambiguous := by
  have recorded := @find?_recordOutcome_claimed claimed intent now row found
    (.raised exception.providerException)
  have status := exceptionStatus_ne_accepted exception.providerException
  rw [RecordsCertainty, raised]
  constructor
  · rintro ⟨later, foundLater, ⟨_, refused⟩ | accepted | ambiguous⟩
    · exact .inl refused
    · obtain rfl := Option.some.inj (recorded.symm.trans foundLater)
      exact absurd accepted status
    · obtain rfl := Option.some.inj (recorded.symm.trans foundLater)
      exact .inr ambiguous
  · intro closes
    refine ⟨_, recorded, ?_⟩
    by_cases ambiguous :
        exceptionStatus exception.providerException = .ambiguous
    · exact .inr (.inr ambiguous)
    · refine .inl ⟨?_, closes.resolve_right ambiguous⟩
      cases exception with
      | timeoutError | providerNetworkError => exact absurd rfl ambiguous
      | twilioAPIError category =>
          exact exceptionStatus_other "TwilioAPIError" (some category)
      | keyError | valueError | typeError | attributeError => exact .inl rfl

theorem recordsCertainty_created {capabilityId : String}
    {answer : HttpAnswer} {items : List (String × Value)} {sid status : Value}
    {row : DispatchRow} (found : claimed.find? intent.key = some row)
    (unsettled : row.status = .intentRecorded ∨ row.status = .retryable)
    (unrefused : answer.refused = false)
    (created : createEffect capabilityId answer = .ok (.dict items))
    (named : Value.lookup items "provider_id" = sid)
    (stands : Value.lookup items "status" = status) :
    RecordsCertainty claimed intent capabilityId answer now ↔
      (sid.truthy = true → bindable sid = true ∧ bindable status = true) := by
  have durable : durableIdentifier (.dict items) =
      if sid.truthy = true then some (sid, status) else none := by
    rw [durableIdentifier, named, stands]
  have recorded := @find?_recordOutcome_claimed claimed intent now row found
    (.returned (.dict items))
  rw [RecordsCertainty, created, providerOutcome, recordAnswer, durable]
  by_cases truthy : sid.truthy = true
  · rw [if_pos truthy] at durable ⊢
    rw [outcomeRow, durable] at recorded
    rw [Option.all_some]
    by_cases binds : (bindable sid && bindable status) = true
    · rw [if_pos binds, recorded]
      exact iff_of_true ⟨_, rfl, .inr (.inl rfl)⟩
        fun _ => Bool.and_eq_true_iff.mp binds
    · rw [if_neg binds, found]
      apply iff_of_false
      · rintro ⟨later, same, ⟨_, refused⟩ | accepted | ambiguous⟩
        · exact absurd (unrefused.symm.trans refused) Bool.false_ne_true
        · obtain rfl := Option.some.inj same
          rcases unsettled with status | status <;>
            exact absurd (status.symm.trans accepted) (by decide)
        · obtain rfl := Option.some.inj same
          rcases unsettled with status | status <;>
            exact absurd (status.symm.trans ambiguous) (by decide)
      · intro stored
        exact binds (Bool.and_eq_true_iff.mpr (stored truthy))
  · rw [if_neg truthy] at durable ⊢
    rw [outcomeRow, durable] at recorded
    rw [Option.all_none, if_pos rfl, recorded]
    exact iff_of_true ⟨_, rfl, .inr (.inr rfl)⟩ fun holds => absurd holds truthy

theorem createEffect_refused (capabilityId : String) {statusCode : Nat}
    (body : Option Value) (retryAfter : Option RetryAfter)
    (failed : HttpAnswer.succeeded statusCode = false) :
    ∃ exception, createEffect capabilityId
        (.response statusCode body retryAfter) = .error exception ∧
      exceptionStatus exception.providerException ≠ .ambiguous := by
  refine ⟨refusedEffect statusCode body retryAfter, ?_, ?_⟩
  · rw [createEffect, failed]
    rfl
  · have other (name : String) (category : Option String) :
        exceptionStatus (.other name category) ≠ .ambiguous := by
      rcases exceptionStatus_other name category with closed | closed <;>
        (rw [closed]; decide)
    cases body with
    | none => exact other _ _
    | some value => cases value <;> exact other _ _

end Recording

theorem recordsCertainty_iff (table claimed : DispatchTable) (intent : Intent)
    (capabilityId : String) (answer : HttpAnswer) (claimedAt now : Int)
    (claims : claim table intent claimedAt = .ok claimed) :
    RecordsCertainty claimed intent capabilityId answer now ↔
      answer.Recordable := by
  obtain ⟨_, found, unsettled⟩ := claimed_status claims
  cases answer with
  | timeout | requestException =>
      exact iff_of_true ((recordsCertainty_raised found rfl).mpr (.inr rfl))
        trivial
  | response statusCode body retryAfter =>
      cases success : HttpAnswer.succeeded statusCode with
      | false =>
          obtain ⟨exception, raised, certain⟩ :=
            createEffect_refused capabilityId body retryAfter success
          rw [recordsCertainty_raised found raised, or_iff_left certain]
          have outside := of_decide_eq_false success
          simp [HttpAnswer.refused, HttpAnswer.Recordable, outside]
      | true =>
          have inside := of_decide_eq_true success
          have unrefused : HttpAnswer.refused
              (.response statusCode body retryAfter) = false := by
            simp only [HttpAnswer.refused, decide_eq_false_iff_not]
            omega
          have effect : createEffect capabilityId
              (.response statusCode body retryAfter) =
                createdEffect capabilityId body := by
            rw [createEffect, success]
            rfl
          have closed (exception : ConnectorException)
              (raised : createdEffect capabilityId body = .error exception)
              (certain : exceptionStatus exception.providerException ≠
                .ambiguous) :
              ¬ RecordsCertainty claimed intent capabilityId
                (.response statusCode body retryAfter) now := by
            rw [recordsCertainty_raised found (effect.trans raised), not_or,
              unrefused]
            exact ⟨Bool.false_ne_true, certain⟩
          have answered : HttpAnswer.Recordable
              (.response statusCode body retryAfter) ↔
                ∃ items sid, body = some (.dict items) ∧
                  Value.get? items "sid" = some sid ∧
                  (sid.truthy = true → bindable sid = true ∧
                    bindable ((Value.get? items "status").getD
                      (.str "queued")) = true) := by
            rw [HttpAnswer.Recordable, or_iff_right (by omega),
              and_iff_right inside]
          rw [answered]
          cases body with
          | none =>
              exact iff_of_false (closed (.valueError _) rfl (by decide))
                (by rintro ⟨_, _, none, _⟩; cases none)
          | some value =>
              cases value with
              | dict items =>
                  cases named : Value.get? items "sid" with
                  | none =>
                      apply iff_of_false
                      · apply closed (.keyError "sid") _ (by decide)
                        rw [createdEffect, named]
                      · rintro ⟨_, _, same, present, _⟩
                        cases same
                        cases named.symm.trans present
                  | some sid =>
                      have created : createdEffect capabilityId
                          (some (.dict items)) = .ok (.dict
                            [("provider", .str "twilio"),
                              ("capability_id", .str capabilityId),
                              ("provider_id", sid),
                              ("status", (Value.get? items "status").getD
                                (.str "queued"))]) := by
                        rw [createdEffect, named]
                      rw [recordsCertainty_created found unsettled unrefused
                        (effect.trans created) rfl rfl]
                      constructor
                      · intro stored
                        exact ⟨items, sid, rfl, named, stored⟩
                      · rintro ⟨_, _, same, present, stored⟩
                        cases same
                        obtain rfl := Option.some.inj (named.symm.trans present)
                        exact stored
              | none | bool | int | float | str | list | object =>
                  exact iff_of_false (closed .typeError rfl (by decide))
                    (by rintro ⟨_, _, same, _⟩; cases same)

theorem claim_empty (intent : Intent) (now : Int) :
    ∃ claimed, claim Table.empty intent now = .ok claimed :=
  ⟨_, rfl⟩

theorem recordsCertainty_iff_created : ∃ claimed,
    claim Table.empty messageIntent 0 = .ok claimed ∧
      RecordsCertainty claimed messageIntent "twilio.sms.send"
        (.response 201 (some (.dict [("sid", .str "SM1")])) none) 1 := by
  obtain ⟨claimed, claims⟩ := claim_empty messageIntent 0
  refine ⟨claimed, claims, (recordsCertainty_iff _ claimed messageIntent
    "twilio.sms.send" _ 0 1 claims).mpr (.inr ⟨by decide, _, .str "SM1", rfl,
      rfl, fun _ => ⟨rfl, rfl⟩⟩)⟩

/-- Twilio may have sent the message when it answers with a server error; the
ledger has it rejected. -/
theorem server_error_rejected : ∃ claimed,
    claim Table.empty messageIntent 0 = .ok claimed ∧
      ¬ RecordsCertainty claimed messageIntent "twilio.sms.send"
        (.response 500 none none) 1 := by
  obtain ⟨claimed, claims⟩ := claim_empty messageIntent 0
  obtain ⟨_, found, _⟩ := claimed_status claims
  refine ⟨claimed, claims, ?_⟩
  rw [recordsCertainty_raised found rfl]
  decide

end AcpTask.Broker
