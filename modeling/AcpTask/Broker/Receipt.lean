import AcpTask.Workflow.Executor

namespace AcpTask.Broker

open Data Workflow

def forbiddenReceiptKeys : List String :=
  ["access_token", "refresh_token", "authorization", "token"]

def maxReceiptDepth : Nat := 8

def maxReceiptItems : Nat := 1000

def maxReceiptSerializedBytes : Nat := 64 * 1024

/-- `str.casefold` as far as it reaches ASCII: the letters of other scripts that
fold to ASCII letters do, any other character stays as it is. -/
def casefoldChar (char : Char) : List Char :=
  match char with
  | '\u00df' | '\u1e9e' => ['s', 's']
  | '\u017f' => ['s']
  | '\u212a' => ['k']
  | '\ufb00' => ['f', 'f']
  | '\ufb01' => ['f', 'i']
  | '\ufb02' => ['f', 'l']
  | '\ufb03' => ['f', 'f', 'i']
  | '\ufb04' => ['f', 'f', 'l']
  | '\ufb05' | '\ufb06' => ['s', 't']
  | char => [char.toLower]

def casefold (text : String) : String :=
  String.ofList (text.toList.flatMap casefoldChar)

mutual
/-- `inspect`, with the number of items seen so far. -/
def inspect (depth count : Nat) : Value → Except String Nat
  | .dict items =>
      if maxReceiptDepth < depth then
        .error "provider result exceeds receipt depth limit"
      else if maxReceiptItems < count + items.length then
        .error "provider result exceeds receipt item limit"
      else inspectItems (depth + 1) (count + items.length) items
  | .list items =>
      if maxReceiptDepth < depth then
        .error "provider result exceeds receipt depth limit"
      else if maxReceiptItems < count + items.length then
        .error "provider result exceeds receipt item limit"
      else inspectList (depth + 1) (count + items.length) items
  | _ =>
      if maxReceiptDepth < depth then
        .error "provider result exceeds receipt depth limit"
      else .ok count

def inspectList (depth count : Nat) : List Value → Except String Nat
  | [] => .ok count
  | item :: items =>
      match inspect depth count item with
      | .ok count => inspectList depth count items
      | .error message => .error message

def inspectItems (depth count : Nat) :
    List (String × Value) → Except String Nat
  | [] => .ok count
  | (key, item) :: items =>
      if forbiddenReceiptKeys.contains (casefold key) then
        .error "provider result contains forbidden authority material"
      else match inspect depth count item with
        | .ok count => inspectItems depth count items
        | .error message => .error message
end

def jsonCharSize (char : Char) : Nat :=
  if ['"', '\\', '\n', '\r', '\t', '\x08', '\x0c'].contains char then 2
  else if char.toNat < 32 then 6
  else char.utf8Size

def jsonStringSize (text : String) : Nat :=
  2 + (text.toList.map jsonCharSize).sum

mutual
/-- The bytes `json.dumps` writes; none for a value it refuses. -/
def jsonSize : Value → Option Nat
  | .none => some 4
  | .bool value => some (if value then 4 else 5)
  | .int value => some (toString value).length
  | .float (.finite _ repr) => some repr.length
  | .float _ => Option.none
  | .str value => some (jsonStringSize value)
  | .list items => (jsonListSize items).map fun size =>
      2 + (items.length - 1) + size
  | .dict items => (jsonItemsSize items).map fun size =>
      2 + (items.length - 1) + size
  | .object _ => Option.none

def jsonListSize : List Value → Option Nat
  | [] => some 0
  | item :: items =>
      match jsonSize item, jsonListSize items with
      | some first, some rest => some (first + rest)
      | _, _ => Option.none

def jsonItemsSize : List (String × Value) → Option Nat
  | [] => some 0
  | (key, item) :: items =>
      match jsonSize item, jsonItemsSize items with
      | some first, some rest => some (jsonStringSize key + 1 + first + rest)
      | _, _ => Option.none
end

/-- The receipt a provider's result becomes, or the message of its
`ValueError`. -/
def safeReceipt (value : Value) : Except String Value :=
  match value with
  | .dict items =>
      match inspect 0 0 (.dict items) with
      | .error message => .error message
      | .ok _ =>
          match jsonSize (.dict items) with
          | none => .error "provider result must be JSON-safe"
          | some size =>
              if maxReceiptSerializedBytes < size then
                .error "provider result exceeds receipt size limit"
              else .ok (.dict items)
  | _ => .error "provider result must be a filtered object or receipt"

inductive BrokerException where
  | slackRateLimitError (retryAfter : Int)
  | slackAPIError (code category : String)
  | providerNetworkError (retryAfter : Option Int)
  | providerError (name : String) (retryAfter : Option Int)
  | managedOAuthError (name : String)
  | permissionError (message : String)
  | keyError (key : String)
  | valueError (message : String)
  | other (name : String)

/-- The classes the `except` clause of `execute` names. -/
def BrokerException.caught : BrokerException → Bool
  | .other _ => false
  | _ => true

def BrokerException.network : BrokerException → Bool
  | .providerNetworkError _ => true
  | _ => false

/-- What `fail_execution` records of it. -/
def BrokerException.text : BrokerException → String
  | .slackRateLimitError _ => "slack is rate limited"
  | .slackAPIError code _ => "slack failed: " ++ code
  | .providerNetworkError _ => "provider could not be reached"
  | .providerError name _ | .managedOAuthError name | .other name => name
  | .permissionError message | .valueError message => message
  | .keyError key => "'" ++ key ++ "'"

structure BrokerBody where
  error : Option String := none
  outcomeCertainty : Option String := none
  category : Option String := none
  retryAfter : Option Int := none
  recovery : Option String := none
  errorClass : Option String := none
  mismatchedFields : List String := []
  status : Option String := none
  deferredUntil : Option Int := none
  receipt : Option Value := none
  executionAttestation : Option Value := none
  evidenceStatus : Option String := none

structure BrokerResponse where
  status : Nat
  body : BrokerBody

def slackStatus (category : String) : Nat :=
  if category = "auth" || category = "scope" || category = "permission" ||
      category = "membership" then 403
  else if category = "validation" then 422
  else if category = "provider" then 409
  else if category = "transient" then 503
  else 409

def safeBody : BrokerBody where
  error := some "provider operation failed safely"
  outcomeCertainty := some "safe"

def safeProviderError : BrokerException → BrokerResponse
  | .slackRateLimitError retryAfter =>
      ⟨429, { safeBody with
        error := some "rate_limited", category := some "rate_limit"
        retryAfter := some retryAfter }⟩
  | .slackAPIError code category =>
      ⟨slackStatus category, { safeBody with
        error := some code, category := some category }⟩
  | .permissionError _ => ⟨403, safeBody⟩
  | .providerNetworkError retryAfter => ⟨503, { safeBody with retryAfter }⟩
  | .keyError _ =>
      ⟨403, { safeBody with
        error := some "credential_unavailable", category := some "auth"
        recovery := some "reconnect_integration" }⟩
  | .providerError name retryAfter =>
      ⟨502, { safeBody with retryAfter, errorClass := some name }⟩
  | .managedOAuthError name | .other name =>
      ⟨502, { safeBody with errorClass := some name }⟩
  | .valueError _ => ⟨502, { safeBody with errorClass := some "ValueError" }⟩

inductive RetryPolicy where
  | safe
  | idempotent
  | reconcile
  deriving DecidableEq

def idempotentWrites : List String :=
  ["slack.reaction.add", "slack.reaction.remove", "slack.message.pin",
    "slack.message.unpin"]

def capabilityRetryPolicy (capabilityId : String) (effect : StepEffect) :
    RetryPolicy :=
  if effect = .read then .safe
  else if idempotentWrites.contains capabilityId then .idempotent
  else .reconcile

/-- `text or default`. -/
def textOr (text : Option String) (default : String) : String :=
  match text with
  | none | some "" => default
  | some text => text

def correctableCategories : List String :=
  ["scope", "membership", "permission", "validation", "provider"]

def raiseForBrokerFailure (response : BrokerResponse) (effect : StepEffect)
    (policy : RetryPolicy) : DispatchOutcome :=
  let body := response.body
  let repeatable := effect != .write || policy == .idempotent
  if response.status = 202 then
    if repeatable then
      .retryableStepError
        "provider outcome is unknown but the effect is repeatable" none
    else .ambiguousStepError "provider outcome requires reconciliation"
  else if 500 ≤ response.status then
    if !repeatable && body.outcomeCertainty != some "safe" then
      .ambiguousStepError "provider write outcome requires reconciliation"
    else
      .retryableStepError "provider is temporarily unavailable" body.retryAfter
  else if response.status = 429 then
    .retryableStepError "provider is rate limited" body.retryAfter
  else match body.category.filter correctableCategories.contains with
    | some category =>
        .correctableStepError
          (category ++ ":" ++ textOr body.error "provider_rejected")
    | none =>
        if response.status = 422 then
          .correctableStepError
            (textOr body.error "broker rejected the request schema")
        else
          .permissionError
            (textOr body.error "broker rejected the live authorization")

def brokerOutcome (response : BrokerResponse) (capabilityId : String)
    (effect : StepEffect) : DispatchOutcome :=
  if response.status = 200 then
    .returned {
      receipt := response.body.receipt.getD (.dict [])
      output := response.body.receipt.getD (.dict [])
      attestation := response.body.executionAttestation.getD .none }
  else
    raiseForBrokerFailure response effect
      (capabilityRetryPolicy capabilityId effect)

end AcpTask.Broker
