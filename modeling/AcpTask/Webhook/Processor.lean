import AcpTask.Library.Run
import AcpTask.Webhook.Events

namespace AcpTask.Webhook

open Library

structure Correlation where
  tenantId : String
  effectId : String
  identityAddress : String

structure WebhookRequest where
  exactUrl : String
  signature : Option String
  formPairs : List (String × String)

structure WebhookConfig where
  queryToken : String → Option String
  decodeToken : String → Option Correlation
  identityOwner : Option
    (Option String → Option String → Option (Option String))
  authToken : String → String → Option String
  validSignature : String → Option String → String →
    List (String × String) → Option Bool
  formDigest : List (String × String) → String
  /-- `text.strip().casefold()`. -/
  foldText : String → String
  suppressionWriter : Bool
  sessionWindowWriter : Bool

inductive WebhookAnswer where
  | refused (status : Nat) (error : String)
  | accepted (duplicate : Bool)
  deriving DecidableEq

/-- What the suppression writer is called with, for the source
`twilio_keyword` and restrictively. -/
structure Suppression where
  tenantId : String
  address : Option String
  channel : String
  deriving DecidableEq

structure SessionWindow where
  tenantId : String
  address : Option String
  sender : Option String
  sourceEventKey : String

def optOut : List String :=
  ["stop", "stopall", "unsubscribe", "cancel", "end", "quit"]

def truthy (text : Option String) : Bool := text != none && text != some ""

/-- `first or second`. -/
def orText (first second : Option String) : Option String :=
  if truthy first then first else second

namespace WebhookRequest

/-- `dict(form_pairs).get(name)`. -/
def field (request : WebhookRequest) (name : String) : Option String :=
  request.formPairs.reverse.lookup name

def status (request : WebhookRequest) : Option String :=
  orText (request.field "MessageStatus") (request.field "CallStatus")

def providerId (request : WebhookRequest) : Option String :=
  orText (request.field "MessageSid") (request.field "CallSid")

def eventType (request : WebhookRequest) : EventType :=
  if truthy request.status then .status else .inboundMessage

def eventTypeText : EventType → String
  | .status => "status"
  | .inboundMessage => "inbound_message"

def eventKey (request : WebhookRequest) (config : WebhookConfig) : String :=
  let stable := (orText (request.field "EventSid")
    (orText request.providerId
      (some (config.formDigest request.formPairs)))).getD ""
  stable ++ ":" ++ eventTypeText request.eventType ++ ":" ++
    (orText request.status (some "received")).getD ""

def fromWhatsapp (request : WebhookRequest) : Bool :=
  "whatsapp:".toList.isPrefixOf ((request.field "From").getD "").toList

def suppression (request : WebhookRequest) (tenantId : String) :
    Suppression where
  tenantId := tenantId
  address := request.field "From"
  channel := if request.fromWhatsapp then "whatsapp" else "sms"

def asksToStop (request : WebhookRequest) (config : WebhookConfig) : Bool :=
  optOut.contains (config.foldText ((request.field "Body").getD ""))

end WebhookRequest

def authenticate (config : WebhookConfig) (request : WebhookRequest) (now : Int) :
    Option (Except WebhookAnswer ProviderEvent) := do
  let token := orText (request.field "AcpToken")
    (config.queryToken request.exactUrl)
  let correlation ←
    if truthy token then (config.decodeToken (token.getD "")).map some
    else some none
  let identity := orText (orText (request.field "To") (request.field "From"))
    (correlation.map Correlation.identityAddress)
  let named := correlation.map Correlation.tenantId
  let tenantId ←
    match config.identityOwner with
    | some resolve =>
        if truthy named then some named
        else resolve identity (request.field "Timestamp")
    | none => some named
  if !truthy tenantId || !truthy identity then
    return .error (.refused 404 "identity_not_attributable")
  let authToken ← config.authToken (tenantId.getD "") (identity.getD "")
  let valid ← config.validSignature authToken request.signature
    request.exactUrl request.formPairs
  if !valid then return .error (.refused 403 "invalid_signature")
  return .ok {
    tenantId := tenantId.getD ""
    eventKey := request.eventKey config
    effectId := correlation.map Correlation.effectId
    providerId := request.providerId
    identityAddress := identity.getD ""
    eventType := request.eventType
    status := request.status
    payload := request.formPairs
    receivedAt := now }

structure WebhookState where
  store : EventStore
  suppressions : List Suppression
  windows : List SessionWindow

def WebhookState.initial : WebhookState := ⟨EventStore.empty, [], []⟩

/-- Where a delivery ends that is never answered: something raises there, or the
process crashes. -/
inductive Halt where
  | beforeRecord
  | beforeSuppression
  | beforeWindow
  | beforeAnswer
  deriving DecidableEq

structure Delivery where
  request : WebhookRequest
  now : Int
  halt : Option Halt := none

def suppress (config : WebhookConfig) (state : WebhookState)
    (request : WebhookRequest) (event : ProviderEvent) (inserted : Bool) :
    WebhookState :=
  if inserted && event.eventType == .inboundMessage &&
      request.asksToStop config && config.suppressionWriter then
    { state with
      suppressions := request.suppression event.tenantId :: state.suppressions }
  else state

def openWindow (config : WebhookConfig) (state : WebhookState)
    (request : WebhookRequest) (event : ProviderEvent) (inserted : Bool) :
    WebhookState :=
  if inserted && event.eventType == .inboundMessage &&
      config.sessionWindowWriter && request.fromWhatsapp then
    { state with
      windows := ⟨event.tenantId, request.field "From", request.field "To",
        event.eventKey⟩ :: state.windows }
  else state

def applyEvent (config : WebhookConfig) (state : WebhookState)
    (delivery : Delivery) (event : ProviderEvent) (inserted : Bool) :
    Option WebhookAnswer × WebhookState :=
  let suppressed := suppress config state delivery.request event inserted
  let opened := openWindow config suppressed delivery.request event inserted
  if delivery.halt = some .beforeSuppression then (none, state)
  else if delivery.halt = some .beforeWindow then (none, suppressed)
  else if delivery.halt = some .beforeAnswer then (none, opened)
  else (some (.accepted (!inserted)), opened)

def process (config : WebhookConfig) (state : WebhookState)
    (delivery : Delivery) : Option WebhookAnswer × WebhookState :=
  match authenticate config delivery.request delivery.now with
  | none => (none, state)
  | some (.error answer) =>
      (if delivery.halt = none then some answer else none, state)
  | some (.ok event) =>
      if delivery.halt = some .beforeRecord then (none, state)
      else
        let recorded := record state.store event
        applyEvent config { state with store := recorded.2 } delivery event
          recorded.1

def webhookRun (config : WebhookConfig) (deliveries : List Delivery) :
    WebhookState :=
  run (fun state delivery => (process config state delivery).2)
    WebhookState.initial deliveries

section Frame

variable (config : WebhookConfig) (state : WebhookState)
  (request : WebhookRequest) (event : ProviderEvent) (inserted : Bool)

@[simp] theorem suppress_store :
    (suppress config state request event inserted).store = state.store := by
  unfold suppress
  split <;> rfl

@[simp] theorem openWindow_store :
    (openWindow config state request event inserted).store = state.store := by
  unfold openWindow
  split <;> rfl

@[simp] theorem openWindow_suppressions :
    (openWindow config state request event inserted).suppressions =
      state.suppressions := by
  unfold openWindow
  split <;> rfl

end Frame

end AcpTask.Webhook
