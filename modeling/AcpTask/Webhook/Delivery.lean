import AcpTask.Webhook.Events
import AcpTask.Workflow.Calls

namespace AcpTask.Webhook

open Workflow

/-! Callbacks of the provider, translated into delivery truth on the
verification axis of a step. -/

def deliveredStatuses : List String := ["delivered", "read", "completed"]

def failedStatuses : List String :=
  ["undelivered", "failed", "busy", "no-answer", "canceled"]

def deadAddressCodes : List String :=
  ["21211", "21612", "21614", "30003", "30005", "30006"]

def providerOptoutCodes : List String := ["21610"]

/-- What the service is handed of an effect; its verification status is the one
its caller read. -/
structure DeliveryEffect where
  effectId : String
  tenantId : String
  workflowRevisionId : String
  stepId : String
  addressId : String
  channel : String
  acceptedAt : Int
  verificationStatus : Option VerificationStatus := none
  conversationClosed : Bool := false
  deriving DecidableEq

def DeliveryEffect.step (effect : DeliveryEffect) : StepKey :=
  (effect.workflowRevisionId, effect.stepId)

abbrev DeliveryEffect.message (effect : DeliveryEffect) : String × String :=
  (effect.tenantId, effect.effectId)

/-- The calls of the two writers; the source of a suppression is
`twilio_callback`. -/
inductive DeliveryCall where
  | suppress (tenantId addressId channel state reasonCode : String)
  | correct (tenantId effectId : String)
      (verificationStatus : VerificationStatus) (providerStatus : String)

structure DeliveryService where
  suppressionWriter : Bool := false
  correctionWriter : Bool := false
  returns : DeliveryCall → Bool := fun _ => true
  deadlines : List (String × Int) :=
    [("sms", 24 * 60 * 60), ("whatsapp", 24 * 60 * 60), ("voice", 2 * 60 * 60)]

inductive DeliveryError where
  | keyError (name : String)
  | raised

def verificationOf (status : String) : VerificationStatus :=
  if deliveredStatuses.contains status then .verified
  else if failedStatuses.contains status then .failed
  else .pending

namespace DeliveryService

variable (service : DeliveryService)

def suppressions (effect : DeliveryEffect) (verification : VerificationStatus)
    (errorCode : Option String) : List DeliveryCall :=
  if verification = .failed && service.suppressionWriter then
    if errorCode.any providerOptoutCodes.contains then
      [.suppress effect.tenantId effect.addressId effect.channel
        "suppressed_by_optout" "provider_optout"]
    else if errorCode.any deadAddressCodes.contains then
      [.suppress effect.tenantId effect.addressId effect.channel
        "suppressed_by_bounce" "carrier_rejection"]
    else []
  else []

def corrections (effect : DeliveryEffect) (verification : VerificationStatus)
    (providerStatus : String) : List DeliveryCall :=
  if service.correctionWriter && effect.conversationClosed then
    [.correct effect.tenantId effect.effectId verification providerStatus]
  else []

def make : List DeliveryCall → Bool × List DeliveryCall
  | [] => (true, [])
  | call :: rest =>
      if service.returns call then ((make rest).1, call :: (make rest).2)
      else (false, [call])

def apply (store : WorkflowStore) (effect : DeliveryEffect) (status : String)
    (errorCode : Option String) :
    Except DeliveryError VerificationStatus × WorkflowStore ×
      List DeliveryCall :=
  let verification := verificationOf status
  if verification = .pending then (.ok verification, store, [])
  else
    let made := service.make
      (service.suppressions effect verification errorCode ++
        service.corrections effect verification status)
    (if made.1 then .ok verification else .error .raised,
      setVerificationStatus store effect.step effect.tenantId verification,
      made.2)

/-- The status and the deadline are the ones of the effect handed over, not
those of the step. -/
def expire (now : Int) (store : WorkflowStore) :
    List DeliveryEffect → Except DeliveryError (List String) ×
      WorkflowStore × List DeliveryCall
  | [] => (.ok [], store, [])
  | effect :: rest =>
      match service.deadlines.lookup effect.channel with
      | none => (.error (.keyError effect.channel), store, [])
      | some allowed =>
          if effect.verificationStatus = some .pending ∧
              effect.acceptedAt + allowed ≤ now then
            let written := setVerificationStatus store effect.step
              effect.tenantId .inconclusive
            let made := service.make
              (service.corrections effect .inconclusive "deadline_elapsed")
            if made.1 then
              let later := expire now written rest
              (later.1.map (effect.effectId :: ·), later.2.1,
                made.2 ++ later.2.2)
            else (.error .raised, written, made.2)
          else expire now store rest

end DeliveryService

structure DeliveryState where
  ledger : EventStore
  workflows : WorkflowStore

structure Callback where
  effect : DeliveryEffect
  status : String
  errorCode : Option String := none
  eventKey : String
  providerId : Option String := none
  identityAddress : String
  payload : List (String × String) := []
  receivedAt : Int

def Callback.event (callback : Callback) : ProviderEvent where
  tenantId := callback.effect.tenantId
  eventKey := callback.eventKey
  effectId := some callback.effect.effectId
  providerId := callback.providerId
  identityAddress := callback.identityAddress
  eventType := .status
  status := some callback.status
  payload := callback.payload
  receivedAt := callback.receivedAt

inductive DeliveryAction where
  | callback (callback : Callback)
  | expire (effects : List DeliveryEffect) (now : Int)
  | repository (backend : Backend) (call : RepositoryCall)

def deliveryStep (service : DeliveryService) (digests : Digests)
    (state : DeliveryState) : DeliveryAction → DeliveryState
  | .callback callback => {
      ledger := (record state.ledger callback.event).2
      workflows := (service.apply state.workflows callback.effect
        callback.status callback.errorCode).2.1 }
  | .expire effects now =>
      { state with
        workflows := (service.expire now state.workflows effects).2.1 }
  | .repository backend call =>
      { state with
        workflows := repositoryStep backend digests state.workflows call }

end AcpTask.Webhook
