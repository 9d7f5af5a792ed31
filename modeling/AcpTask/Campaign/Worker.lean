import AcpTask.Campaign.Repository
import AcpTask.Library.Run

namespace AcpTask.Campaign

open Library

variable (config : WorkerConfig) (system : CampaignSystem)

/-! One tick of a worker, and the other processes that share its store, cut at
every statement and at every question put to something outside it. -/

inductive Decision where
  | allowed
  | deferred (deferUntil : Int) (reason : Option String)
  | denied (reason : Option String)

/-- How the dispatch callable ended; any exception the tick does not catch is a
crash. -/
inductive DispatchOutcome where
  | sent (providerId : Option String)
  | throughputExceeded (retryAt : Int)
  | spendCeilingExceeded (reason : String)
  | ambiguousDispatch
  | timeoutError
  | providerNetworkError
  | providerHTTPError

inductive Statement where
  | setStatus (status : CampaignStatus)
  | drainRemaining (reason : String)
  | finalize
  | finalizeStatus (status : CampaignStatus)

inductive Phase where
  | idle
  | selecting (tick : Int)
  | selected (tick : Int) (key : String × String)
  | loaded (tick : Int) (campaign : CampaignRow)
  | changed (key : String × String)
  | bound (tick : Int) (campaign : CampaignRow)
  | unentitled (key : String × String)
  | entitled (tick : Int) (campaign : CampaignRow)
  | overdue (tick : Int) (key : String × String)
  | current (tick : Int) (campaign : CampaignRow)
  | halting (key : String × String)
  | unstopped (tick : Int) (campaign : CampaignRow)
  | reviving (tick : Int) (campaign : CampaignRow)
  | ready (tick : Int) (campaign : CampaignRow)
  | holding (campaign : CampaignRow) (effect : Effect)
  | cleared (campaign : CampaignRow) (effect : Effect)
  | dispatching (campaign : CampaignRow) (effect : Effect)
  | settling (key : String × String) (effect : Effect)
      (completion : Completion) (rest : List Statement)
  | finishing (key : String × String) (rest : List Statement)
  | pausing (key : String × String)
  | resuming (key : String × String)
  | reaffirming (key : String × String) (principalId : String)
  | admitting (campaign : CampaignRow) (member : Member)

inductive Answer where
  | proceed
  | permitted (value : Bool)
  | emergencyStopped (value : Bool)
  | connectionAvailable (value : Bool)
  | decision (value : Decision)
  | throughput (retryAt : Option Int)
  | dispatched (outcome : DispatchOutcome)

inductive CampaignEvent where
  | claimed (key : EffectKey)
  | invoked (key : EffectKey)
  | throttled (key : EffectKey)
  | halted (key : String × String)
  | resumed (key : String × String)
  deriving DecidableEq

structure CampaignSystem where
  store : CampaignStore
  processes : Nat → Phase
  events : List CampaignEvent

def CampaignSystem.initial : CampaignSystem :=
  ⟨CampaignStore.empty, fun _ => .idle, []⟩

structure WorkerConfig where
  hashing : Hashing
  workerId : Nat → String
  leaseSeconds : Nat → Int

def CampaignSystem.move (process : Nat) (phase : Phase) : CampaignSystem :=
  { system with processes := Function.update system.processes process phase }

def CampaignSystem.write (store : CampaignStore) : CampaignSystem :=
  { system with store }

def CampaignSystem.log (event : CampaignEvent) : CampaignSystem :=
  { system with events := event :: system.events }

def CampaignSystem.halt (key : String × String) (store : CampaignStore) :
    CampaignSystem :=
  if (system.store.campaigns.find? key).isSome then
    (system.write store).log (.halted key)
  else system.write store

def outcomeSettling (key : String × String) (effect : Effect) :
    DispatchOutcome → Phase
  | .sent providerId =>
      .settling key effect
        { status := .completed, providerId, countAttempt := true } [.finalize]
  | .throughputExceeded retryAt =>
      .settling key effect
        { status := .deferred, reason := some "throughput_limited",
          deferUntil := some retryAt } [.setStatus .throttled]
  | .spendCeilingExceeded reason =>
      .settling key effect { status := .prevented, reason := some reason }
        [.drainRemaining reason, .finalize]
  | .ambiguousDispatch | .timeoutError | .providerNetworkError =>
      .settling key effect
        { status := .uncertain, reason := some "provider_outcome_unknown",
          countAttempt := true } [.finalize]
  | .providerHTTPError =>
      .settling key effect
        { status := .prevented, reason := some "provider_rejected",
          countAttempt := true } [.finalize]

def decisionPhase (campaign : CampaignRow) (effect : Effect) :
    Decision → Phase
  | .allowed => .cleared campaign effect
  | .deferred deferUntil reason =>
      match campaign.envelopeExpiresAt with
      | none => .idle
      | some expiry =>
          if expiry < deferUntil then
            .settling campaign.key effect { status := .neverEligible, reason }
              [.finalize]
          else
            .settling campaign.key effect
              { status := .deferred, reason, deferUntil := some deferUntil }
              [.setStatus .deferredQuietHours]
  | .denied reason =>
      .settling campaign.key effect
        { status := .prevented
          reason := if reason = none ∨ reason = some "" then some "ineligible"
            else reason } [.finalize]

def executeStatement (process : Nat) (key : String × String)
    (rest : List Statement) (now : Int) :
    Statement → CampaignSystem
  | .setStatus status =>
      (system.write (setStatus system.store key status now)).move process
        (.finishing key rest)
  | .drainRemaining reason =>
      (system.write (drainRemaining system.store key reason now)).move process
        (.finishing key rest)
  | .finalize =>
      match finalStatus system.store key with
      | none => system.move process (.finishing key rest)
      | some status =>
          system.move process (.finishing key (.finalizeStatus status :: rest))
  | .finalizeStatus status =>
      match system.store.campaigns.find? key with
      | none => system.move process .idle
      | some campaign =>
          if campaign.status.ended then
            system.move process (.finishing key rest)
          else system.move process (.finishing key (.setStatus status :: rest))

def advance (process : Nat) (answer : Answer) (now : Int) : CampaignSystem :=
  match system.processes process, answer with
  | .selecting tick, .proceed =>
      match nextCampaign system.store with
      | none => system.move process .idle
      | some key => system.move process (.selected tick key)
  | .selected tick key, .proceed =>
      match system.store.campaigns.find? key with
      | none => system.move process .idle
      | some campaign => system.move process (.loaded tick campaign)
  | .loaded tick campaign, .proceed =>
      match system.store.campaigns.find? campaign.key with
      | none => system.move process .idle
      | some row =>
          if envelopeHolds config.hashing system.store row
              campaign.definition then
            system.move process (.bound tick campaign)
          else system.move process (.changed campaign.key)
  | .changed key, .proceed =>
      (system.halt key (invalidate system.store key now)).move process .idle
  | .bound tick campaign, .permitted true =>
      system.move process (.entitled tick campaign)
  | .bound _ campaign, .permitted false =>
      system.move process (.unentitled campaign.key)
  | .unentitled key, .proceed =>
      let store := requireReaffirmation system.store key 86400 now
      if ((system.store.campaigns.find? key).filter fun row =>
          pausable row.status).isSome then
        (system.halt key store).move process .idle
      else (system.write store).move process .idle
  | .entitled tick campaign, .proceed =>
      match (system.store.campaigns.find? campaign.key).bind
          CampaignRow.envelopeExpiresAt with
      | none => system.move process .idle
      | some expiry =>
          if tick ≤ expiry then system.move process (.current tick campaign)
          else system.move process (.overdue tick campaign.key)
  | .overdue tick key, .proceed =>
      (system.halt key (expire system.store key tick)).move process .idle
  | .current _ campaign, .emergencyStopped true =>
      system.move process (.halting campaign.key)
  | .current tick campaign, .emergencyStopped false =>
      system.move process (.unstopped tick campaign)
  | .halting key, .proceed =>
      (system.halt key (stop system.store key "emergency_stopped" now)).move
        process .idle
  | .unstopped _ campaign, .connectionAvailable false =>
      system.move process
        (.finishing campaign.key [.setStatus .blockedConnection])
  | .unstopped tick campaign, .connectionAvailable true =>
      if campaign.status = .blockedConnection then
        system.move process (.reviving tick campaign)
      else system.move process (.ready tick campaign)
  | .reviving tick campaign, .proceed =>
      (system.write (setStatus system.store campaign.key .running now)).move
        process (.ready tick campaign)
  | .ready tick campaign, .proceed =>
      match claimNext system.store (config.workerId process) tick
          (config.leaseSeconds process) (some campaign.key) with
      | (none, _) => system.move process (.finishing campaign.key [.finalize])
      | (some effect, store) =>
          ((system.write store).log (.claimed effect.key)).move process
            (.holding campaign effect)
  | .holding campaign effect, .decision value =>
      system.move process (decisionPhase campaign effect value)
  | .cleared campaign effect, .throughput none =>
      (system.log (.invoked effect.key)).move process
        (.dispatching campaign effect)
  | .cleared campaign effect, .throughput (some retryAt) =>
      system.move process
        (outcomeSettling campaign.key effect (.throughputExceeded retryAt))
  | .dispatching campaign effect, .dispatched (.throughputExceeded retryAt) =>
      (system.log (.throttled effect.key)).move process
        (outcomeSettling campaign.key effect (.throughputExceeded retryAt))
  | .dispatching campaign effect, .dispatched outcome =>
      system.move process (outcomeSettling campaign.key effect outcome)
  | .settling key effect completion rest, .proceed =>
      (system.write (completeEffect system.store effect completion now).2).move
        process (.finishing key rest)
  | .finishing key (statement :: rest), .proceed =>
      executeStatement system process key rest now statement
  | .finishing _ [], .proceed => system.move process .idle
  | .pausing key, .proceed =>
      (system.halt key (setStatus system.store key .paused now)).move process
        .idle
  | .resuming key, .proceed =>
      ((system.write (setStatus system.store key .running now)).log
        (.resumed key)).move process .idle
  | .reaffirming key principalId, .proceed =>
      let result := reaffirm system.store key principalId now
      if result.1 then
        ((system.write result.2).log (.resumed key)).move process .idle
      else (system.write result.2).move process .idle
  | .admitting campaign member, .proceed =>
      (system.write (addLateAudienceMember system.store campaign member
        now).2).move process .idle
  | _, _ => system

inductive CampaignAction where
  | beginTick (process : Nat) (now : Int)
  | advance (process : Nat) (answer : Answer) (now : Int)
  | crash (process : Nat)
  | recoverExpiredClaims (now : Int)
  | createPreview (key : String × String) (principalId : String)
      (definition : Definition) (audience : List Member)
      (exclusions : List Exclusion)
      (estimatedSpendMicros approvalTtlSeconds now : Int)
  | authorize (key : String × String) (principalId : String)
      (permitted : Bool) (now : Int)
  | assertEnvelope (process : Nat) (key : String × String)
      (definition : Definition)
  | expire (process : Nat) (key : String × String) (now : Int)
  | stop (key : String × String) (reason : String) (now : Int)
  | reconcile (process : Nat) (key : EffectKey) (verdict : String)
      (providerId : Option String) (now : Int)
  | pause (process : Nat) (key : String × String)
  | resume (process : Nat) (key : String × String)
  | reaffirm (process : Nat) (key : String × String) (principalId : String)
      (permitted : Bool) (now : Int)
  | addLateAudienceMember (process : Nat) (key : String × String)
      (member : Member)

def CampaignSystem.start (process : Nat) (key : String × String)
    (next : CampaignRow → Option Phase) : CampaignSystem :=
  match system.processes process,
      (system.store.campaigns.find? key).bind next with
  | .idle, some phase => system.move process phase
  | _, _ => system

def campaignStep :
    CampaignAction → CampaignSystem
  | .beginTick process now =>
      match system.processes process with
      | .idle =>
          (system.write (recoverExpiredClaims system.store now)).move process
            (.selecting now)
      | _ => system
  | .advance process answer now => advance config system process answer now
  | .crash process => system.move process .idle
  | .recoverExpiredClaims now =>
      system.write (recoverExpiredClaims system.store now)
  | .createPreview key principalId definition audience exclusions
      estimatedSpendMicros approvalTtlSeconds now =>
      system.write (createPreview config.hashing system.store key principalId
        definition audience exclusions estimatedSpendMicros approvalTtlSeconds
        now).2
  | .authorize key principalId permitted now =>
      system.write (authorize config.hashing system.store key principalId
        permitted now).2
  | .assertEnvelope process key definition =>
      system.start process key fun row =>
        if envelopeHolds config.hashing system.store row definition then none
        else some (.changed key)
  | .expire process key now =>
      system.start process key fun row =>
        row.envelopeExpiresAt.bind fun expiry =>
          if now ≤ expiry then none else some (.overdue now key)
  | .stop key reason now => system.halt key (stop system.store key reason now)
  | .reconcile process key verdict providerId now =>
      match system.processes process with
      | .idle =>
          let result := reconcileEffect system.store key verdict providerId now
          if result.1 then
            (system.write result.2).move process
              (.finishing key.campaign [.finalize])
          else system
      | _ => system
  | .pause process key =>
      system.start process key fun row =>
        if row.status.selectable then some (.pausing key) else none
  | .resume process key =>
      system.start process key fun row =>
        if resumable row then some (.resuming key) else none
  | .reaffirm process key principalId permitted now =>
      system.start process key fun row =>
        if reaffirmable row now && permitted then
          some (.reaffirming key principalId)
        else none
  | .addLateAudienceMember process key member =>
      system.start process key fun row =>
        if admitsLate row then some (.admitting row member) else none

def campaignRun (actions : List CampaignAction) : CampaignSystem :=
  run (campaignStep config) CampaignSystem.initial actions

end AcpTask.Campaign
