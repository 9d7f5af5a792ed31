import AcpTask.Broker.Dispatch
import AcpTask.Workflow.Moves

namespace AcpTask.Broker

open Data Workflow

def DispatchPhase.job : DispatchPhase → Option Job
  | .idle | .answered _ | .dropped => none
  | .proposing job | .deciding job | .leasing job | .requested job _
  | .validated job _ _ | .consuming job _ | .spending job _ _
  | .restoring job _ | .opening job _ | .marking job _ | .calling job _
  | .failing job _ _ _ | .evidencing job _ _ | .completing job _ _ _ => some job

def DispatchPhase.delivered : DispatchPhase → Bool
  | .evidencing _ _ _ | .completing _ _ _ _ | .answered (.returned _)
  | .dropped => true
  | _ => false

inductive DispatchMove (answer : BrokerAnswer) :
    DispatchPhase → DispatchPhase → List CallEvent → Prop where
  | stays (phase : DispatchPhase) : DispatchMove answer phase phase []
  | goes {phase next : DispatchPhase} (job : Job)
      (working : phase.job = some job)
      (same : ∀ later, next.job = some later → later.claim = job.claim)
      (either : phase.delivered = false ∨ next.delivered = true) :
      DispatchMove answer phase next []
  | calls (job : Job) (proposal : ProposalKey) :
      DispatchMove answer (.marking job proposal)
        (.calling job (some proposal)) [.called job.claim.step]
  | returns (job : Job) (proposal : ProposalKey) (value : Value)
      (returned : answer = .returned value) :
      DispatchMove answer (.calling job (some proposal))
        (receiptPhase job (some proposal) value) [.succeeded job.claim.step]

section Dispatch

variable {answer : BrokerAnswer} {phase next : DispatchPhase} {job : Job}

theorem DispatchMove.ends (working : phase.job = some job)
    (ended : next.job = none)
    (either : phase.delivered = false ∨ next.delivered = true) :
    DispatchMove answer phase next [] := by
  refine .goes job working ?_ either
  intro later goesOn
  rw [ended] at goesOn
  cases goesOn

theorem DispatchMove.on {later : Job} (working : phase.job = some job)
    (goesOn : next.job = some later) (same : later.claim = job.claim)
    (either : phase.delivered = false ∨ next.delivered = true) :
    DispatchMove answer phase next [] := by
  refine .goes job working ?_ either
  intro other otherGoes
  rw [goesOn] at otherGoes
  cases otherGoes
  exact same

theorem DispatchMove.raise (working : phase.job = some job)
    (undelivered : phase.delivered = false) (proposal : Option ProposalKey)
    (exception : BrokerException) (started : Bool) :
    DispatchMove answer phase
      (exceptionPhase job proposal exception started) [] := by
  unfold exceptionPhase
  split
  · exact .on working rfl rfl (.inl undelivered)
  · exact .ends working rfl (.inl undelivered)

end Dispatch

theorem receiptPhase_job {proposal : Option ProposalKey} {value : Value}
    {job later : Job}
    (working : (receiptPhase job proposal value).job = some later) :
    later = job := by
  unfold receiptPhase at working
  split at working
  · cases working
    rfl
  · unfold exceptionPhase at working
    split at working
    · cases working
      rfl
    · cases working

theorem dispatchStep_move (config : BrokerConfig) (store : Action.ActionStore)
    (phase : DispatchPhase) (answer : BrokerAnswer) (now : Int) :
    DispatchMove answer phase (dispatchStep config store phase answer now).1
      (dispatchStep config store phase answer now).2.2 := by
  have stays : DispatchMove answer phase phase [] := .stays phase
  cases phase with
  | idle | answered | dropped => exact stays
  | proposing | consuming =>
      cases answer with
      | proceed =>
          simp only [dispatchStep]
          split
          · exact .ends rfl rfl (.inl rfl)
          · exact .on rfl rfl rfl (.inl rfl)
      | _ => exact stays
  | deciding =>
      cases answer with
      | proceed =>
          simp only [dispatchStep]
          split
          · exact .on rfl rfl rfl (.inl rfl)
          · exact .ends rfl rfl (.inl rfl)
      | _ => exact stays
  | leasing =>
      cases answer with
      | token =>
          simp only [dispatchStep]
          split
          · exact .ends rfl rfl (.inl rfl)
          · exact .on rfl rfl rfl (.inl rfl)
      | _ => exact stays
  | requested =>
      cases answer with
      | checks =>
          simp only [dispatchStep]
          split
          · exact .ends rfl rfl (.inl rfl)
          · split
            · exact .ends rfl rfl (.inl rfl)
            · exact .on rfl rfl rfl (.inl rfl)
      | _ => exact stays
  | validated _ _ sideEffecting =>
      cases answer with
      | live =>
          simp only [dispatchStep]
          split
          · exact .ends rfl rfl (.inl rfl)
          · cases sideEffecting
            · exact .on rfl rfl rfl (.inl rfl)
            · exact .on rfl rfl rfl (.inl rfl)
      | _ => exact stays
  | spending _ _ proposal =>
      cases answer with
      | proceed =>
          simp only [dispatchStep]
          split
          · exact .on rfl rfl rfl (.inl rfl)
          · cases proposal with
            | none => exact .ends rfl rfl (.inl rfl)
            | some => exact .on rfl rfl rfl (.inl rfl)
      | _ => exact stays
  | restoring | failing =>
      cases answer with
      | proceed => exact .ends rfl rfl (.inl rfl)
      | _ => exact stays
  | opening _ proposal =>
      cases answer with
      | raised exception => exact .raise rfl rfl proposal exception false
      | opened =>
          simp only [dispatchStep]
          split
          · exact .raise rfl rfl proposal _ false
          · cases proposal with
            | none | some => exact .on rfl rfl rfl (.inl rfl)
      | _ => exact stays
  | marking job proposal =>
      cases answer with
      | proceed =>
          simp only [dispatchStep]
          split
          · exact .calls job proposal
          · dsimp only
            exact .raise rfl rfl (some proposal) _ false
      | _ => exact stays
  | calling job proposal =>
      cases answer with
      | raised exception =>
          exact .raise rfl rfl proposal exception proposal.isSome
      | returned value =>
          cases proposal with
          | none =>
              simp only [dispatchStep, receiptPhase, Option.isSome_none,
                Bool.false_eq_true, if_false]
              split
              · exact .on rfl rfl rfl (.inl rfl)
              · exact .raise rfl rfl none _ false
          | some key => exact .returns job key value rfl
      | _ => exact stays
  | evidencing _ proposal =>
      cases answer with
      | raised => exact .ends rfl rfl (.inr rfl)
      | attested =>
          cases proposal with
          | none => exact .ends rfl rfl (.inr rfl)
          | some => exact .on rfl rfl rfl (.inr rfl)
      | _ => exact stays
  | completing =>
      cases answer with
      | proceed => exact .ends rfl rfl (.inr rfl)
      | _ => exact stays

section Worker

variable {config : BrokerConfig} {system : BrokerSystem}

theorem dispatchingClaim_eq_some {worker : Nat} {claim : Claim}
    {ready : ReadyStep}
    (dispatching : dispatchingClaim system worker = some (claim, ready)) :
    ∃ target, system.workflow.workers worker =
      .dispatching target claim ready := by
  unfold dispatchingClaim at dispatching
  split at dispatching
  · rename_i target other otherReady phase
    cases dispatching
    exact ⟨target, phase⟩
  · cases dispatching

theorem tell_eq {worker : Nat} {target : Target} {claim : Claim}
    {ready : ReadyStep} (outcome : DispatchOutcome) (now : Int)
    (dispatching : system.workflow.workers worker =
      .dispatching target claim ready) :
    tell config system worker outcome now =
      { system with
        workflow := system.workflow.move worker
          (outcomePhase (config.executor.pausedRetrySeconds worker) target
            claim outcome) } := by
  simp only [tell, advance, dispatching]

theorem outcomePhase_held (seconds : Int) (target : Target) (claim : Claim)
    (outcome : DispatchOutcome) :
    ∃ hold, (outcomePhase seconds target claim outcome).held =
      some (claim, hold) := by
  cases outcome <;> exact ⟨_, rfl⟩

theorem prepare_claim {claim : Claim} {ready : ReadyStep}
    {facts : Preparation} {now : Int} {job : Job} {store : WorkflowStore}
    (prepared : prepare config store claim ready facts now = .ok job) :
    job.claim = claim := by
  simp only [prepare] at prepared
  split at prepared
  · cases prepared
  · split at prepared
    · cases prepared
    · split at prepared
      · cases prepared
      · split at prepared
        · cases prepared
        · split at prepared
          · cases prepared
          · split at prepared
            · cases prepared
            · split at prepared
              · cases prepared
              · cases prepared
              · cases prepared
                rfl

end Worker

end AcpTask.Broker
