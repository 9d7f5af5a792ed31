import AcpTask.Action.Dispatched
import AcpTask.Broker.Dispatch

namespace AcpTask.Broker

open Data Library

/-! The broker alone: any number of `execute` calls, with any lease, binding
and payload, over a repository that others use too. -/

def DispatchPhase.attended : DispatchPhase → Option ProposalKey
  | .calling _ proposal => proposal
  | .failing _ proposal _ _ => proposal
  | .evidencing _ proposal _ => proposal
  | .completing _ proposal _ _ => some proposal
  | _ => none

/-- An exception with a `retry_after`. -/
def BrokerException.retries : BrokerException → Bool
  | .providerNetworkError _ => true
  | .providerError _ _ => true
  | _ => false

/-- A statement of a call.  The answer to a failure reads its `retry_after` as
an integer after the failure is recorded, and may raise there. -/
def executeStatement (config : BrokerConfig) (store : Action.ActionStore)
    (phase : DispatchPhase) (answer : BrokerAnswer) (now : Int) :
    DispatchPhase × Action.ActionStore :=
  match phase, answer with
  | .failing job proposal exception false, .raised _ =>
      if exception.retries then
        (.dropped, (dispatchStep config store
          (.failing job proposal exception false) .proceed now).2.1)
      else (.failing job proposal exception false, store)
  | phase, answer =>
      let next := dispatchStep config store phase answer now
      (next.1, next.2.1)

structure BrokerCalls where
  actions : Action.ActionStore
  calls : Nat → DispatchPhase
  unanswered : List ProposalKey

def BrokerCalls.initial : BrokerCalls :=
  ⟨Action.ActionStore.empty, fun _ => .idle, []⟩

inductive ExecuteAction where
  | execute (call : Nat) (job : Job) (lease : String)
  | advance (call : Nat) (answer : BrokerAnswer) (now : Int)
  | other (action : Action.RepoAction)

def BrokerCalls.dispatched (system : BrokerCalls) (call : Nat) :
    Option ProposalKey :=
  (system.calls call).attended.filter fun key =>
    (system.actions.proposals.find? key).any fun row => row.dispatchedAt.isSome

def DispatchPhase.isDropped : DispatchPhase → Bool
  | .dropped => true
  | _ => false

def executeStep (config : BrokerConfig) (system : BrokerCalls) :
    ExecuteAction → BrokerCalls
  | .execute call job lease =>
      match system.calls call with
      | .idle => { system with
          calls := Function.update system.calls call (.requested job lease) }
      | _ => system
  | .advance call answer now =>
      let next := executeStatement config system.actions (system.calls call)
        answer now
      { actions := next.2
        calls := Function.update system.calls call next.1
        unanswered := system.unanswered ++
          if next.1.isDropped then (system.dispatched call).toList else [] }
  -- Nobody but the broker marks a proposal as dispatched.
  | .other (.markDispatched _ _ _) => system
  | .other action =>
      { system with actions := (Action.perform system.actions action).2 }

def executeRun (config : BrokerConfig) (actions : List ExecuteAction) :
    BrokerCalls :=
  run (executeStep config) BrokerCalls.initial actions

def BrokerCalls.Attends (system : BrokerCalls) (key : ProposalKey) : Prop :=
  ∃ call, (system.calls call).attended = some key

/-- Every call that made a provider call and is over has answered, and left its
proposal completed, failed or unknown. -/
structure BrokerCalls.AllAnswered (system : BrokerCalls) : Prop where
  responded : system.unanswered = []
  ended : Action.Answered system.Attends system.actions

/-- What no `except` of `execute` takes: an exception of another class out of
the provider call or the check of its receipt, one of the attestor, and a
`retry_after` that is no integer. -/
def escapes : DispatchPhase → BrokerAnswer → Bool
  | .calling _ _, .raised exception => !exception.caught
  | .evidencing _ _ _, .raised _ => true
  | .failing _ _ exception unknown, .raised _ => !unknown && exception.retries
  | _, _ => false

def BrokerCalls.Escapes (system : BrokerCalls) (action : ExecuteAction) :
    Prop :=
  ∃ call answer now, action = .advance call answer now ∧
    (system.dispatched call).isSome = true ∧
    escapes (system.calls call) answer = true

section Job

variable (job : Job) (proposal : Option ProposalKey)

include job proposal

theorem exceptionPhase_isDropped (exception : BrokerException) (started : Bool) :
    (exceptionPhase job proposal exception started).isDropped =
      !exception.caught := by
  unfold exceptionPhase
  split <;> rename_i caught <;> simp [DispatchPhase.isDropped, caught]

theorem exceptionPhase_attended {exception : BrokerException}
    (caught : exception.caught = true) (started : Bool) :
    (exceptionPhase job proposal exception started).attended = proposal := by
  rw [exceptionPhase, if_pos caught]
  rfl

theorem receiptPhase_attended (value : Value) :
    (receiptPhase job proposal value).attended = proposal := by
  unfold receiptPhase
  split
  · rfl
  · rfl

theorem receiptPhase_isDropped (value : Value) :
    (receiptPhase job proposal value).isDropped = false := by
  unfold receiptPhase
  split <;> rfl

end Job

theorem isDropped_iff (config : BrokerConfig) (store : Action.ActionStore)
    {phase : DispatchPhase} (answer : BrokerAnswer) (now : Int)
    {key : ProposalKey} (attended : phase.attended = some key) :
    (executeStatement config store phase answer now).1.isDropped =
      escapes phase answer := by
  cases phase with
  | calling job proposal =>
      cases answer with
      | raised => exact exceptionPhase_isDropped job proposal _ _
      | returned value => exact receiptPhase_isDropped job proposal value
      | _ => rfl
  | failing job proposal exception unknown =>
      cases answer with
      | raised raised =>
          cases unknown with
          | true => rfl
          | false =>
              simp only [executeStatement, escapes]
              split <;> rename_i retries <;>
                simp [DispatchPhase.isDropped, retries]
      | _ => cases unknown <;> rfl
  | evidencing _ proposal =>
      cases answer with
      | attested => cases proposal <;> rfl
      | _ => rfl
  | completing => cases answer <;> rfl
  | _ => cases attended

theorem answered_before {attends : ProposalKey → Prop} (config : BrokerConfig)
    {store : Action.ActionStore} (answered : Action.Answered attends store)
    {phase : DispatchPhase} (answer : BrokerAnswer) (now : Int)
    (before : phase.attended = none)
    (unmarked : ∀ job proposal, phase ≠ .marking job proposal) :
    Action.Answered attends
      (executeStatement config store phase answer now).2 := by
  cases phase with
  | marking job proposal => exact absurd rfl (unmarked job proposal)
  | proposing job =>
      cases answer with
      | proceed =>
          have created := answered.createProposal job.proposal
          simp only [executeStatement, dispatchStep]
          split <;> rename_i result <;> rw [result] at created <;> exact created
      | _ => exact answered
  | deciding job =>
      cases answer with
      | proceed =>
          exact answered.perform (.decide job.binding.proposalId
            job.binding.version job.userPrincipalId true job.startedAt
            job.binding.tenantId) fun _ _ _ same => by cases same
      | _ => exact answered
  | leasing job =>
      cases answer with
      | token text =>
          have issued := answered.perform (.issueLease
            { job.lease with leaseHash := config.leaseHash text }
            job.startedAt) fun _ _ _ same => by cases same
          simp only [Action.perform] at issued
          simp only [executeStatement, dispatchStep]
          split <;> rename_i result <;> rw [result] at issued <;> exact issued
      | _ => exact answered
  | requested =>
      cases answer with
      | checks =>
          simp only [executeStatement, dispatchStep]
          split
          · exact answered
          · split <;> exact answered
      | _ => exact answered
  | validated =>
      cases answer with
      | live =>
          simp only [executeStatement, dispatchStep]
          split <;> exact answered
      | _ => exact answered
  | consuming job lease =>
      cases answer with
      | proceed =>
          have consumed := answered.consumeApproval job.binding now
          simp only [executeStatement, dispatchStep]
          split <;> rename_i result <;> rw [result] at consumed <;>
            exact consumed
      | _ => exact answered
  | spending | calling | evidencing | idle | answered _ | dropped =>
      cases answer <;> exact answered
  | restoring _ proposal =>
      cases answer with
      | proceed => exact answered.recoverPreDispatchClaim proposal.1 proposal.2
      | _ => exact answered
  | opening =>
      cases answer with
      | opened =>
          simp only [executeStatement, dispatchStep]
          split <;> exact answered
      | _ => exact answered
  | failing _ proposal _ unknown =>
      obtain rfl : proposal = none := before
      cases answer with
      | raised =>
          cases unknown with
          | true => exact answered
          | false =>
              simp only [executeStatement]
              split <;> exact answered
      | _ => cases unknown <;> exact answered
  | completing => cases before

section Step

variable {system : BrokerCalls} {call : Nat} {key : ProposalKey}

def BrokerCalls.moved (system : BrokerCalls) (call : Nat)
    (next : DispatchPhase × Action.ActionStore) : BrokerCalls :=
  { system with
    actions := next.2
    calls := Function.update system.calls call next.1 }

variable {next : DispatchPhase × Action.ActionStore}

theorem attends_moved_of_attended (attended : next.1.attended = some key) :
    (system.moved call next).Attends key := by
  refine ⟨call, ?_⟩
  change (Function.update system.calls call next.1 call).attended = some key
  rw [Function.update_self]
  exact attended

theorem attends_moved (same : (system.calls call).attended = some key →
      next.1.attended = some key) (attends : system.Attends key) :
    (system.moved call next).Attends key := by
  obtain ⟨other, attended⟩ := attends
  by_cases own : other = call
  · subst own
    exact attends_moved_of_attended (same attended)
  · refine ⟨other, ?_⟩
    change (Function.update system.calls call next.1 other).attended = some key
    rw [Function.update_of_ne own]
    exact attended

theorem answered_letting_go
    (answered : Action.Answered system.Attends system.actions)
    {phase : DispatchPhase} (undispatched : system.dispatched call = none) :
    Action.Answered (system.moved call (phase, system.actions)).Attends
      system.actions := by
  intro row member dispatched
  rcases answered row member dispatched with ended | ⟨executing, attends⟩
  · exact .inl ended
  · refine .inr ⟨executing, attends_moved (fun attended => ?_) attends⟩
    have found := Table.find?_eq_some_iff.mpr
      (⟨member, rfl⟩ : row ∈ system.actions.proposals ∧ row.key = row.key)
    rw [BrokerCalls.dispatched, attended, Option.filter_some, found]
      at undispatched
    simp [dispatched] at undispatched

theorem answered_taking_along
    (answered : Action.Answered system.Attends system.actions)
    {phase : DispatchPhase}
    (same : phase.attended = (system.calls call).attended) :
    Action.Answered (system.moved call (phase, system.actions)).Attends
      system.actions :=
  answered.mono fun _ attends =>
    attends_moved (fun attended => same.trans attended) attends

theorem attends_others (attended : (system.calls call).attended = some key)
    (other : ProposalKey) (apart : other ≠ key) (attends : system.Attends other) :
    (system.moved call next).Attends other := by
  refine attends_moved (fun same => absurd ?_ apart) attends
  rw [attended] at same
  exact (Option.some.inj same).symm

theorem answered_marking {job : Job} (next : DispatchPhase)
    (answered : Action.Answered system.Attends system.actions)
    (phase : system.calls call = .marking job key) (now : Int)
    (attended : (Action.markDispatched system.actions key.1 key.2 now).1 =
      true → next.attended = some key) :
    Action.Answered
      (system.moved call (next,
        (Action.markDispatched system.actions key.1 key.2 now).2)).Attends
      (Action.markDispatched system.actions key.1 key.2 now).2 := by
  have grows : ∀ other, system.Attends other →
      (system.moved call (next,
        (Action.markDispatched system.actions key.1 key.2 now).2)).Attends
        other := by
    intro other
    refine attends_moved fun attended => ?_
    rw [phase] at attended
    cases attended
  exact answered.markDispatched key.1 key.2 now grows
    fun marks => attends_moved_of_attended (attended marks)

variable (config : BrokerConfig)

theorem answered_failing {job : Job} {exception : BrokerException}
    {unknown : Bool} (answered : Action.Answered system.Attends system.actions)
    (phase : system.calls call = .failing job (some key) exception unknown)
    (answer : BrokerAnswer) (now : Int) :
    Action.Answered
      (system.moved call (executeStatement config system.actions
        (.failing job (some key) exception unknown) answer now)).Attends
      (executeStatement config system.actions
        (.failing job (some key) exception unknown) answer now).2 := by
  have stays : Action.Answered
      (system.moved call (.failing job (some key) exception unknown,
        system.actions)).Attends system.actions :=
    answered_taking_along answered (by rw [phase])
  have records (next : DispatchPhase) : Action.Answered
      (system.moved call (next, (Action.failExecution system.actions key.1
        key.2 exception.text now unknown).2)).Attends
      (Action.failExecution system.actions key.1 key.2 exception.text now
        unknown).2 := by
    refine answered.leave (fun row executing => by simp [executing])
      (fun _ => ?_) (attends_others (by rw [phase]; rfl))
    cases unknown with
    | true => exact .inr (.inr rfl)
    | false => exact .inr (.inl rfl)
  cases answer with
  | proceed => cases unknown <;> exact records _
  | raised =>
      cases unknown with
      | true => exact stays
      | false =>
          simp only [executeStatement]
          split
          · exact records .dropped
          · exact stays
  | _ => cases unknown <;> exact stays

theorem answered_advance
    (answered : Action.Answered system.Attends system.actions)
    (answer : BrokerAnswer) (now : Int)
    (kept : (system.dispatched call).isSome = true →
      escapes (system.calls call) answer = false) :
    Action.Answered
      (system.moved call (executeStatement config system.actions
        (system.calls call) answer now)).Attends
      (executeStatement config system.actions (system.calls call) answer
        now).2 := by
  cases phase : system.calls call with
  | marking job proposal =>
      cases answer with
      | proceed =>
          by_cases marks : (Action.markDispatched system.actions proposal.1
            proposal.2 now).1 = true
          · have dispatched := answered_marking (.calling job (some proposal))
              answered phase now fun _ => rfl
            simpa only [executeStatement, dispatchStep, if_pos marks]
              using dispatched
          · have refused := answered_marking (exceptionPhase job
              (some proposal) (.permissionError
                "provider dispatch claim is no longer valid") false)
              answered phase now fun marked => absurd marked marks
            simpa only [executeStatement, dispatchStep, if_neg marks]
              using refused
      | _ => exact answered_taking_along answered (by rw [phase]; rfl)
  | calling job proposal =>
      cases answer with
      | raised exception =>
          by_cases caught : exception.caught = true
          · refine answered_taking_along answered ?_
            rw [phase]
            exact exceptionPhase_attended job proposal caught proposal.isSome
          · refine answered_letting_go answered ?_
            rw [phase] at kept
            by_contra dispatched
            have escaped := kept (Option.isSome_iff_ne_none.mpr dispatched)
            simp only [escapes, Bool.not_eq_false'] at escaped
            exact caught escaped
      | returned value =>
          refine answered_taking_along answered ?_
          rw [phase]
          exact receiptPhase_attended job proposal value
      | _ => exact answered_taking_along answered (by rw [phase]; rfl)
  | evidencing _ proposal =>
      cases answer with
      | attested =>
          refine answered_taking_along answered ?_
          rw [phase]
          cases proposal <;> rfl
      | raised =>
          refine answered_letting_go answered ?_
          rw [phase] at kept
          by_contra dispatched
          have escaped := kept (Option.isSome_iff_ne_none.mpr dispatched)
          cases escaped
      | _ => exact answered_taking_along answered (by rw [phase]; rfl)
  | completing =>
      cases answer with
      | proceed =>
          exact answered.leave (fun row executing => by simp [executing])
            (fun _ => .inl rfl) (attends_others (by rw [phase]; rfl))
      | _ => exact answered_taking_along answered (by rw [phase]; rfl)
  | failing _ proposal =>
      cases proposal with
      | none =>
          refine (answered_before config answered answer now rfl
            fun _ _ same => by cases same).mono fun _ => attends_moved
              fun attended => ?_
          rw [phase] at attended
          cases attended
      | some => exact answered_failing config answered phase answer now
  | idle | answered _ | dropped | proposing _ | deciding _ | leasing _
  | requested _ _ | validated _ _ _ | consuming _ _ | spending _ _ _
  | restoring _ _ | opening _ _ =>
      refine (answered_before config answered answer now rfl
        fun _ _ same => by cases same).mono fun _ => attends_moved
          fun attended => ?_
      rw [phase] at attended
      cases attended

theorem attended_of_dispatched
    (dispatched : system.dispatched call = some key) :
    (system.calls call).attended = some key :=
  (Option.filter_eq_some_iff.mp dispatched).1

theorem escapes_advance {answer : BrokerAnswer} {now : Int} :
    system.Escapes (.advance call answer now) ↔
      (system.dispatched call).isSome = true ∧
        escapes (system.calls call) answer = true := by
  constructor
  · rintro ⟨_, _, _, same, escaped⟩
    cases same
    exact escaped
  · intro escaped
    exact ⟨call, answer, now, rfl, escaped⟩

theorem responded_advance (responded : system.unanswered = [])
    (answer : BrokerAnswer) (now : Int) :
    (executeStep config system (.advance call answer now)).unanswered = [] ↔
      ¬ system.Escapes (.advance call answer now) := by
  rw [escapes_advance]
  simp only [executeStep, responded, List.nil_append]
  cases dispatched : system.dispatched call with
  | none => simp
  | some =>
      rw [isDropped_iff config system.actions answer now
        (attended_of_dispatched dispatched)]
      simp

theorem allAnswered_step {system : BrokerCalls} (answered : system.AllAnswered)
    (action : ExecuteAction) :
    (executeStep config system action).AllAnswered ↔
      ¬ system.Escapes action := by
  obtain ⟨responded, ended⟩ := answered
  cases action with
  | execute call job lease =>
      refine iff_of_true ?_ ?_
      · cases phase : system.calls call with
        | idle =>
            have attends : ∀ key, system.Attends key →
                (system.moved call
                  (.requested job lease, system.actions)).Attends key := by
              refine fun key => attends_moved fun attended => ?_
              rw [phase] at attended
              cases attended
            simp only [executeStep, phase]
            exact ⟨responded, ended.mono attends⟩
        | _ =>
            simp only [executeStep, phase]
            exact ⟨responded, ended⟩
      · rintro ⟨_, _, _, same, _⟩
        cases same
  | advance _ answer now =>
      rw [← responded_advance config responded answer now]
      refine ⟨BrokerCalls.AllAnswered.responded, fun answered => ⟨answered, ?_⟩⟩
      rw [responded_advance config responded, escapes_advance] at answered
      refine answered_advance config ended answer now fun dispatched => ?_
      exact Bool.eq_false_iff.mpr fun escaped => answered ⟨dispatched, escaped⟩
  | other action =>
      refine iff_of_true ?_ ?_
      · cases action with
        | markDispatched => exact ⟨responded, ended⟩
        | _ =>
            exact ⟨responded, ended.perform _ fun _ _ _ same => by cases same⟩
      · rintro ⟨_, _, _, same, _⟩
        cases same

end Step

theorem BrokerCalls.AllAnswered.initial : BrokerCalls.initial.AllAnswered :=
  ⟨rfl, fun row member => by cases member⟩

theorem no_proposal_stuck_iff (config : BrokerConfig)
    (actions : List ExecuteAction) :
    (∀ earlier later, actions = earlier ++ later →
      (executeRun config earlier).AllAnswered) ↔
    Along (executeStep config)
      (fun system action => ¬ system.Escapes action)
      BrokerCalls.initial actions :=
  Along.forall_prefix_iff (fun _ => True) BrokerCalls.AllAnswered
    (fun _ _ _ => trivial)
    (fun _ action _ answered => allAnswered_step config answered action)
    trivial BrokerCalls.AllAnswered.initial actions

end AcpTask.Broker
