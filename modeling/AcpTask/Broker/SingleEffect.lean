import AcpTask.Broker.Moves

namespace AcpTask.Broker

open Data Library Workflow

/-! One worker at a time holds a step, and one dispatch of it is under way. -/

def Holds (system : BrokerSystem) (key : StepKey) (worker : Nat)
    (claim : Claim) (hold : Hold) : Prop :=
  claim.step = key ∧ (system.workflow.workers worker).held = some (claim, hold)

theorem holds_of_dispatching {system : BrokerSystem} {key : StepKey}
    {worker : Nat} {target : Target} {claim : Claim} {ready : ReadyStep}
    (dispatching : system.workflow.workers worker =
      .dispatching target claim ready) (atKey : claim.step = key) :
    Holds system key worker claim .dispatching :=
  ⟨atKey, by rw [dispatching]; rfl⟩

def Working (system : BrokerSystem) (key : StepKey) (id : DispatchId) :
    Prop :=
  id.step = key ∧ (system.dispatches id).job.isSome = true

def SingleEffect (key : StepKey) (event : CallEvent)
    (older : List CallEvent) : Prop :=
  event = .called key → .succeeded key ∉ older

structure Sole (key : StepKey) (system : BrokerSystem) : Prop where
  named : ∀ id job, (system.dispatches id).job = some job →
    job.claim.step = id.step
  startedByHolder : ∀ {worker claim hold},
    Holds system key worker claim hold → Started system.workflow.store key
  startedByDispatch : ∀ {id}, Working system key id →
    Started system.workflow.store key
  startedBySuccess : .succeeded key ∈ system.calls →
    Started system.workflow.store key
  oneHolder : ∀ {worker other claim hold otherClaim otherHold},
    Holds system key worker claim hold →
    Holds system key other otherClaim otherHold → worker = other
  oneDispatch : ∀ {id other}, Working system key id →
    Working system key other → id = other
  ownDispatch : ∀ {worker claim hold id},
    Holds system key worker claim hold → Working system key id →
    hold = .settling ∨ (hold = .dispatching ∧ id = dispatchId claim)
  holderAfter : ∀ {worker claim hold}, .succeeded key ∈ system.calls →
    Holds system key worker claim hold →
    hold = .settling ∨ (hold = .dispatching ∧
      (system.dispatches (dispatchId claim)).delivered = true)
  dispatchAfter : ∀ {id}, .succeeded key ∈ system.calls →
    Working system key id → (system.dispatches id).delivered = true
  lawful : Lawful (SingleEffect key) system.calls

theorem Sole.initial (key : StepKey) : Sole key BrokerSystem.initial where
  named := by
    intro id job working
    cases working
  startedByHolder := fun holds => by cases holds.2
  startedByDispatch := fun working => by cases working.2
  startedBySuccess := fun success => by cases success
  oneHolder := fun holds => by cases holds.2
  oneDispatch := fun working => by cases working.2
  ownDispatch := fun holds => by cases holds.2
  holderAfter := fun success => by cases success
  dispatchAfter := fun success => by cases success
  lawful := trivial

namespace Sole

variable {key : StepKey} {system : BrokerSystem}

variable {worker : Nat} {claim : Claim}

theorem quietHolder (sole : Sole key system) {hold : Hold}
    (holds : Holds system key worker claim hold)
    (quiet : hold = .preparing ∨ hold = .releasing) :
    (∀ {id}, ¬ Working system key id) ∧ .succeeded key ∉ system.calls := by
  constructor
  · intro id working
    rcases sole.ownDispatch holds working with rfl | ⟨rfl, _⟩ <;>
      rcases quiet with wrong | wrong <;> cases wrong
  · intro success
    rcases sole.holderAfter success holds with rfl | ⟨rfl, _⟩ <;>
      rcases quiet with wrong | wrong <;> cases wrong

variable {id : DispatchId}

theorem dispatchingOwn (sole : Sole key system)
    (holds : Holds system key worker claim .dispatching)
    (working : Working system key id) :
    id = dispatchId claim := by
  rcases sole.ownDispatch holds working with wrong | ⟨_, own⟩
  · cases wrong
  · exact own

theorem dispatchingAfter (sole : Sole key system)
    (holds : Holds system key worker claim .dispatching)
    (success : .succeeded key ∈ system.calls) :
    (system.dispatches (dispatchId claim)).delivered = true := by
  rcases sole.holderAfter success holds with wrong | ⟨_, delivered⟩
  · cases wrong
  · exact delivered

variable {next : WorkflowSystem}

theorem workers (sole : Sole key system)
    (started : Started system.workflow.store key → Started next.store key)
    (holders : ∀ {worker claim hold},
      Holds { system with workflow := next } key worker claim hold →
      Holds system key worker claim hold ∨
        (Holds system key worker claim .preparing ∧ hold ≠ .settling)) :
    Sole key { system with workflow := next } := by
  have held : ∀ {worker claim hold},
      Holds { system with workflow := next } key worker claim hold →
      ∃ before, Holds system key worker claim before := by
    intro worker claim hold holds
    rcases holders holds with same | ⟨preparing, _⟩
    · exact ⟨hold, same⟩
    · exact ⟨.preparing, preparing⟩
  refine { named := sole.named, lawful := sole.lawful
           startedByHolder := ?_, startedByDispatch := ?_
           startedBySuccess := ?_, oneHolder := ?_
           oneDispatch := sole.oneDispatch, ownDispatch := ?_
           holderAfter := ?_, dispatchAfter := sole.dispatchAfter }
  · intro worker claim hold holds
    obtain ⟨before, heldBefore⟩ := held holds
    exact started (sole.startedByHolder heldBefore)
  · intro id working
    exact started (sole.startedByDispatch working)
  · intro success
    exact started (sole.startedBySuccess success)
  · intro worker other claim hold otherClaim otherHold holds otherHolds
    obtain ⟨_, heldBefore⟩ := held holds
    obtain ⟨_, otherHeld⟩ := held otherHolds
    exact sole.oneHolder heldBefore otherHeld
  · intro worker claim hold id holds working
    rcases holders holds with same | ⟨preparing, _⟩
    · exact sole.ownDispatch same working
    · exact absurd working (sole.quietHolder preparing (.inl rfl)).1
  · intro worker claim hold success holds
    rcases holders holds with same | ⟨preparing, _⟩
    · exact sole.holderAfter success same
    · exact absurd success (sole.quietHolder preparing (.inl rfl)).2

theorem fresh (sole : Sole key system) (worker : Nat)
    (undispatched : ∀ {id}, ¬ Working system key id)
    (undelivered : .succeeded key ∉ system.calls)
    (holders : ∀ {other claim hold},
      Holds { system with workflow := next } key other claim hold →
      other = worker ∧ Started next.store key) :
    Sole key { system with workflow := next } where
  named := sole.named
  startedByHolder := fun holds => (holders holds).2
  startedByDispatch := fun working => absurd working undispatched
  startedBySuccess := fun success => absurd success undelivered
  oneHolder := fun holds otherHolds =>
    (holders holds).1.trans (holders otherHolds).1.symm
  oneDispatch := fun working => absurd working undispatched
  ownDispatch := fun _ working => absurd working undispatched
  holderAfter := fun success => absurd success undelivered
  dispatchAfter := fun success => absurd success undelivered
  lawful := sole.lawful

theorem not_started_of_queued {store : WorkflowStore}
    (queued : ∃ row, store.steps.find? key = some row ∧
      row.executionStatus = .queued) : ¬ Started store key := by
  rintro ⟨_, found, started⟩
  obtain ⟨_, oldFound, oldQueued⟩ := queued
  rw [found] at oldFound
  cases oldFound
  rw [oldQueued] at started
  cases started

theorem hold_cases (write : StepWrite) :
    (write.hold = .settling ∧ write.cause.keepsStarted = true) ∨
      write.hold = .releasing := by
  cases write with
  | markExecutionUnknown | persistCompletion => exact .inl ⟨rfl, rfl⟩
  | _ => exact .inr rfl

theorem holds_update {other : Nat} {phase : Phase} {hold : Hold}
    (workers : next.workers =
      Function.update system.workflow.workers worker phase)
    (holds : Holds { system with workflow := next } key other claim hold) :
    (other = worker ∧ claim.step = key ∧ phase.held = some (claim, hold)) ∨
      (other ≠ worker ∧ Holds system key other claim hold) := by
  obtain ⟨atKey, held⟩ := holds
  rw [workers] at held
  rcases eq_or_ne other worker with rfl | ne
  · rw [Function.update_self] at held
    exact .inl ⟨rfl, atKey, held⟩
  · rw [Function.update_of_ne ne] at held
    exact .inr ⟨ne, atKey, held⟩

theorem workflow (sole : Sole key system) {action : WorkflowAction}
    (own : ownAction action = true)
    (move : WorkflowMove action system.workflow next)
    (writes : ∀ row, next.store.steps.find? key = some row →
      row.effect = .write) :
    Sole key { system with workflow := next } := by
  cases move with
  | quiet _ _ steps workers goes =>
      refine sole.workers (steps.keepsStarted writes ?_) ?_
      · intro row cause _ caused
        cases caused
      · intro other claim hold holds
        rcases holds_update workers holds with ⟨rfl, atKey, held⟩ | ⟨_, same⟩
        · rcases goes with dropped | same | ⟨_, _, preparing, goesOn, unsettled⟩
          · rw [dropped] at held
            cases held
          · exact .inl ⟨atKey, same ▸ held⟩
          · rw [goesOn] at held
            cases held
            exact .inr ⟨⟨atKey, preparing⟩, unsettled⟩
        · exact .inl same
  | claim worker _ claim _ steps queued running workers held =>
      rcases eq_or_ne claim.step key with same | other
      · rw [same] at queued running
        have unstarted := not_started_of_queued queued
        refine sole.fresh worker
          (fun working => unstarted (sole.startedByDispatch working))
          (fun success => unstarted (sole.startedBySuccess success)) ?_
        intro other otherClaim hold holds
        obtain ⟨row, found, isRunning⟩ := running
        rcases holds_update workers holds with ⟨rfl, _, _⟩ | ⟨_, before⟩
        · exact ⟨rfl, row, found, by rw [isRunning]; rfl⟩
        · exact absurd (sole.startedByHolder before) unstarted
      · refine sole.workers (steps.keepsStarted writes ?_) ?_
        · intro row cause atKey caused
          exact absurd caused (causeAt_other (by rw [atKey]; exact other.symm))
        · intro holder otherClaim hold holds
          rcases holds_update workers holds with ⟨_, atKey, taken⟩ | ⟨_, before⟩
          · rw [held] at taken
            cases taken
            exact absurd atKey other
          · exact .inl before
  | record worker _ claim write _ _ _ _ writing steps workers done =>
      have gone : ∀ {holder otherClaim hold},
          Holds { system with workflow := next } key holder otherClaim hold →
          holder ≠ worker ∧ Holds system key holder otherClaim hold := by
        intro holder otherClaim hold holds
        rcases holds_update workers holds with ⟨_, _, taken⟩ | before
        · rw [done] at taken
          cases taken
        · exact before
      rcases eq_or_ne claim.step key with same | other
      · have holds : Holds system key worker claim write.hold :=
          ⟨same, by rw [writing]; rfl⟩
        rcases hold_cases write with ⟨_, keeps⟩ | releasing
        · refine sole.workers (steps.keepsStarted writes ?_) ?_
          · intro row cause _ caused
            rw [← (is_of_causeAt caused).2]
            exact keeps
          · intro holder otherClaim hold otherHolds
            exact .inl (gone otherHolds).2
        · have quiet := sole.quietHolder holds (.inr releasing)
          refine sole.fresh worker quiet.1 quiet.2 ?_
          intro holder otherClaim hold otherHolds
          obtain ⟨ne, before⟩ := gone otherHolds
          exact absurd (sole.oneHolder before holds) ne
      · refine sole.workers (steps.keepsStarted writes ?_) ?_
        · intro row cause atKey caused
          exact absurd caused (causeAt_other (by rw [atKey]; exact other.symm))
        · intro holder otherClaim hold otherHolds
          exact .inl (gone otherHolds).2
  | answer _ _ _ _ _ _ advances =>
      obtain ⟨_, rfl⟩ := advances
      cases own
  | reconcile _ _ _ _ reconciles =>
      subst reconciles
      cases own

variable {phase : DispatchPhase} {actions : Action.ActionStore}

theorem moveOther (sole : Sole key system) {events : List CallEvent}
    (other : id.step ≠ key)
    (named : ∀ job, phase.job = some job → job.claim.step = id.step)
    (foreign : ∀ event ∈ events, event ≠ .called key ∧ event ≠ .succeeded key) :
    Sole key { system.moveDispatch id phase with
      actions, calls := events ++ system.calls } := by
  have kept : ∀ own : DispatchId, own.step = key →
      Function.update system.dispatches id phase own =
        system.dispatches own := by
    intro own atKey
    apply Function.update_of_ne
    rintro rfl
    exact other atKey
  have working : ∀ {own}, Working { system.moveDispatch id phase with
      actions, calls := events ++ system.calls } key own →
      Working system key own := by
    rintro own ⟨atKey, job⟩
    refine ⟨atKey, ?_⟩
    rw [← kept own atKey]
    exact job
  have before : .succeeded key ∈ events ++ system.calls →
      .succeeded key ∈ system.calls := by
    intro success
    rcases List.mem_append.mp success with new | old
    · exact absurd rfl (foreign _ new).2
    · exact old
  refine { named := ?_, lawful := ?_
           startedByHolder := sole.startedByHolder
           startedByDispatch := fun own => sole.startedByDispatch (working own)
           startedBySuccess := fun success =>
             sole.startedBySuccess (before success)
           oneHolder := sole.oneHolder
           oneDispatch := fun own others =>
             sole.oneDispatch (working own) (working others)
           ownDispatch := fun holds own => sole.ownDispatch holds (working own)
           holderAfter := ?_, dispatchAfter := ?_ }
  · intro own job here
    rcases eq_or_ne own id with rfl | ne
    · exact named job (by simpa [BrokerSystem.moveDispatch] using here)
    · refine sole.named own job ?_
      simpa [BrokerSystem.moveDispatch, Function.update_of_ne ne] using here
  · intro worker claim hold success holds
    rcases sole.holderAfter (before success) holds with
      settling | ⟨dispatching, delivered⟩
    · exact .inl settling
    · refine .inr ⟨dispatching, ?_⟩
      dsimp only [BrokerSystem.moveDispatch]
      rw [kept (dispatchId claim) holds.1]
      exact delivered
  · intro own success isWorking
    dsimp only [BrokerSystem.moveDispatch]
    rw [kept own isWorking.1]
    exact sole.dispatchAfter (before success) (working isWorking)
  · clear working before
    induction events with
    | nil => exact sole.lawful
    | cons event _ induction =>
        refine ⟨?_, induction fun later member =>
          foreign later (List.mem_cons_of_mem event member)⟩
        intro called
        exact absurd called (foreign event List.mem_cons_self).1

theorem moveOwn (sole : Sole key system) {calls : List CallEvent}
    (started : Started system.workflow.store key)
    (alone : ∀ {other}, Working system key other → other = id)
    (holders : ∀ {worker claim hold}, Holds system key worker claim hold →
      hold = .settling ∨ (hold = .dispatching ∧ id = dispatchId claim))
    (named : ∀ job, phase.job = some job → job.claim.step = id.step)
    (delivered : .succeeded key ∈ calls → phase.delivered = true)
    (lawful : Lawful (SingleEffect key) calls) :
    Sole key { system.moveDispatch id phase with actions, calls } := by
  have working : ∀ {other}, Working { system.moveDispatch id phase with
      actions, calls } key other → other = id := by
    rintro other ⟨otherKey, job⟩
    rcases eq_or_ne other id with same | ne
    · exact same
    · refine alone ⟨otherKey, ?_⟩
      simpa [BrokerSystem.moveDispatch, Function.update_of_ne ne] using job
  refine { named := ?_, lawful
           startedByHolder := sole.startedByHolder
           startedByDispatch := fun _ => started
           startedBySuccess := fun _ => started
           oneHolder := sole.oneHolder
           oneDispatch := fun own other =>
             (working own).trans (working other).symm
           ownDispatch := ?_, holderAfter := ?_, dispatchAfter := ?_ }
  · intro own job here
    rcases eq_or_ne own id with rfl | ne
    · exact named job (by simpa [BrokerSystem.moveDispatch] using here)
    · refine sole.named own job ?_
      simpa [BrokerSystem.moveDispatch, Function.update_of_ne ne] using here
  · intro worker claim hold own holds isWorking
    rw [working isWorking]
    exact holders holds
  · intro worker claim hold success holds
    rcases holders holds with settling | ⟨dispatching, own⟩
    · exact .inl settling
    · refine .inr ⟨dispatching, ?_⟩
      rw [← own]
      simpa [BrokerSystem.moveDispatch] using delivered success
  · intro own success isWorking
    rw [working isWorking]
    simpa [BrokerSystem.moveDispatch] using delivered success

theorem begins (sole : Sole key system) {target : Target} {ready : ReadyStep}
    (dispatching : system.workflow.workers worker =
      .dispatching target claim ready)
    (idle : system.dispatches (dispatchId claim) = .idle)
    (named : ∀ job, phase.job = some job → job.claim = claim) :
    Sole key (system.moveDispatch (dispatchId claim) phase) := by
  have own : ∀ job, phase.job = some job →
      job.claim.step = (dispatchId claim).step := by
    intro job here
    rw [named job here]
    rfl
  rcases eq_or_ne claim.step key with same | other
  · have holds := holds_of_dispatching dispatching same
    have undelivered : .succeeded key ∉ system.calls := by
      intro success
      have delivered := sole.dispatchingAfter holds success
      rw [idle] at delivered
      cases delivered
    refine sole.moveOwn (sole.startedByHolder holds)
      (sole.dispatchingOwn holds) ?_ own
      (fun success => absurd success undelivered) sole.lawful
    intro other otherClaim hold otherHolds
    obtain rfl := sole.oneHolder holds otherHolds
    have both := holds.2.symm.trans otherHolds.2
    cases both
    exact .inr ⟨rfl, rfl⟩
  · have foreign : (dispatchId claim).step ≠ key := other
    exact sole.moveOther foreign own
      (fun event (member : event ∈ ([] : List CallEvent)) => nomatch member)

theorem advances (sole : Sole key system) {answer : BrokerAnswer}
    {events : List CallEvent}
    (move : DispatchMove answer (system.dispatches id) phase events)
    (accepted : ∀ job proposal value, id.step = key →
      system.dispatches id = .calling job (some proposal) →
      answer = .returned value →
      ∃ receipt, safeReceipt value = .ok receipt) :
    Sole key { system.moveDispatch id phase with
      actions, calls := events ++ system.calls } := by
  have working : ∀ {job}, (system.dispatches id).job = some job →
      id.step = key → Working system key id := by
    intro job here atKey
    exact ⟨atKey, by rw [here]; rfl⟩
  have own : ∀ {calls}, Working system key id →
      (∀ job, phase.job = some job → job.claim.step = id.step) →
      (.succeeded key ∈ calls → phase.delivered = true) →
      Lawful (SingleEffect key) calls →
      Sole key { system.moveDispatch id phase with actions, calls } := by
    intro calls isWorking named delivered lawful
    exact sole.moveOwn (sole.startedByDispatch isWorking)
      (fun other => sole.oneDispatch other isWorking)
      (fun holds => sole.ownDispatch holds isWorking) named delivered lawful
  generalize before : system.dispatches id = first at move
  cases move with
  | stays =>
      subst before
      have unmoved : system.moveDispatch id (system.dispatches id) =
          system := by
        rw [BrokerSystem.moveDispatch, Function.update_eq_self]
      rw [unmoved]
      exact { sole with }
  | goes job isWorking same either =>
      rw [← before] at isWorking either
      have named : ∀ later, phase.job = some later →
          later.claim.step = id.step := by
        intro later here
        rw [same later here]
        exact sole.named id job isWorking
      rcases eq_or_ne id.step key with atKey | other
      · have atWork := working isWorking atKey
        refine own atWork named ?_ sole.lawful
        intro success
        rcases either with undelivered | delivered
        · rw [sole.dispatchAfter success atWork] at undelivered
          cases undelivered
        · exact delivered
      · exact sole.moveOther other named
          (fun event (member : event ∈ ([] : List CallEvent)) => nomatch member)
  | calls job proposal =>
      have step : job.claim.step = id.step :=
        sole.named id job (by rw [before]; rfl)
      have named : ∀ later,
          (DispatchPhase.calling job (some proposal)).job = some later →
          later.claim.step = id.step := by
        intro later here
        cases here
        exact step
      rcases eq_or_ne id.step key with atKey | other
      · have atWork := working (by rw [before]; rfl) atKey
        have undelivered : .succeeded key ∉ system.calls := by
          intro success
          have delivered := sole.dispatchAfter success atWork
          rw [before] at delivered
          cases delivered
        refine own atWork named ?_ ⟨fun _ => undelivered, sole.lawful⟩
        intro success
        rcases List.mem_cons.mp success with wrong | old
        · cases wrong
        · exact absurd old undelivered
      · refine sole.moveOther other named ?_
        intro event member
        obtain rfl := List.mem_singleton.mp member
        refine ⟨?_, CallEvent.noConfusion⟩
        intro same
        cases same
        exact other step.symm
  | returns job proposal value returned =>
      have step : job.claim.step = id.step :=
        sole.named id job (by rw [before]; rfl)
      have named : ∀ later,
          (receiptPhase job (some proposal) value).job = some later →
          later.claim.step = id.step := by
        intro later here
        rw [receiptPhase_job here]
        exact step
      rcases eq_or_ne id.step key with atKey | other
      · obtain ⟨_, valid⟩ := accepted job proposal value atKey before returned
        refine own (working (by rw [before]; rfl) atKey) named ?_
          ⟨CallEvent.noConfusion, sole.lawful⟩
        intro _
        rw [receiptPhase, valid]
        rfl
      · refine sole.moveOther other named ?_
        intro event member
        obtain rfl := List.mem_singleton.mp member
        refine ⟨CallEvent.noConfusion, ?_⟩
        intro same
        cases same
        exact other step.symm

theorem tells (sole : Sole key system) {target : Target} {ready : ReadyStep}
    {phase : Phase} {hold : Hold}
    (dispatching : system.workflow.workers worker =
      .dispatching target claim ready) (held : phase.held = some (claim, hold))
    (ends : claim.step = key → hold = .settling ∨
      ((∀ id, ¬ Working system key id) ∧ .succeeded key ∉ system.calls)) :
    Sole key { system with
      workflow := system.workflow.move worker phase } := by
  have before : ∀ {other otherClaim otherHold},
      Holds { system with workflow := system.workflow.move worker phase } key
        other otherClaim otherHold →
      Holds system key other otherClaim otherHold ∨
        (other = worker ∧ otherClaim = claim ∧ otherHold = hold ∧
          Holds system key worker claim .dispatching) := by
    intro other otherClaim otherHold holds
    rcases holds_update rfl holds with ⟨same, atKey, taken⟩ | ⟨_, old⟩
    · rw [held] at taken
      cases taken
      exact .inr ⟨same, rfl, rfl, holds_of_dispatching dispatching atKey⟩
    · exact .inl old
  have some : ∀ {other otherClaim otherHold},
      Holds { system with workflow := system.workflow.move worker phase } key
        other otherClaim otherHold →
      ∃ oldClaim oldHold, Holds system key other oldClaim oldHold := by
    intro other otherClaim otherHold holds
    rcases before holds with old | ⟨rfl, _, _, old⟩ <;> exact ⟨_, _, old⟩
  refine { named := sole.named, lawful := sole.lawful
           startedByHolder := ?_
           startedByDispatch := sole.startedByDispatch
           startedBySuccess := sole.startedBySuccess, oneHolder := ?_
           oneDispatch := sole.oneDispatch, ownDispatch := ?_
           holderAfter := ?_, dispatchAfter := sole.dispatchAfter }
  · intro other otherClaim otherHold holds
    obtain ⟨_, _, old⟩ := some holds
    exact sole.startedByHolder old
  · intro first second firstClaim firstHold secondClaim secondHold firstHolds
      secondHolds
    obtain ⟨_, _, firstOld⟩ := some firstHolds
    obtain ⟨_, _, secondOld⟩ := some secondHolds
    exact sole.oneHolder firstOld secondOld
  · intro other otherClaim otherHold id holds working
    rcases before holds with old | ⟨_, rfl, rfl, old⟩
    · exact sole.ownDispatch old working
    · rcases ends old.1 with settling | ⟨undispatched, _⟩
      · exact .inl settling
      · exact absurd working (undispatched id)
  · intro other otherClaim otherHold success holds
    rcases before holds with old | ⟨_, rfl, rfl, old⟩
    · exact sole.holderAfter success old
    · rcases ends old.1 with settling | ⟨_, undelivered⟩
      · exact .inl settling
      · exact absurd success undelivered

end Sole

def rejectsReceipt (key : StepKey) (system : BrokerSystem) :
    BrokerAction → Bool
  | .advanceDispatch _ id (.returned value) _ =>
      match system.dispatches id with
      | .calling _ (some _) =>
          decide (id.step = key) && !(safeReceipt value).isOk
      | _ => false
  | _ => false

section Step

variable {key : StepKey} {config : BrokerConfig} {system : BrokerSystem}

theorem sole_receive (sole : Sole key system) (worker : Nat) (now : Int) :
    Sole key (brokerStep config system (.receive worker now)) := by
  simp only [brokerStep]
  split
  · exact sole
  · rename_i claim ready claiming
    obtain ⟨target, dispatching⟩ := dispatchingClaim_eq_some claiming
    split
    · rename_i outcome answered
      obtain ⟨hold, held⟩ := outcomePhase_held
        (config.executor.pausedRetrySeconds worker) target claim outcome
      rw [tell_eq outcome now dispatching]
      refine sole.tells dispatching held fun atKey => ?_
      have holds := holds_of_dispatching dispatching atKey
      have undispatched : ∀ id, ¬ Working system key id := by
        intro id working
        have job := working.2
        rw [sole.dispatchingOwn holds working, answered] at job
        cases job
      rcases Classical.em (.succeeded key ∈ system.calls) with
        success | undelivered
      · have delivered := sole.dispatchingAfter holds success
        rw [answered] at delivered
        cases outcome <;> cases delivered
        cases held
        exact .inl rfl
      · exact .inr ⟨undispatched, undelivered⟩
    · exact sole

theorem sole_lose (sole : Sole key system) (worker : Nat) (message : String)
    (now : Int) :
    Sole key (brokerStep config system (.lose worker message now)) := by
  simp only [brokerStep]
  split
  · exact sole
  · rename_i claim ready claiming
    obtain ⟨target, dispatching⟩ := dispatchingClaim_eq_some claiming
    split
    · exact sole
    · split
      · exact sole
      · rw [tell_eq _ now dispatching]
        exact sole.tells dispatching rfl fun _ => .inl rfl

theorem sole_beginDispatch (sole : Sole key system) (worker : Nat)
    (facts : Preparation) (now : Int) :
    Sole key (brokerStep config system (.beginDispatch worker facts now)) := by
  simp only [brokerStep]
  split
  · exact sole
  · rename_i claim ready claiming
    obtain ⟨target, dispatching⟩ := dispatchingClaim_eq_some claiming
    split
    · rename_i idle
      split
      · exact sole.begins dispatching idle fun job working => by cases working
      · rename_i job prepared
        refine sole.begins dispatching idle fun later working => ?_
        rw [← prepare_claim prepared]
        split at working <;> cases working <;> rfl
    · exact sole

theorem sole_advanceDispatch (sole : Sole key system) (worker : Nat)
    (id : DispatchId) (answer : BrokerAnswer) (now : Int)
    (accepted : rejectsReceipt key system
      (.advanceDispatch worker id answer now) = false) :
    Sole key
      (brokerStep config system (.advanceDispatch worker id answer now)) := by
  simp only [brokerStep]
  split
  · exact sole
  · refine sole.advances (dispatchStep_move config system.actions
      (system.dispatches id) answer now) ?_
    intro job proposal value atKey calling returned
    subst returned
    simp only [rejectsReceipt, calling, atKey, decide_true, Bool.true_and,
      Bool.not_eq_false'] at accepted
    cases received : safeReceipt value with
    | ok receipt => exact ⟨receipt, rfl⟩
    | error =>
        rw [received] at accepted
        cases accepted

theorem brokerStep_sole (sole : Sole key system) (action : BrokerAction)
    (writes : ∀ row,
      (brokerStep config system action).workflow.store.steps.find? key =
        some row → row.effect = .write)
    (accepted : rejectsReceipt key system action = false) :
    Sole key (brokerStep config system action) := by
  cases action with
  | workflow action own =>
      exact sole.workflow own
        (workflowStep_move config.executor system.workflow action) writes
  | beginDispatch => exact sole_beginDispatch sole ..
  | advanceDispatch worker id answer now =>
      exact sole_advanceDispatch sole worker id answer now accepted
  | receive worker now => exact sole_receive sole worker now
  | lose worker message now => exact sole_lose sole worker message now
  | sweepStalledExecutions => exact { sole with }

theorem brokerStep_effects (action : BrokerAction) {row : Step}
    (found : system.workflow.store.steps.find? key = some row) :
    ∃ later, (brokerStep config system action).workflow.store.steps.find?
      key = some later ∧ later.effect = row.effect := by
  have told : ∀ worker outcome now, ∃ later,
      (tell config system worker outcome now).workflow.store.steps.find?
        key = some later ∧ later.effect = row.effect := by
    intro worker outcome now
    exact (advance_move config.executor system.workflow worker
      (.dispatched outcome) now).effects found
  cases action with
  | workflow action =>
      exact (workflowStep_move config.executor system.workflow
        action).effects found
  | beginDispatch =>
      simp only [brokerStep]
      repeat' split
      all_goals exact ⟨row, found, rfl⟩
  | advanceDispatch =>
      simp only [brokerStep]
      split
      all_goals exact ⟨row, found, rfl⟩
  | receive worker now =>
      simp only [brokerStep]
      split
      · exact ⟨row, found, rfl⟩
      · split
        · exact told worker _ now
        · exact ⟨row, found, rfl⟩
  | lose worker _ now =>
      simp only [brokerStep]
      split
      · exact ⟨row, found, rfl⟩
      · split
        · exact ⟨row, found, rfl⟩
        · split
          · exact ⟨row, found, rfl⟩
          · exact told worker _ now
  | sweepStalledExecutions => exact ⟨row, found, rfl⟩

end Step

/-- Once a success is on record, the answer that waits for the step's worker
reports it. -/
def ReportsSuccess (key : StepKey) (system : BrokerSystem) : Prop :=
  ∀ worker claim ready outcome,
    dispatchingClaim system worker = some (claim, ready) →
    claim.step = key → .succeeded key ∈ system.calls →
    system.dispatches (dispatchId claim) = .answered outcome →
    ∃ result, outcome = .returned result

theorem Sole.reportsSuccess {key : StepKey} {system : BrokerSystem}
    (sole : Sole key system) : ReportsSuccess key system := by
  intro worker claim ready outcome claiming atKey success answered
  obtain ⟨_, dispatching⟩ := dispatchingClaim_eq_some claiming
  have delivered := sole.dispatchingAfter
    (holds_of_dispatching dispatching atKey) success
  rw [answered] at delivered
  cases outcome <;> cases delivered
  exact ⟨_, rfl⟩

/-- In every run in which the broker accepts what the provider returns for a
write as its receipt, no provider call follows a success, and no failure is
reported after it. -/
theorem provider_effect_at_most_once (config : BrokerConfig)
    (actions : List BrokerAction) (key : StepKey) (row : Step)
    (found : (brokerRun config actions).workflow.store.steps.find? key =
      some row) (write : row.effect = .write)
    (accepted : Along (brokerStep config)
      (fun system action => rejectsReceipt key system action = false)
      BrokerSystem.initial actions) :
    Lawful (SingleEffect key) (brokerRun config actions).calls ∧
      ReportsSuccess key (brokerRun config actions) := by
  have sole := Along.invariant
    (fun system => (∀ row, system.workflow.store.steps.find? key = some row →
      row.effect = .write) → Sole key system)
    (fun system action before guard writes => by
      refine brokerStep_sole (before ?_) action writes guard
      intro old oldFound
      obtain ⟨later, laterFound, effect⟩ := brokerStep_effects action oldFound
      rw [← effect]
      exact writes later laterFound)
    (fun _ => Sole.initial key) accepted (by
      intro other otherFound
      rw [brokerRun] at found
      rw [found] at otherFound
      cases otherFound
      exact write)
  exact ⟨sole.lawful, sole.reportsSuccess⟩

def messagePayload : Value :=
  .dict [("channel", .str "C1"), ("text", .str "hi")]

def messageConfig : BrokerConfig where
  executor := {
    digests := ⟨fun token => token,
      fun _ attempt _ => String.ofList (List.replicate attempt 'r')⟩
    workerId := fun _ => "workflow-worker"
    leaseTtl := fun _ => 60
    pausedRetrySeconds := fun _ => 60 }
  agentPrincipalId := "agent:orchestrator"
  ttl := 300
  canonicalJson := fun _ => "\x7b\"channel\":\"C1\",\"text\":\"hi\"\x7d"
  payloadHash := fun _ =>
    "003235b348c3a31947d3b3388ceea0bb" ++ "5de433f2c48390deafebbd2d072dd2fa"
  leaseHash := fun token => token
  decode := fun _ => messagePayload

def messageTarget : Target := ⟨"run", "revision", "tenant"⟩

def messageStep : StepKey := ("revision", "send")

def messagePlan : List PlannedStep :=
  [{ stepId := "send", capabilityId := "slack.message.send"
     capabilityVersion := "1", connectionId := some "connection"
     descriptorSnapshotHash := "descriptor", inputHash := "input"
     input := messagePayload, effect := .write }]

def messageFacts : Preparation where
  connection := some ⟨true, "credential", 1, none, {}⟩
  policyDenial := none

def messageChecks : Checks where
  gateAllowed := true
  gateReason := none
  runtime := .resolved .write true
  credentialActive := true
  connectorConfigured := true
  agentTrusted := true
  identityVerified := true

def approvedMessage : List BrokerAction :=
  [.workflow (.createRun "run" "tenant" "user" "goal" 0) rfl,
    .workflow (.createRevision messageTarget "graph" messagePlan 0 1000) rfl,
    .workflow (.recordApproval messageTarget "graph" "user" 0 900) rfl]

def sentMessage (attempt : Nat) (token : String) (now : Int)
    (result : Value) : List BrokerAction :=
  [.workflow (.runNext 0 messageTarget) rfl,
    .workflow (.advance 0 .proceed now) rfl,
    .workflow (.advance 0 .proceed now) rfl,
    .workflow (.advance 0 (.lease token) now) rfl,
    .workflow (.advance 0 .proceed now) rfl,
    .workflow (.advance 0 .proceed now) rfl,
    .workflow (.advance 0 (.decision { allowed := true }) now) rfl,
    .beginDispatch 0 messageFacts now] ++
  [.proceed, .proceed, .token token, .checks messageChecks, .live true none,
    .proceed, .proceed, .opened ["chat:write"] ["chat:write"], .proceed,
    .returned result].map fun answer =>
      .advanceDispatch 0 ⟨messageStep, attempt⟩ answer now

def deliveredMessage : List BrokerAction :=
  approvedMessage ++
  sentMessage 1 "first" 1 (.dict [("channel", .str "C1"), ("ts", .str "1")]) ++
  [.advanceDispatch 0 ⟨messageStep, 1⟩ (.attested none) 1,
    .advanceDispatch 0 ⟨messageStep, 1⟩ .proceed 1]

theorem provider_effect_at_most_once_delivered :
    (brokerRun messageConfig deliveredMessage).calls =
      [.succeeded messageStep, .called messageStep] ∧
    ReportsSuccess messageStep (brokerRun messageConfig deliveredMessage) :=
  ⟨by decide, (provider_effect_at_most_once messageConfig deliveredMessage
    messageStep _ rfl rfl (by decide)).2⟩

/-- The result carries a key no receipt may have: the broker answers with a
failure that is safe to retry, and the second attempt calls the provider
again. -/
def repeatedMessage : List BrokerAction :=
  approvedMessage ++
  sentMessage 1 "first" 1 (.dict [("ts", .str "1"), ("token", .str "t")]) ++
  [.advanceDispatch 0 ⟨messageStep, 1⟩ .proceed 1, .receive 0 1,
    .workflow (.advance 0 .proceed 1) rfl,
    .workflow (.advance 0 .proceed 1) rfl] ++
  sentMessage 2 "second" 10 (.dict [("channel", .str "C1"), ("ts", .str "2")])

theorem provider_called_after_success :
    ¬ ∀ (config : BrokerConfig) (actions : List BrokerAction)
        (key : StepKey) (row : Step),
      (brokerRun config actions).workflow.store.steps.find? key = some row →
      row.effect = .write → row.capabilityId ∉ idempotentWrites →
      Lawful (SingleEffect key) (brokerRun config actions).calls ∧
        ReportsSuccess key (brokerRun config actions) := by
  intro holds
  have step : ((brokerRun messageConfig
      repeatedMessage).workflow.store.steps.find? messageStep).any
        (fun row => decide (row.effect = .write ∧
          row.capabilityId ∉ idempotentWrites)) = true := by
    decide +kernel
  obtain ⟨row, found, nonIdempotent⟩ := (Option.any_eq_true _ _).mp step
  simp only [decide_eq_true_eq] at nonIdempotent
  have both := holds messageConfig repeatedMessage messageStep row found
    nonIdempotent.1 nonIdempotent.2
  have calls : (brokerRun messageConfig repeatedMessage).calls =
      [.succeeded messageStep, .called messageStep, .succeeded messageStep,
        .called messageStep] := by decide +kernel
  rw [calls] at both
  exact both.1.2.1 rfl List.mem_cons_self

end AcpTask.Broker
