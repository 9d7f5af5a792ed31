import AcpTask.Marketplace.Repository

namespace AcpTask.Marketplace

open Library

/-! What the transactions on the task hold at each of their statements. -/

def MarketPhase.accepting : MarketPhase → Option BidId
  | .reject bidId _ => some bidId
  | .write (.acceptFor bidId _) => some bidId
  | .commit (some (.acceptFor bidId _)) => some bidId
  | _ => none

namespace Market

def row (market : Market) : Option Task := market.task.committed ()

def bid? (market : Market) (bidId : BidId) : Option Bid :=
  (market.bids.committed bidId).bind id

def Engaged (market : Market) : Prop :=
  ∃ task, market.row = some task ∧ task.status ≠ .opened ∧
    task.workerPrincipalId ≠ none

def Carries (market : Market) : TaskWrite → Prop
  | .accept _ => True
  | .acceptFor bidId agentPrincipalId =>
      market.drawn[bidId]? = some agentPrincipalId
  | .deliver => market.Engaged
  | .complete => market.Engaged

/-- `accept_task` has locked the open task. -/
def Locked (market : Market) (process : Nat) : TaskWrite → Prop
  | .accept _ => market.task.holder () = some process ∧
      ∃ task, market.row = some task ∧ task.status = .opened
  | _ => True

def Holds (market : Market) (process : Nat) : MarketPhase → Prop
  | .mark bidId agentPrincipalId =>
      market.task.Owes process (fun _ => none) ∧
        market.drawn[bidId]? = some agentPrincipalId
  | .reject bidId agentPrincipalId =>
      market.task.Owes process (fun _ => none) ∧
        market.drawn[bidId]? = some agentPrincipalId
  | .write write => market.task.Owes process (fun _ => none) ∧
      market.Carries write
  | .commit (some write) =>
      market.task.Owes process (fun _ => some write.assign) ∧
        market.Carries write ∧ market.Locked process write
  | _ => market.task.Owes process fun _ => none

def Allowed (drawn : List String) (accepting : Option BidId) (bidId : BidId)
    (row : Option Bid) : Prop :=
  ∀ bid, row = some bid → drawn[bidId]? = some bid.agentPrincipalId ∧
    (bid.status = .accepted → accepting = some bidId)

structure Safe (market : Market) : Prop where
  clean : market.task.Clean
  agents : ∀ {bidId bid}, market.bid? bidId = some bid →
    market.drawn[bidId]? = some bid.agentPrincipalId
  holds : ∀ process, market.Holds process (market.phases process)
  drafts : ∀ process, market.bids.Drafts process
    (Allowed market.drawn (market.phases process).accepting)

variable {market later : Market} {process : Nat}

structure Grows (market later : Market) : Prop where
  drawn : ∀ {bidId : BidId} {agentPrincipalId : String},
    market.drawn[bidId]? = some agentPrincipalId →
      later.drawn[bidId]? = some agentPrincipalId
  engaged : market.Engaged → later.Engaged

variable {write : TaskWrite}

theorem Carries.grow (carries : market.Carries write)
    (grows : Grows market later) : later.Carries write := by
  cases write with
  | accept => trivial
  | acceptFor => exact grows.drawn carries
  | deliver | complete => exact grows.engaged carries

variable {bidId : BidId}

theorem Allowed.grow {accepting : Option BidId} {bid : Option Bid}
    (allowed : Allowed market.drawn accepting bidId bid)
    (grows : Grows market later) :
    Allowed later.drawn accepting bidId bid :=
  fun own same => ⟨grows.drawn (allowed own same).1, (allowed own same).2⟩

theorem holds_frame {other : Nat} (apart : other ≠ process)
    (task : RowLocks.Steady market.task later.task process)
    (grows : Grows market later) {phase : MarketPhase}
    (holds : market.Holds other phase) : later.Holds other phase := by
  cases phase with
  | idle | fetch _ | withdraw _ | insert _ | pick _ =>
      exact task.owes other apart holds
  | mark bidId agentPrincipalId | reject bidId agentPrincipalId =>
      exact ⟨task.owes other apart holds.1, grows.drawn holds.2⟩
  | write => exact ⟨task.owes other apart holds.1, holds.2.grow grows⟩
  | commit write =>
      cases write with
      | none => exact task.owes other apart holds
      | some write =>
          obtain ⟨owes, carries, locked⟩ := holds
          refine ⟨task.owes other apart owes, carries.grow grows, ?_⟩
          cases write with
          | accept =>
              obtain ⟨held, found, stored, status⟩ := locked
              refine ⟨(task.holder other apart ()).mpr held, found, ?_, status⟩
              rw [row, task.committed other apart () held]
              exact stored
          | acceptFor _ _ | deliver | complete => trivial

namespace Safe

variable {phase : MarketPhase}

theorem step (safe : market.Safe)
    (phases : later.phases = Function.update market.phases process phase)
    (task : RowLocks.Steady market.task later.task process)
    (bids : RowLocks.Frame market.bids later.bids process)
    (grows : Grows market later) (clean : later.task.Clean)
    (agents : ∀ {bidId bid}, later.bid? bidId = some bid →
      later.drawn[bidId]? = some bid.agentPrincipalId)
    (mine : later.Holds process phase)
    (drafts : later.bids.Drafts process (Allowed later.drawn phase.accepting)) :
    later.Safe where
  clean := clean
  agents := agents
  holds := by
    rw [phases]
    exact (Function.forall_update_iff _ later.Holds).mpr ⟨mine,
      fun other same => holds_frame same task grows (safe.holds other)⟩
  drafts := by
    rw [phases]
    refine (Function.forall_update_iff _ fun other (phase : MarketPhase) =>
      later.bids.Drafts other (Allowed later.drawn phase.accepting)).mpr
        ⟨drafts, fun other same bidId bid held draft => ?_⟩
    exact (bids.drafts same (safe.drafts other) bidId bid held draft).grow grows

theorem move (safe : market.Safe) (mine : market.Holds process phase)
    (waits : (market.phases process).accepting = none) :
    (market.move process phase).Safe := by
  refine safe.step rfl (.refl _ process) (.refl _ process) ⟨id, id⟩
    safe.clean safe.agents ?_ ?_
  · cases phase <;> exact mine
  · intro bidId bid held draft own same
    have before := safe.drafts process bidId bid held draft own same
    rw [waits] at before
    exact ⟨before.1, fun accepted => absurd (before.2 accepted) (by simp)⟩

theorem rollback (safe : market.Safe) (process : Nat) :
    (market.rollback process).Safe :=
  safe.step rfl ((RowLocks.Frame.release _ process).steady rfl)
    (.release _ process) ⟨id, id⟩ (safe.clean.release process) safe.agents
    (RowLocks.Owes.release _ process) (.release _ process _)

theorem onBids (safe : market.Safe) {condition : Option Bid → Bool}
    {assign : Option Bid → Option Bid} {seen : List BidId}
    (mine : market.Holds process phase)
    (before : (market.phases process).accepting = none ∨
      (market.phases process).accepting = phase.accepting)
    (fits : ∀ bidId ∈ seen, ∀ row,
      (market.bids.committed bidId = some row ∨
        Allowed market.drawn phase.accepting bidId row) →
      Allowed market.drawn phase.accepting bidId (assign row)) :
    (market.onBids process phase
      (market.bids.updateWhere? process condition assign seen)).Safe := by
  unfold Market.onBids
  split
  · rename_i bids written
    obtain ⟨frame, same⟩ := RowLocks.Frame.updateWhere? written
    refine safe.step rfl (.refl _ process) frame ⟨id, id⟩ safe.clean ?_ ?_ ?_
    · intro bidId bid found
      rw [bid?, same] at found
      exact safe.agents found
    · cases phase with
      | commit write => cases write <;> exact mine
      | _ => exact mine
    · have drafts : market.bids.Drafts process
          (Allowed market.drawn phase.accepting) := by
        intro bidId bid held draft own same
        have allowed := safe.drafts process bidId bid held draft own same
        refine ⟨allowed.1, fun accepted => ?_⟩
        rcases before with waits | goes
        · rw [waits] at allowed
          cases allowed.2 accepted
        · rw [← goes]
          exact allowed.2 accepted
      exact drafts.updateWhere? (fun bidId member row _ => fits bidId member
        row) written
  · exact safe

end Safe

theorem fetched_holds {call : MarketCall} {phase : MarketPhase}
    (owes : market.task.Owes process fun _ => none)
    (fetches : fetched call market.row = .ok phase) :
    market.Holds process phase := by
  unfold fetched at fetches
  split at fetches
  · cases fetches
  · rename_i task found
    cases call with
    | acceptTask =>
        simp only at fetches
        split at fetches
        · cases fetches
        · split at fetches
          · cases fetches
          · cases fetches
            exact ⟨owes, trivial⟩
    | createBid =>
        simp only at fetches
        split at fetches
        · cases fetches
        · cases fetches
          exact owes
    | acceptBid =>
        simp only at fetches
        split at fetches
        · cases fetches
        · split at fetches
          · cases fetches
          · cases fetches
            exact owes
    | submitWorkResult requesterPrincipalId =>
        simp only at fetches
        split at fetches
        · cases fetches
        · rename_i accepted
          split at fetches
          · cases fetches
          · rename_i worker
            cases fetches
            refine ⟨owes, task, found, ?_, ?_⟩
            · intro opened
              simp [opened] at accepted
            · intro unset
              simp [unset] at worker
    | completeTask authorPrincipalId =>
        simp only at fetches
        split at fetches
        · cases fetches
        · split at fetches
          · cases fetches
          · rename_i ready
            split at fetches
            · cases fetches
            · rename_i worker
              cases fetches
              refine ⟨owes, task, found, ?_, ?_⟩
              · intro opened
                simp [opened] at ready
              · intro unset
                simp [unset] at worker

theorem agents_visible (safe : market.Safe) {bid : Bid}
    (found : market.bids.visible process bidId = some (some bid)) :
    market.drawn[bidId]? = some bid.agentPrincipalId := by
  rcases RowLocks.visible_cases found with stored | ⟨held, draft⟩
  · exact safe.agents (Option.bind_eq_some_iff.mpr ⟨_, stored, rfl⟩)
  · exact (safe.drafts process bidId _ held draft bid rfl).1

theorem allowed_withStatus (safe : market.Safe) {accepting : Option BidId}
    {row : Option Bid} {status : BidStatus}
    (known : market.bids.committed bidId = some row ∨
      Allowed market.drawn accepting bidId row)
    (accepts : status = .accepted → accepting = some bidId) :
    Allowed market.drawn accepting bidId (withStatus status row) := by
  intro bid same
  obtain ⟨before, rfl, rfl⟩ := Option.map_eq_some_iff.mp same
  refine ⟨?_, accepts⟩
  rcases known with stored | allowed
  · have found : market.bid? bidId = some before :=
      Option.bind_eq_some_iff.mpr ⟨some before, stored, rfl⟩
    have agent : market.drawn[bidId]? = some before.agentPrincipalId :=
      safe.agents found
    exact agent
  · exact (allowed before rfl).1

theorem engaged_assign (written : later.row = market.row.map write.assign)
    (engaged : market.Engaged) : later.Engaged := by
  obtain ⟨task, found, _, worker⟩ := engaged
  refine ⟨write.assign task, by rw [written, found]; rfl, ?_, ?_⟩
  · cases write <;> exact fun same => by cases same
  · cases write with
    | accept _ | acceptFor _ _ => exact Option.some_ne_none _
    | deliver | complete => exact worker

namespace Safe

theorem update (safe : market.Safe) {write : TaskWrite}
    (mine : market.Holds process (.write write))
    (here : market.phases process = .write write)
    (selected : (market.task.visible process ()).any write.selects = true)
    {task : RowLocks Unit Task Nat}
    (updated : market.task.update? process () write.assign = some task) :
    Safe { market.move process (.commit (some write)) with task } := by
  have same := RowLocks.committed_update? updated
  have owes := RowLocks.Owes.update? mine.1 rfl updated
  have every : Function.update (fun _ => none) () (some write.assign) =
      fun _ => some write.assign := funext fun _ => rfl
  rw [every] at owes
  have grows : Grows market
      { market.move process (.commit (some write)) with task } := by
    refine ⟨id, fun engaged => ?_⟩
    rw [Engaged, row, same]
    exact engaged
  refine safe.step rfl (.update? updated) (.refl _ process) grows
    (safe.clean.update? updated) safe.agents
    ⟨owes, mine.2.grow grows, ?_⟩ ?_
  · cases write with
    | accept =>
        obtain ⟨old, found, opened⟩ := (Option.any_eq_true _ _).mp selected
        rcases RowLocks.update?_eq_some updated with
          ⟨absent, _⟩ | ⟨_, _, put⟩
        · rw [absent] at found
          cases found
        · rw [mine.1.visible rfl] at found
          refine ⟨?_, old, ?_, beq_iff_eq.mp opened⟩
          · rw [(RowLocks.put?_eq_some put).2]
            exact RowLocks.holder_hold_self market.task process ()
          · rw [row, same]
            exact found
    | acceptFor _ _ | deliver | complete => trivial
  · have drafts := safe.drafts process
    rw [here] at drafts
    cases write with
    | accept _ | acceptFor _ _ | deliver | complete => exact drafts

theorem commit (safe : market.Safe) {write : Option TaskWrite}
    (here : market.phases process = .commit write) :
    Safe { market.move process .idle with
      task := market.task.commit process
      bids := market.bids.commit process } := by
  have mine := safe.holds process
  rw [here] at mine
  have owes : ∃ assigned, market.task.Owes process assigned ∧
      assigned () = write.map TaskWrite.assign := by
    cases write with
    | none => exact ⟨_, mine, rfl⟩
    | some => exact ⟨_, mine.1, rfl⟩
  obtain ⟨_, owes, same⟩ := owes
  refine safe.step rfl owes.steady (.commit _ process) ⟨id, ?_⟩
    (safe.clean.release process) ?_ (.commit _ process) ?_
  · intro engaged
    have later := owes.committed_commit ()
    rw [same] at later
    cases write with
    | none =>
        rw [Engaged, row]
        rw [show (market.task.commit process).committed () =
          market.task.committed () from later]
        exact engaged
    | some => exact engaged_assign later engaged
  · intro bidId bid found
    obtain ⟨_, visible, rfl⟩ := Option.bind_eq_some_iff.mp found
    exact agents_visible safe visible
  · exact RowLocks.Drafts.release market.bids process _

theorem advance (safe : market.Safe) (process : Nat) (seen : List BidId) :
    (market.advance process seen).Safe := by
  have mine := safe.holds process
  unfold Market.advance
  split
  · exact safe
  · rename_i call here
    rw [here] at mine
    have waits : (market.phases process).accepting = none := by rw [here]; rfl
    split
    · rename_i phase fetches
      rw [mine.visible rfl] at fetches
      exact safe.move (fetched_holds mine fetches) waits
    · exact safe.move mine waits
  · rename_i proposal here
    rw [here] at mine
    refine safe.onBids mine (.inl (by rw [here]; rfl)) ?_
    intro bidId _ row _ bid same
    cases same
  · rename_i proposal here
    rw [here] at mine
    split
    · rename_i bids put
      have grows : Grows market { market.move process (.commit none) with
          bids, drawn := market.drawn ++ [proposal.agentPrincipalId] } := by
        refine ⟨fun {bidId agent} known => ?_, id⟩
        obtain ⟨bound, _⟩ := List.getElem?_eq_some_iff.mp known
        exact (List.getElem?_append_left bound).trans known
      have same := RowLocks.committed_put? put
      refine safe.step rfl (.refl _ process) (.put? put) grows safe.clean
        ?_ mine ?_
      · intro bidId bid found
        rw [bid?, same] at found
        exact grows.drawn (safe.agents found)
      · have drafts : market.bids.Drafts process
            (Allowed (market.drawn ++ [proposal.agentPrincipalId]) none) := by
          intro bidId bid held draft
          have allowed := safe.drafts process bidId bid held draft
          rw [here] at allowed
          exact allowed.grow grows
        refine drafts.put? ?_ put
        intro bid same
        cases same
        exact ⟨by simp, fun accepted => by cases accepted⟩
    · exact safe
  · rename_i bidId here
    rw [here] at mine
    split
    · rename_i bid found
      exact safe.move ⟨mine, agents_visible safe found⟩ (by rw [here]; rfl)
    · exact safe.rollback process
  · rename_i bidId agentPrincipalId here
    rw [here] at mine
    refine safe.onBids mine (.inl (by rw [here]; rfl)) ?_
    intro other member row known
    rw [List.mem_singleton.mp member] at known ⊢
    exact allowed_withStatus safe known fun _ => rfl
  · rename_i bidId agentPrincipalId here
    rw [here] at mine
    refine safe.onBids mine (.inr (by rw [here]; rfl)) ?_
    intro other _ row known
    exact allowed_withStatus safe known fun accepted => by cases accepted
  · rename_i write here
    rw [here] at mine
    split
    · rename_i selected
      split
      · rename_i task updated
        exact safe.update mine here selected updated
      · exact safe
    · exact safe.rollback process
  · rename_i write here
    exact safe.commit here

theorem action (safe : market.Safe) (action : MarketAction) :
    (marketStep market action).Safe := by
  cases action with
  | call process call =>
      simp only [marketStep]
      split
      · rename_i here
        have mine := safe.holds process
        rw [here] at mine
        exact safe.move mine (by rw [here]; rfl)
      · exact safe
  | advance process seen => exact safe.advance process seen
  | crash process => exact safe.rollback process

end Safe

def commits? (market : Market) : MarketAction → Option TaskWrite
  | .advance process _ =>
      match market.phases process with
      | .commit write => write
      | _ => none
  | _ => none

theorem committed_step (market : Market) (action : MarketAction) :
    (market.commits? action = none ∧
        (marketStep market action).task.committed = market.task.committed ∧
        (marketStep market action).bids.committed = market.bids.committed) ∨
      ∃ process seen write, action = .advance process seen ∧
        market.phases process = .commit write := by
  cases action with
  | call =>
      refine .inl ⟨rfl, ?_⟩
      simp only [marketStep]
      split <;> exact ⟨rfl, rfl⟩
  | crash => exact .inl ⟨rfl, rfl, rfl⟩
  | advance process seen =>
      have bids : ∀ phase condition assign keys,
          (market.onBids process phase (market.bids.updateWhere? process
              condition assign keys)).task.committed =
            market.task.committed ∧
          (market.onBids process phase (market.bids.updateWhere? process
              condition assign keys)).bids.committed =
            market.bids.committed := by
        intro phase condition assign keys
        unfold Market.onBids
        split
        · rename_i bids written
          exact ⟨rfl, (RowLocks.Frame.updateWhere? written).2⟩
        · exact ⟨rfl, rfl⟩
      cases here : market.phases process with
      | commit write => exact .inr ⟨process, seen, write, rfl, here⟩
      | idle =>
          exact .inl (by simp [commits?, marketStep, Market.advance, here])
      | fetch | pick =>
          refine .inl ⟨by simp [commits?, here], ?_⟩
          simp only [marketStep, Market.advance, here]
          split <;> exact ⟨rfl, rfl⟩
      | withdraw _ | mark _ _ | reject _ _ =>
          refine .inl ⟨by simp [commits?, here], ?_⟩
          simp only [marketStep, Market.advance, here]
          exact bids _ _ _ _
      | insert proposal =>
          refine .inl ⟨by simp [commits?, here], ?_⟩
          simp only [marketStep, Market.advance, here]
          split
          · rename_i written put
            exact ⟨rfl, RowLocks.committed_put? put⟩
          · exact ⟨rfl, rfl⟩
      | write write =>
          refine .inl ⟨by simp [commits?, here], ?_⟩
          simp only [marketStep, Market.advance, here]
          split
          · split
            · rename_i task updated
              exact ⟨RowLocks.committed_update? updated, rfl⟩
            · exact ⟨rfl, rfl⟩
          · exact ⟨rfl, rfl⟩

theorem Safe.row_step (safe : market.Safe) (action : MarketAction) :
    (marketStep market action).row =
      (market.commits? action).elim market.row fun write =>
        market.row.map write.assign := by
  rcases committed_step market action with
    ⟨quiet, task, _⟩ | ⟨process, seen, write, rfl, here⟩
  · rw [row, task, quiet]
    rfl
  · have mine := safe.holds process
    rw [here] at mine
    simp only [marketStep, Market.advance, commits?, here, row]
    cases write with
    | none => exact RowLocks.Owes.committed_commit mine ()
    | some => exact mine.1.committed_commit ()

theorem Safe.bid?_step (safe : market.Safe) {action : MarketAction} {bid : Bid}
    (found : (marketStep market action).bid? bidId = some bid) :
    market.bid? bidId = some bid ∨
      (bid.status = .accepted → market.commits? action =
        some (.acceptFor bidId bid.agentPrincipalId)) := by
  rcases committed_step market action with
    ⟨_, _, bids⟩ | ⟨process, seen, write, rfl, here⟩
  · rw [bid?, bids] at found
    exact .inl found
  · have mine := safe.holds process
    have drafts := safe.drafts process
    rw [here] at mine drafts
    simp only [marketStep, Market.advance, here] at found
    obtain ⟨_, visible, same⟩ := Option.bind_eq_some_iff.mp found
    cases same
    rcases RowLocks.visible_cases visible with stored | ⟨held, draft⟩
    · exact .inl (Option.bind_eq_some_iff.mpr ⟨_, stored, rfl⟩)
    · obtain ⟨drawn, accepts⟩ := drafts bidId _ held draft bid rfl
      refine .inr fun accepted => ?_
      have accepting := accepts accepted
      simp only [commits?, here]
      cases write with
      | none => cases accepting
      | some write =>
          cases write with
          | accept _ | deliver | complete => cases accepting
          | acceptFor =>
              cases accepting
              obtain ⟨_, agent, _⟩ := mine
              have same := Option.some.inj (agent.symm.trans drawn)
              rw [same]

theorem worker_after {old : Task} (found : market.row = some old)
    (carries : market.Carries write) :
    (write.assign old).status ≠ .opened ∧
      (write.assign old).workerPrincipalId ≠ none := by
  cases write with
  | accept _ | acceptFor _ _ =>
      exact ⟨fun same => (by cases same), Option.some_ne_none _⟩
  | deliver | complete =>
      obtain ⟨_, same, _, worker⟩ := carries
      rw [found, Option.some.injEq] at same
      subst same
      exact ⟨fun same => (by cases same), worker⟩

theorem Safe.commits (safe : market.Safe) {action : MarketAction}
    (commits : market.commits? action = some write) :
    market.Carries write ∧ ∀ workerPrincipalId,
      write = .accept workerPrincipalId →
        ∃ task, market.row = some task ∧ task.status = .opened := by
  cases action with
  | call _ _ | crash _ => cases commits
  | advance process =>
      have mine := safe.holds process
      cases here : market.phases process with
      | commit =>
          simp only [commits?, here] at commits
          subst commits
          rw [here] at mine
          refine ⟨mine.2.1, ?_⟩
          rintro workerPrincipalId rfl
          exact mine.2.2.2
      | idle | fetch _ | withdraw _ | insert _ | pick _ | mark _ _
      | reject _ _ | write _ => simp [commits?, here] at commits

end Market

end AcpTask.Marketplace
