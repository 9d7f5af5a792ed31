import AcpTask.Action.Repository

namespace AcpTask.Action

open Library

/-! The repository as a machine: one action is one call, or one statement of
the sweep when other calls come between its statements. -/

inductive RepoAction where
  | createProposal (request : ProposalRequest)
  | decide (proposalId : String) (version : Nat) (userPrincipalId : String)
      (approved : Bool) (now : Int) (tenantId : Option String)
  | consumeApproval (binding : Binding) (now : Int)
  | issueLease (request : LeaseRequest) (now : Int)
  | consumeLease (leaseHash : Option String) (binding : Binding) (now : Int)
  | markDispatched (proposalId : String) (version : Nat) (now : Int)
  | completeExecution (proposalId : String) (version : Nat)
      (receiptJson : String) (now : Int) (brokerResponseJson : Option String)
  | failExecution (proposalId : String) (version : Nat) (reason : String)
      (now : Int) (unknown : Bool)
  | resolveUnknownAsAbsent (proposalId : String) (version : Nat)
      (reason : String) (now : Int)
  | recoverPreDispatchClaim (proposalId : String) (version : Nat)
  | sweepStalledExecutions (now : Int) (limit : Nat)

inductive RepoResult where
  | created (result : Except ActionError Proposal)
  | consumed (row : Option Proposal)
  | leased (result : Except ActionError Unit)
  | swept (swept : Swept)
  | flag (value : Bool)

def flagged (result : Bool × ActionStore) : RepoResult × ActionStore :=
  (.flag result.1, result.2)

def perform (store : ActionStore) : RepoAction → RepoResult × ActionStore
  | .createProposal request =>
      let result := createProposal store request
      (.created result.1, result.2)
  | .decide proposalId version userPrincipalId approved now tenantId =>
      flagged (decide store proposalId version userPrincipalId approved now
        tenantId)
  | .consumeApproval binding now =>
      let result := consumeApproval store binding now
      (.consumed result.1, result.2)
  | .issueLease request now =>
      let result := issueLease store request now
      (.leased result.1, result.2)
  | .consumeLease leaseHash binding now =>
      flagged (consumeLease store leaseHash binding now)
  | .markDispatched proposalId version now =>
      flagged (markDispatched store proposalId version now)
  | .completeExecution proposalId version receiptJson now
      brokerResponseJson =>
      flagged (completeExecution store proposalId version receiptJson now
        brokerResponseJson)
  | .failExecution proposalId version reason now unknown =>
      flagged (failExecution store proposalId version reason now unknown)
  | .resolveUnknownAsAbsent proposalId version reason now =>
      flagged (resolveUnknownAsAbsent store proposalId version reason now)
  | .recoverPreDispatchClaim proposalId version =>
      flagged (recoverPreDispatchClaim store proposalId version)
  | .sweepStalledExecutions now limit =>
      let result := sweepStalledExecutions store now limit
      (.swept result.1, result.2)

abbrev RepoEvent := RepoAction × RepoResult

def repoRun (actions : List RepoAction) :
    Logged ActionStore RepoAction RepoResult :=
  run (logStep perform) ⟨ActionStore.empty, []⟩ actions

def Approves (event : RepoEvent) (key : String × Nat)
    (userPrincipalId : String) : Prop :=
  ∃ now tenantId, event =
    (.decide key.1 key.2 userPrincipalId true now tenantId, .flag true)

/-- `mark_dispatched` took effect on this version. -/
def Dispatches (event : RepoEvent) (key : String × Nat) : Prop :=
  ∃ now, event = (.markDispatched key.1 key.2 now, .flag true)

/-- What the log owes to single use: an approval that is consumed was given by
the bound user, has not expired and was never dispatched before, and a version
is dispatched once. -/
def Admissible (event : RepoEvent) (older : List RepoEvent) : Prop :=
  (∀ binding now row,
    event = (.consumeApproval binding now, .consumed (some row)) →
      now ≤ row.expiresAt ∧
      (∃ decision ∈ older, Approves decision row.key row.userPrincipalId) ∧
      ∀ earlier ∈ older, ¬ Dispatches earlier row.key) ∧
  (∀ key, Dispatches event key → ∀ earlier ∈ older, ¬ Dispatches earlier key)

variable {store : ActionStore} {key : String × Nat} {guard : Proposal → Bool}
  {assign : Proposal → Proposal}

theorem guardedUpdate_effective {keepsKey : ∀ row, (assign row).key = row.key}
    {row : Proposal} (member : row ∈ store.proposals) (sameKey : row.key = key)
    (holds : guard row = true) :
    (guardedUpdate store key guard assign keepsKey).1 = true := by
  have found := Table.find?_eq_some_iff.mpr ⟨member, sameKey⟩
  simp [guardedUpdate, found, Option.filter, holds]

theorem guardedUpdate_found {keepsKey : ∀ row, (assign row).key = row.key}
    (effective : (guardedUpdate store key guard assign keepsKey).1 = true) :
    ∃ row, store.proposals.find? key = some row ∧ guard row = true := by
  obtain ⟨row, found⟩ := Option.isSome_iff_exists.mp effective
  obtain ⟨present, holds⟩ := Option.filter_eq_some_iff.mp found
  exact ⟨row, present, holds⟩

theorem find?_guardedUpdate {keepsKey : ∀ row, (assign row).key = row.key}
    {row : Proposal} (found : store.proposals.find? key = some row)
    (holds : guard row = true) :
    (guardedUpdate store key guard assign keepsKey).2.proposals.find? key =
      some (assign row) := by
  have sameKey := (Table.find?_eq_some_iff.mp found).2
  rw [guardedUpdate, Table.find?_updateWhere, found, Option.map_some]
  rw [if_pos (by simp [sameKey, holds])]

theorem consumeApproval_some {binding : Binding} {now : Int} {row : Proposal}
    (taken : (consumeApproval store binding now).1 = some row) :
    ∃ old, store.proposals.find? (binding.proposalId, binding.version) =
        some old ∧
      consumable binding now old = true ∧ row = startExecution now old := by
  unfold consumeApproval at taken
  split at taken
  · cases taken
  · obtain ⟨old, filtered, rfl⟩ := Option.map_eq_some_iff.mp taken
    obtain ⟨found, selected⟩ := Option.filter_eq_some_iff.mp filtered
    exact ⟨old, found, selected, rfl⟩

/-! The invariant that links status, `dispatched_at` and the log. -/

def Proposal.Live (row : Proposal) : Prop :=
  row.status = .approved ∨ row.status = .executing

def Proposal.Unclaimed (row : Proposal) : Prop :=
  row.status = .proposed ∨ row.status = .approved

structure Consistent (store : ActionStore) (log : List RepoEvent) : Prop where
  approved : ∀ {row}, row ∈ store.proposals → row.Live →
    ∃ decision ∈ log, Approves decision row.key row.userPrincipalId
  undispatched : ∀ {row}, row ∈ store.proposals → row.Unclaimed →
    row.dispatchedAt = none
  dispatched : ∀ {event key}, event ∈ log → Dispatches event key →
    ∃ row, store.proposals.find? key = some row ∧ row.dispatchedAt.isSome

namespace Consistent

variable {store : ActionStore} {log : List RepoEvent}

theorem initial : Consistent ActionStore.empty [] where
  approved member := absurd member (Table.not_mem_empty _)
  undispatched member := absurd member (Table.not_mem_empty _)
  dispatched member := absurd member List.not_mem_nil

section Consistent

variable (consistent : Consistent store log)

include consistent

/-- An `UPDATE` keeps the invariant when it makes a row live only on the user's
word, reopens none that was dispatched, and never forgets a dispatch. -/
theorem update {condition : Proposal → Bool} {assign : Proposal → Proposal}
    {keepsKey : ∀ row, (assign row).key = row.key}
    (sameUser : ∀ row, (assign row).userPrincipalId = row.userPrincipalId)
    (approvals : ∀ row ∈ store.proposals, condition row = true →
      (assign row).Live →
        ∃ decision ∈ log, Approves decision row.key row.userPrincipalId)
    (reopens : ∀ row ∈ store.proposals, condition row = true →
      (assign row).Unclaimed → (assign row).dispatchedAt = none)
    (remembers : ∀ row, row.dispatchedAt.isSome →
      (assign row).dispatchedAt.isSome) :
    Consistent { store with
      proposals := store.proposals.updateWhere condition assign keepsKey }
      log := by
  constructor
  · intro row member live
    simp only [Table.mem_updateWhere] at member
    obtain ⟨old, oldMember, rfl⟩ := member
    by_cases selected : condition old = true
    · rw [if_pos selected] at live ⊢
      rw [keepsKey, sameUser]
      exact approvals old oldMember selected live
    · rw [if_neg selected] at live ⊢
      exact consistent.approved oldMember live
  · intro row member unclaimed
    simp only [Table.mem_updateWhere] at member
    obtain ⟨old, oldMember, rfl⟩ := member
    by_cases selected : condition old = true
    · rw [if_pos selected] at unclaimed ⊢
      exact reopens old oldMember selected unclaimed
    · rw [if_neg selected] at unclaimed ⊢
      exact consistent.undispatched oldMember unclaimed
  · intro event key member dispatches
    obtain ⟨row, found, marked⟩ := consistent.dispatched member dispatches
    refine ⟨_, by rw [Table.find?_updateWhere, found]; rfl, ?_⟩
    dsimp only
    split
    · exact remembers row marked
    · exact marked

theorem logged {event : RepoEvent} (quiet : ∀ key, ¬ Dispatches event key) :
    Consistent store (event :: log) where
  approved member live := by
    obtain ⟨decision, logged, approves⟩ := consistent.approved member live
    exact ⟨decision, List.mem_cons_of_mem event logged, approves⟩
  undispatched := consistent.undispatched
  dispatched member dispatches := by
    rcases List.mem_cons.mp member with rfl | older
    · exact absurd dispatches (quiet _)
    · exact consistent.dispatched older dispatches

theorem leases (leases : Table Lease Lease.key) :
    Consistent { store with leases } log :=
  ⟨consistent.approved, consistent.undispatched, consistent.dispatched⟩

theorem insert {row : Proposal} {proposals : Table Proposal Proposal.key}
    (proposed : row.status = .proposed) (fresh : row.dispatchedAt = none)
    (inserted : store.proposals.insert? row = some proposals) :
    Consistent { store with proposals } log := by
  constructor
  · intro other member live
    rcases (Table.mem_of_insert? inserted).mp member with old | rfl
    · exact consistent.approved old live
    · rw [Proposal.Live, proposed] at live
      rcases live with equal | equal <;> cases equal
  · intro other member unclaimed
    rcases (Table.mem_of_insert? inserted).mp member with old | rfl
    · exact consistent.undispatched old unclaimed
    · exact fresh
  · intro event key member dispatches
    obtain ⟨old, found, marked⟩ := consistent.dispatched member dispatches
    exact ⟨old, Table.insert?_keeps inserted found, marked⟩

theorem insertProposal {row : Proposal} {later : ActionStore}
    (proposed : row.status = .proposed) (fresh : row.dispatchedAt = none)
    (inserted : Action.insertProposal store row = .ok later) :
    Consistent later log := by
  unfold Action.insertProposal at inserted
  split at inserted
  · cases inserted
  · split at inserted
    · rename_i insertion
      cases inserted
      exact consistent.insert proposed fresh insertion
    · cases inserted

theorem close {condition : Proposal → Bool} {assign : Proposal → Proposal}
    {keepsKey : ∀ row, (assign row).key = row.key}
    (sameUser : ∀ row, (assign row).userPrincipalId = row.userPrincipalId)
    (closed : ∀ row, ¬ (assign row).Live ∧ ¬ (assign row).Unclaimed)
    (sameMark : ∀ row, (assign row).dispatchedAt = row.dispatchedAt) :
    Consistent { store with
      proposals := store.proposals.updateWhere condition assign keepsKey }
      log :=
  consistent.update sameUser
    (fun row _ _ live => absurd live (closed row).1)
    (fun row _ _ unclaimed => absurd unclaimed (closed row).2)
    (fun row marked => by rwa [sameMark])

theorem supersede (proposalId : String) :
    Consistent (Action.supersede store proposalId) log :=
  consistent.close (fun _ => rfl)
    (fun _ => by simp [Proposal.Live, Proposal.Unclaimed]) (fun _ => rfl)

theorem createProposal (request : ProposalRequest) :
    Consistent (Action.createProposal store request).2 log := by
  unfold Action.createProposal
  refine transaction_preserves (motive := (Consistent · log)) consistent
    fun value later created => ?_
  split at created
  · cases created
  · obtain ⟨_, insertion, committed⟩ := bind_eq_ok.mp created
    cases committed
    exact (consistent.supersede _).insertProposal rfl rfl insertion

theorem consumeApproval (binding : Binding) (now : Int) :
    Consistent (Action.consumeApproval store binding now).2 log := by
  unfold Action.consumeApproval
  split
  · exact consistent
  · refine consistent.update (fun _ => rfl) ?_ ?_ (fun _ marked => marked)
    · intro row member selected _
      simp only [consumable, Bool.and_eq_true, beq_iff_eq] at selected
      exact consistent.approved member (.inl selected.2.1.2)
    · intro row _ _ unclaimed
      rcases unclaimed with equal | equal <;> cases equal

theorem markDispatched (proposalId : String) (version : Nat) (now : Int) :
    Consistent (Action.markDispatched store proposalId version now).2 log := by
  refine consistent.update (fun _ => rfl) ?_ ?_ (fun _ _ => rfl)
  · intro row member _ live
    exact consistent.approved member live
  · intro row _ selected unclaimed
    simp only [preDispatch, Bool.and_eq_true, beq_iff_eq] at selected
    rw [Proposal.Unclaimed, selected.2.1] at unclaimed
    rcases unclaimed with equal | equal <;> cases equal

theorem recoverPreDispatchClaim (proposalId : String) (version : Nat) :
    Consistent (Action.recoverPreDispatchClaim store proposalId version).2
      log := by
  refine consistent.update (fun _ => rfl) ?_ ?_ (fun _ marked => marked)
  · intro row member selected _
    simp only [preDispatch, Bool.and_eq_true, beq_iff_eq] at selected
    exact consistent.approved member (.inr selected.2.1)
  · intro row _ selected _
    simp only [preDispatch, Bool.and_eq_true, Option.isNone_iff_eq_none]
      at selected
    exact selected.2.2

theorem failExecution (proposalId : String) (version : Nat) (reason : String)
    (now : Int) (unknown : Bool) :
    Consistent (Action.failExecution store proposalId version reason now
      unknown).2 log := by
  refine consistent.close (fun _ => rfl) ?_ (fun _ => rfl)
  intro row
  cases unknown <;> simp [Proposal.Live, Proposal.Unclaimed]

end Consistent

theorem sweepRow (now : Int) (swept : Swept × ActionStore)
    (consistent : Consistent swept.2 log) (row : Proposal) :
    Consistent (Action.sweepRow now swept row).2 log := by
  unfold Action.sweepRow
  split
  · exact consistent.recoverPreDispatchClaim row.proposalId row.version
  · exact consistent.failExecution row.proposalId row.version _ now true

theorem sweepStalledExecutions (consistent : Consistent store log)
    (now : Int) (limit : Nat) :
    Consistent (Action.sweepStalledExecutions store now limit).2 log := by
  unfold Action.sweepStalledExecutions
  generalize ({} : Swept) = swept
  generalize stalledExecutions store now limit = rows
  induction rows generalizing swept store with
  | nil => exact consistent
  | cons row _ induction =>
      exact induction (sweepRow now (swept, store) consistent row) _

theorem decide (consistent : Consistent store log) {proposalId : String}
    {version : Nat} {userPrincipalId : String} {approved : Bool} {now : Int}
    {tenantId : Option String} :
    Consistent
      (Action.decide store proposalId version userPrincipalId approved now
        tenantId).2
      ((.decide proposalId version userPrincipalId approved now tenantId,
        .flag (Action.decide store proposalId version userPrincipalId approved
          now tenantId).1) :: log) := by
  refine (consistent.logged ?_).update ?_ ?_ ?_ ?_
  · rintro key ⟨_, equal⟩
    cases equal
  · intro row
    cases approved <;> rfl
  · intro row member selected live
    cases approved with
    | false => rcases live with equal | equal <;> cases equal
    | true =>
        obtain ⟨sameKey, holds⟩ := Bool.and_eq_true_iff.mp selected
        have effective : (Action.decide store proposalId version
            userPrincipalId true now tenantId).1 = true :=
          guardedUpdate_effective member (of_decide_eq_true sameKey) holds
        simp only [Bool.and_eq_true, beq_iff_eq] at holds
        refine ⟨_, List.mem_cons_self, now, tenantId, ?_⟩
        rw [effective, of_decide_eq_true sameKey, holds.1.1.1]
  · intro row member selected _
    simp only [Bool.and_eq_true, beq_iff_eq] at selected
    have undispatched := consistent.undispatched member (.inl selected.2.1.1.2)
    cases approved <;> exact undispatched
  · intro row marked
    cases approved <;> exact marked

theorem perform (consistent : Consistent store log) (action : RepoAction) :
    Consistent (Action.perform store action).2
      ((action, (Action.perform store action).1) :: log) := by
  have quietly : ∀ {later : ActionStore} {result : RepoResult},
      (∀ proposalId version now,
        action ≠ .markDispatched proposalId version now) →
      Consistent later log → Consistent later ((action, result) :: log) := by
    intro later result other kept
    refine kept.logged ?_
    rintro key ⟨now, equal⟩
    exact other _ _ _ (congrArg Prod.fst equal)
  cases action with
  | createProposal request =>
      exact quietly (by simp) (consistent.createProposal request)
  | decide => exact consistent.decide
  | consumeApproval binding now =>
      exact quietly (by simp) (consistent.consumeApproval binding now)
  | issueLease =>
      refine quietly (by simp) ?_
      simp only [Action.perform, Action.issueLease]
      split <;> exact consistent.leases _
  | consumeLease leaseHash =>
      refine quietly (by simp) ?_
      cases leaseHash with
      | none => exact consistent
      | some => exact consistent.leases _
  | markDispatched proposalId version now =>
      have marked := consistent.markDispatched proposalId version now
      refine ⟨?_, marked.undispatched, ?_⟩
      · intro row member live
        obtain ⟨decision, logged, approves⟩ := marked.approved member live
        exact ⟨decision, List.mem_cons_of_mem _ logged, approves⟩
      · intro event key member dispatches
        rcases List.mem_cons.mp member with rfl | older
        · obtain ⟨_, equal⟩ := dispatches
          have effective : (Action.markDispatched store proposalId version
              now).1 = true := by
            simpa [Action.perform, flagged] using congrArg Prod.snd equal
          have sameAction := congrArg Prod.fst equal
          simp only [RepoAction.markDispatched.injEq] at sameAction
          obtain ⟨rfl, rfl, _⟩ := sameAction
          obtain ⟨_, found, selected⟩ := guardedUpdate_found effective
          exact ⟨_, find?_guardedUpdate found selected, rfl⟩
        · exact marked.dispatched older dispatches
  | completeExecution | resolveUnknownAsAbsent =>
      refine quietly (by simp) (consistent.close (fun _ => rfl) ?_
        (fun _ => rfl))
      simp [Proposal.Live, Proposal.Unclaimed]
  | failExecution proposalId version reason now unknown =>
      exact quietly (by simp)
        (consistent.failExecution proposalId version reason now unknown)
  | recoverPreDispatchClaim proposalId version =>
      exact quietly (by simp)
        (consistent.recoverPreDispatchClaim proposalId version)
  | sweepStalledExecutions now limit =>
      exact quietly (by simp) (consistent.sweepStalledExecutions now limit)

theorem admits (consistent : Consistent store log) (action : RepoAction) :
    Admissible (action, (Action.perform store action).1) log := by
  constructor
  · intro binding now row equal
    have sameAction := congrArg Prod.fst equal
    dsimp only at sameAction
    subst sameAction
    have taken : (Action.consumeApproval store binding now).1 = some row := by
      simpa [Action.perform] using congrArg Prod.snd equal
    obtain ⟨old, found, selected, rfl⟩ := consumeApproval_some taken
    obtain ⟨member, _⟩ := Table.find?_eq_some_iff.mp found
    simp only [consumable, Bool.and_eq_true, beq_iff_eq, decide_eq_true_eq]
      at selected
    have approvedBy := consistent.approved member (.inl selected.1.2)
    refine ⟨selected.2, approvedBy, ?_⟩
    intro earlier older dispatches
    obtain ⟨marked, markedFound, isMarked⟩ :=
      consistent.dispatched older dispatches
    have same : marked = old := by
      obtain ⟨markedMember, markedKey⟩ := Table.find?_eq_some_iff.mp markedFound
      exact Table.eq_of_key markedMember member markedKey
    rw [same, consistent.undispatched member (.inr selected.1.2)] at isMarked
    cases isMarked
  · rintro key ⟨now, equal⟩ earlier older dispatches
    have sameAction := congrArg Prod.fst equal
    dsimp only at sameAction
    subst sameAction
    have effective :
        (Action.markDispatched store key.1 key.2 now).1 = true := by
      simpa [Action.perform, flagged] using congrArg Prod.snd equal
    obtain ⟨_, found, selected⟩ := guardedUpdate_found effective
    obtain ⟨_, markedFound, isMarked⟩ := consistent.dispatched older dispatches
    obtain rfl := Option.some.inj (found.symm.trans markedFound)
    simp only [preDispatch, Bool.and_eq_true, Option.isNone_iff_eq_none]
      at selected
    rw [selected.2] at isMarked
    cases isMarked

end Consistent

/-- In every sequence of calls, a version is dispatched at most once, no
approval is consumed after that, and an approval that is consumed was given by
the bound user and had not expired. -/
theorem approval_spent_once (actions : List RepoAction) :
    Lawful Admissible (repoRun actions).log :=
  lawful_run perform Admissible Consistent
    (fun action consistent => consistent.perform action)
    (fun action consistent => consistent.admits action)
    Consistent.initial actions

def sampleRequest : ProposalRequest where
  proposalId := "proposal"
  idempotencyKey := "key"
  userPrincipalId := "user"
  agentPrincipalId := "agent"
  credentialId := "credential"
  capabilityId := "slack.message.send"
  payloadJson := "\x7b\x7d"
  payloadHash := "44136fa355b3678a1146ad16f7e8649e94fb4fc21fe77e8310c060f61caaff8a"
  expiresAt := 100

def sampleBinding : Binding where
  proposalId := "proposal"
  version := 1
  userPrincipalId := "user"
  agentPrincipalId := "agent"
  credentialId := "credential"
  capabilityId := "slack.message.send"
  payloadHash := "44136fa355b3678a1146ad16f7e8649e94fb4fc21fe77e8310c060f61caaff8a"
  idempotencyKey := "key"

/-- An approval that expires at 100 is consumed at 100, when its expiry is no
longer in the future. -/
theorem approval_consumed_at_expiry :
    ¬ ∀ (actions : List RepoAction) (binding : Binding) (now : Int)
      (row : Proposal),
      (.consumeApproval binding now, .consumed (some row)) ∈
        (repoRun actions).log → now < row.expiresAt := by
  intro future
  have early := future
    [.createProposal sampleRequest, .decide "proposal" 1 "user" true 50 none,
      .consumeApproval sampleBinding 100] sampleBinding 100
    { sampleRequest.row 1 with
      status := .executing, approvedAt := some 50,
      executionStartedAt := some 100 }
    List.mem_cons_self
  exact absurd early (by decide)

/-- An approved or executing proposal was approved by its own user; a dispatched
version is marked so and can never be approved or consumed again. -/
theorem live_proposals_approved (actions : List RepoAction) :
    let system := repoRun actions
    (∀ row ∈ system.state.proposals, row.Live →
      ∃ decision ∈ system.log,
        Approves decision row.key row.userPrincipalId) ∧
    ∀ event ∈ system.log, ∀ key, Dispatches event key →
      ∃ row, system.state.proposals.find? key = some row ∧
        row.dispatchedAt.isSome ∧ ¬ row.Unclaimed := by
  have consistent : Consistent (repoRun actions).state (repoRun actions).log :=
    run_invariant (logStep perform)
      (fun system => Consistent system.state system.log)
      (fun _ action consistent => consistent.perform action)
      Consistent.initial actions
  refine ⟨fun _ => consistent.approved, fun event logged key dispatches => ?_⟩
  obtain ⟨row, found, marked⟩ := consistent.dispatched logged dispatches
  refine ⟨row, found, marked, fun unclaimed => ?_⟩
  rw [consistent.undispatched (Table.find?_eq_some_iff.mp found).1 unclaimed]
    at marked
  cases marked

end AcpTask.Action
