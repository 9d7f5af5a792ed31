import Mathlib.Data.List.Perm.Subperm
import AcpTask.Workflow.Calls

namespace AcpTask.Workflow

open Library

/-! Everything a call can do to the row of a step, in either back end. -/

structure Step.Alike (row next : Step) : Prop where
  key : next.key = row.key
  workflowRunId : next.workflowRunId = row.workflowRunId
  tenantId : next.tenantId = row.tenantId
  dependsOn : next.dependsOn = row.dependsOn
  effect : next.effect = row.effect

theorem Step.Alike.refl (row : Step) : row.Alike row :=
  ⟨rfl, rfl, rfl, rfl, rfl⟩

structure Stand where
  status : ExecutionStatus
  attempt : Nat
  uncounted : Nat

def Step.stand (row : Step) : Stand :=
  ⟨row.executionStatus, row.attempt, row.uncountedAttempts⟩

def Lease.strands (backend : Backend) (now : Int) (skipped : List String)
    (row : Step) (lease : Lease) : Bool :=
  row.is lease.step lease.tenantId && decide (lease.expiresAt < now) &&
    lease.isOpen &&
    (decide (backend = .sqlite) || !skipped.contains lease.leaseHash)

def Backend.switchable : Backend → String → Bool
  | .sqlite => Workflow.switchable
  | .postgres => Postgres.switchable

def writes (backend : Backend) (store : WorkflowStore) :
    RepositoryCall → Step → Option ExecutionStatus
  | .createRevision target _ _ _ _, row =>
      if row.workflowRunId == target.workflowRunId &&
        row.executionStatus.cancellable then some .cancelled else none
  | .markExecutionUnknown key tenantId _, row =>
      if row.is key tenantId then some .executionUnknown else none
  | .pauseByPolicy key tenantId _, row =>
      if row.is key tenantId then some .pausedByPolicy else none
  | .releaseForRetry key tenantId _ _, row =>
      if row.is key tenantId then some .queued else none
  | .persistCompletion key tenantId attempt _ _ _, row =>
      if row.completes key tenantId attempt then some .completed else none
  | .recoverExpiredClaims now skipped, row =>
      if row.executionStatus == .running &&
        store.leases.rows.any (Lease.strands backend now skipped row) then
          some row.effect.recovered else none
  | .applyReconciliation key tenantId attempt result _, row =>
      match result.executionStatus with
      | .completed =>
          if row.completes key tenantId attempt then some .completed else none
      | .queued =>
          if row.is key tenantId && row.attempt == attempt &&
            row.executionStatus == .executionUnknown then some .queued
          else none
      | _ => none
  | .resumePolicyPaused, row =>
      if row.executionStatus == .pausedByPolicy &&
        row.terminalReason.any backend.switchable then some .queued else none
  | .cancelSteps target, row =>
      if row.workflowRunId == target.workflowRunId &&
        row.workflowRevisionId == target.workflowRevisionId &&
        row.tenantId == target.tenantId && row.executionStatus.cancellable
      then some .cancelled else none
  | .retryCorrectedWrite key tenantId, row =>
      if row.is key tenantId && row.effect == .write &&
        row.executionStatus == .pausedByPolicy &&
        row.terminalReason.any fun reason =>
          likePrefix "missing_scope:".toList reason.toList
      then some .queued else none
  | _, _ => none

def Ready (store : WorkflowStore) (row : Step) : Prop :=
  ∀ dependency ∈ row.dependsOn, ∃ parent,
    store.steps.find? (row.workflowRevisionId, dependency) = some parent ∧
      parent.executionStatus = .completed

def grant (backend : Backend) (digests : Digests) (store : WorkflowStore) :
    RepositoryCall → Option Claim
  | .claimReadyStep target workerId token now leaseTtlSeconds maxAttempts
      locked =>
      let answer := match backend with
        | .sqlite => (claimReadyStep digests store target workerId token now
            leaseTtlSeconds maxAttempts).1
        | .postgres => (Postgres.claimReadyStep digests store target workerId
            token now leaseTtlSeconds maxAttempts locked).1
      match answer with
      | .ok claim => claim
      | .error _ => none
  | _ => none

inductive RowMove (backend : Backend) (digests : Digests)
    (store : WorkflowStore) (row next : Step) : RepositoryCall → Prop where
  | kept {call : RepositoryCall} (stand : next.stand = row.stand) :
      RowMove backend digests store row next call
  | written {call : RepositoryCall} (status : ExecutionStatus)
      (writes : writes backend store call row = some status)
      (stand : next.stand = { row.stand with status }) :
      RowMove backend digests store row next call
  | released {key : StepKey} {tenantId reason : String} {retryAt : Int}
      (selected : row.is key tenantId = true)
      (running : row.executionStatus = .running)
      (stand : next.stand = ⟨.queued, row.attempt, row.uncountedAttempts + 1⟩) :
      RowMove backend digests store row next
        (.releaseWithoutConsumingAttempt key tenantId reason retryAt
          row.attempt)
  | exhausted {target : Target} {workerId token : String}
      {now leaseTtlSeconds maxAttempts : Int} {locked : List StepKey}
      (queued : target.queued row = true)
      (spent : maxAttempts ≤ (row.attempt : Int) - row.uncountedAttempts)
      (stand : next.stand = { row.stand with status := .failed }) :
      RowMove backend digests store row next (.claimReadyStep target workerId token now
        leaseTtlSeconds maxAttempts locked)
  | claimed {target : Target} {workerId token : String}
      {now leaseTtlSeconds maxAttempts : Int} {locked : List StepKey}
      (queued : target.queued row = true) (ready : Ready store row)
      (grants : grant backend digests store (.claimReadyStep target workerId
        token now leaseTtlSeconds maxAttempts locked) =
          some ⟨token, row.key, row.attempt + 1⟩)
      (stand : next.stand =
        ⟨.running, row.attempt + 1, row.uncountedAttempts⟩) :
      RowMove backend digests store row next (.claimReadyStep target workerId token now
        leaseTtlSeconds maxAttempts locked)

inductive RowsMove (backend : Backend) (digests : Digests)
    (store : WorkflowStore) (call : RepositoryCall) :
    Option Step → Option Step → Prop where
  | absent : RowsMove backend digests store call none none
  | present {row next : Step} (alike : row.Alike next)
      (move : RowMove backend digests store row next call) :
      RowsMove backend digests store call (some row) (some next)
  | planned {target : Target} {planGraphHash : String}
      {plan : List PlannedStep} {now contentTtlSeconds : Int}
      (planned : PlannedStep) (member : planned ∈ plan)
      (creates : call =
        .createRevision target planGraphHash plan now contentTtlSeconds)
      (fresh : store.revisions.find? target.workflowRevisionId = none) :
      RowsMove backend digests store call none
        (some (planned.row target.workflowRevisionId target.workflowRunId
          target.tenantId now contentTtlSeconds))

section Statements

variable {backend : Backend} {digests : Digests}
  {store later : WorkflowStore} {call : RepositoryCall}

theorem RowsMove.refl (found : Option Step) :
    RowsMove backend digests store call found found := by
  cases found with
  | none => exact .absent
  | some row => exact .present (.refl row) (.kept rfl)

theorem RowsMove.of_steps (same : later.steps = store.steps) (key : StepKey) :
    RowsMove backend digests store call (store.steps.find? key)
      (later.steps.find? key) := by
  rw [same]
  exact .refl _

theorem RowsMove.update {condition : Step → Bool} {assign : Step → Step}
    (keepsKey : ∀ row, (assign row).key = row.key) (key : StepKey)
    (moves : ∀ row, store.steps.find? key = some row → condition row = true →
      row.Alike (assign row) ∧ RowMove backend digests store row (assign row) call) :
    RowsMove backend digests store call (store.steps.find? key)
      ((updateSteps store condition assign keepsKey).steps.find? key) := by
  rw [updateSteps, Table.find?_updateWhere]
  cases found : store.steps.find? key with
  | none => exact .absent
  | some row =>
      rw [Option.map_some]
      split
      · rename_i selected
        obtain ⟨alike, move⟩ := moves row found selected
        exact .present alike move
      · exact .present (.refl row) (.kept rfl)

theorem RowsMove.assign {condition : Step → Bool} {assign : Step → Step}
    (keepsKey : ∀ row, (assign row).key = row.key) (key : StepKey)
    (alike : ∀ row : Step, row.Alike (assign row))
    (written : ∀ row, condition row = true →
      RowMove backend digests store row (assign row) call) :
    RowsMove backend digests store call (store.steps.find? key)
      ((updateSteps store condition assign keepsKey).steps.find? key) :=
  .update keepsKey key fun row _ selected => ⟨alike row, written row selected⟩

theorem insertSteps_find? {row : PlannedStep → Step}
    {plan : List PlannedStep}
    (inserted : plan.foldlM (fun store planned => insertStep store
      (row planned)) store = .ok later) (key : StepKey) :
    later.steps.find? key = store.steps.find? key ∨
      (store.steps.find? key = none ∧ ∃ planned ∈ plan,
        later.steps.find? key = some (row planned)) := by
  refine foldlM_invariant_of_mem
    (fun current : WorkflowStore =>
      current.steps.find? key = store.steps.find? key ∨
        (store.steps.find? key = none ∧ ∃ planned ∈ plan,
          current.steps.find? key = some (row planned)))
    ?_ inserted (.inl rfl)
  intro current planned member next added before
  cases found : current.steps.find? key with
  | some old =>
      rw [insertStep_keeps added key old found, ← found]
      exact before
  | none =>
      have absent : store.steps.find? key = none := by
        rcases before with same | ⟨absent, _⟩
        · rw [← same, found]
        · exact absent
      simp only [insertStep, bind_eq_ok, pure_eq_ok] at added
      obtain ⟨_, success, rfl⟩ := added
      rw [(insertInto_ok success).2, found, absent]
      split
      · exact .inr ⟨rfl, planned, member, rfl⟩
      · exact .inl rfl

theorem insertRevision_fresh {workflowRunId : String} {row : Revision}
    {revisions : Table Revision Revision.workflowRevisionId}
    (inserted : insertInto (supersede store workflowRunId).revisions row =
      .ok revisions) :
    store.revisions.find? row.workflowRevisionId = none := by
  have absent := (insertInto_ok inserted).1
  rw [supersede, updateSteps, Table.find?_updateWhere,
    Option.map_eq_none_iff] at absent
  exact absent

variable {target : Target} {now : Int}

theorem createRevision_rows {planGraphHash : String} {plan : List PlannedStep}
    {contentTtlSeconds : Int} (key : StepKey) :
    RowsMove backend digests store
      (.createRevision target planGraphHash plan now contentTtlSeconds)
      (store.steps.find? key)
      ((createRevision store target.workflowRevisionId target.workflowRunId
        target.tenantId planGraphHash plan now
        contentTtlSeconds).2.steps.find? key) := by
  refine createRevision_preserves
    (motive := fun later : WorkflowStore => RowsMove backend digests store _
      (store.steps.find? key) (later.steps.find? key)) (.refl _) ?_
  intro revisions steps insertion inserted _
  have superseded : RowsMove backend digests store
      (.createRevision target planGraphHash plan now contentTtlSeconds)
      (store.steps.find? key)
      ((supersede store target.workflowRunId).steps.find? key) := by
    refine RowsMove.assign (fun _ => by rfl) key
      (fun _ => ⟨rfl, rfl, rfl, rfl, rfl⟩) ?_
    intro row selected
    refine .written .cancelled ?_ rfl
    simp only [writes, selected, if_true]
  rcases insertSteps_find? inserted key with
    same | ⟨absent, planned, member, added⟩
  · rw [same]
    exact superseded
  · have before : store.steps.find? key = none := by
      rw [absent] at superseded
      cases here : store.steps.find? key with
      | none => rfl
      | some =>
          rw [here] at superseded
          cases superseded
    rw [before, added]
    exact .planned planned member rfl (insertRevision_fresh insertion)

theorem failExhausted_rows (store : WorkflowStore) (target : Target)
    (workerId token : String) (now leaseTtlSeconds maxAttempts : Int)
    (locked : List StepKey) (key : StepKey) :
    RowsMove backend digests store
      (.claimReadyStep target workerId token now leaseTtlSeconds maxAttempts
        locked) (store.steps.find? key)
      ((failExhausted store target maxAttempts).steps.find? key) := by
  refine RowsMove.assign (fun _ => by rfl) key
    (fun _ => ⟨rfl, rfl, rfl, rfl, rfl⟩) ?_
  intro row selected
  simp only [Bool.and_eq_true, decide_eq_true_eq] at selected
  exact .exhausted selected.1 selected.2 rfl

variable {maxAttempts : Int} {row : Step}

theorem Ready.of_failExhausted
    (ready : Ready (failExhausted store target maxAttempts) row) :
    Ready store row := by
  intro dependency member
  obtain ⟨_, found, completed⟩ := ready dependency member
  rw [failExhausted, updateSteps, Table.find?_updateWhere,
    Option.map_eq_some_iff] at found
  obtain ⟨old, oldFound, written⟩ := found
  split at written
  · rw [← written] at completed
    cases completed
  · exact ⟨old, oldFound, by rw [written]; exact completed⟩

theorem startAttempt_rows (workerId token : String) (now leaseTtlSeconds : Int)
    (locked : List StepKey) {selected : Step}
    (member : selected ∈ (failExhausted store target maxAttempts).steps)
    (queued : target.queued selected = true)
    (ready : Ready (failExhausted store target maxAttempts) selected)
    (grants : grant backend digests store (.claimReadyStep target workerId
      token now leaseTtlSeconds maxAttempts locked) =
        some ⟨token, selected.key, selected.attempt + 1⟩) (key : StepKey) :
    RowsMove backend digests store
      (.claimReadyStep target workerId token now leaseTtlSeconds maxAttempts
        locked) (store.steps.find? key)
      ((startAttempt (failExhausted store target maxAttempts) selected.key
        (selected.attempt + 1) workerId now).steps.find? key) := by
  have trimmed : RowsMove backend digests store
      (.claimReadyStep target workerId token now leaseTtlSeconds maxAttempts
        locked) (store.steps.find? key)
      ((failExhausted store target maxAttempts).steps.find? key) :=
    failExhausted_rows store target workerId token now leaseTtlSeconds
      maxAttempts locked key
  rw [startAttempt, updateSteps, Table.find?_updateWhere]
  cases after : (failExhausted store target maxAttempts).steps.find? key with
  | none =>
      rw [after] at trimmed
      exact trimmed
  | some row =>
      rw [after] at trimmed
      rw [Option.map_some]
      split
      · rename_i starts
        simp only [Bool.and_eq_true, decide_eq_true_eq, beq_iff_eq] at starts
        have chosen : row = selected := by
          rw [Table.find?_eq_some_iff] at after
          exact Table.eq_of_key after.1 member starts.1
        subst chosen
        have before := failExhausted_queued after starts.2
        rw [before]
        exact .present ⟨rfl, rfl, rfl, rfl, rfl⟩
          (.claimed queued ready.of_failExhausted grants rfl)
      · exact trimmed

theorem dependenciesCompleted_ready
    (completed : dependenciesCompleted store row.workflowRevisionId
      row.dependsOn = true) : Ready store row := by
  intro dependency member
  unfold dependenciesCompleted at completed
  simp only [Bool.or_eq_true, List.isEmpty_iff, Bool.and_eq_true, beq_iff_eq,
    List.all_eq_true] at completed
  rcases completed with empty | ⟨size, statuses⟩
  · rw [empty] at member
    cases member
  · let parents := store.steps.rows.filter fun parent =>
      parent.workflowRevisionId == row.workflowRevisionId &&
        row.dependsOn.contains parent.stepId
    have sound : ∀ parent ∈ parents, parent ∈ store.steps ∧
        parent.workflowRevisionId = row.workflowRevisionId ∧
        parent.stepId ∈ row.dependsOn := by
      intro parent here
      simp only [parents, List.mem_filter, Bool.and_eq_true, beq_iff_eq,
        List.contains_iff_mem] at here
      exact ⟨here.1, here.2⟩
    have distinct : (parents.map Step.stepId).Nodup := by
      refine List.Nodup.map_on ?_
        ((List.Nodup.of_map _ store.steps.primaryKey).filter _)
      intro left leftMember right rightMember same
      obtain ⟨leftHere, leftRevision, _⟩ := sound left leftMember
      obtain ⟨rightHere, rightRevision, _⟩ := sound right rightMember
      exact Table.eq_of_key leftHere rightHere (Prod.ext
        (leftRevision.trans rightRevision.symm) same)
    have inside : parents.map Step.stepId ⊆ row.dependsOn := by
      intro stepId here
      obtain ⟨parent, parentMember, rfl⟩ := List.mem_map.mp here
      exact (sound parent parentMember).2.2
    have cover := (List.subperm_of_subset distinct inside).perm_of_length_le
      (by rw [List.length_map]; exact size.ge)
    obtain ⟨parent, parentMember, rfl⟩ :=
      List.mem_map.mp (cover.symm.subset member)
    obtain ⟨here, revision, _⟩ := sound parent parentMember
    exact ⟨parent, Table.find?_eq_some_iff.mpr
      ⟨here, Prod.ext revision rfl⟩, statuses parent parentMember⟩

theorem Postgres.dependenciesCompleted_ready
    (completed : Postgres.dependenciesCompleted store row = true) :
    Ready store row := by
  intro dependency member
  obtain ⟨parent, found, isCompleted⟩ := (Option.any_eq_true _ _).mp
    (List.all_eq_true.mp completed dependency member)
  simp only [Bool.and_eq_true, beq_iff_eq] at isCompleted
  exact ⟨parent, found, isCompleted.2⟩

theorem Postgres.selectReady_mem {locked : List StepKey} {selected : Step}
    (chosen : Postgres.selectReady store target now locked = some selected) :
    selected ∈ store.steps ∧ target.queued selected = true ∧
      Postgres.dependenciesCompleted store selected = true := by
  have member := List.mem_mergeSort.mp (List.mem_of_head? chosen)
  simp only [List.mem_filter, Bool.and_eq_true] at member
  exact ⟨member.1, member.2.1.1.1, member.2.1.2⟩

inductive ClaimMove (backend : Backend) (digests : Digests)
    (store : WorkflowStore) (target : Target) (workerId token : String)
    (now leaseTtlSeconds maxAttempts : Int) :
    Option Claim → WorkflowStore → Prop where
  | refused : ClaimMove backend digests store target workerId token now
      leaseTtlSeconds maxAttempts none store
  | trimmed : ClaimMove backend digests store target workerId token now
      leaseTtlSeconds maxAttempts none (failExhausted store target maxAttempts)
  | started {selected : Step} {leased : WorkflowStore}
      (member : selected ∈ (failExhausted store target maxAttempts).steps)
      (queued : target.queued selected = true)
      (ready : Ready (failExhausted store target maxAttempts) selected)
      (inserted : insertLease (startAttempt (failExhausted store target
          maxAttempts) selected.key (selected.attempt + 1) workerId now) {
        leaseHash := digests.lease token, step := selected.key
        attempt := selected.attempt + 1, tenantId := target.tenantId, workerId
        expiresAt := now + leaseTtlSeconds } = .ok leased)
      (free : backend = .postgres → ∀ other ∈ store.leases,
        other.step = selected.key → other.isOpen = false) :
      ClaimMove backend digests store target workerId token now
        leaseTtlSeconds maxAttempts
        (some ⟨token, selected.key, selected.attempt + 1⟩) leased

theorem claim_move (backend : Backend) (digests : Digests)
    (store : WorkflowStore) (target : Target) (workerId token : String)
    (now leaseTtlSeconds maxAttempts : Int) (locked : List StepKey) :
    ClaimMove backend digests store target workerId token now leaseTtlSeconds
      maxAttempts
      (grant backend digests store (.claimReadyStep target workerId token now
        leaseTtlSeconds maxAttempts locked))
      (repositoryStep backend digests store (.claimReadyStep target workerId
        token now leaseTtlSeconds maxAttempts locked)) := by
  cases backend with
  | sqlite =>
      simp only [grant, repositoryStep]
      cases answer : claimReadyStep digests store target workerId token now
          leaseTtlSeconds maxAttempts with
      | mk outcome later =>
          cases outcome with
          | error =>
              rw [transaction_error answer]
              exact .refused
          | ok claimed =>
              have body := transaction_ok_iff.mp answer
              dsimp only at body ⊢
              split at body
              · cases body
                exact .trimmed
              · rename_i selected chosen
                simp only [bind_eq_ok, pure_eq_ok, Prod.mk.injEq] at body
                obtain ⟨leased, inserted, rfl, rfl⟩ := body
                have member :=
                  List.mem_filter.mp (List.mem_of_find?_eq_some chosen)
                have queued := (Bool.and_eq_true_iff.mp member.2).1
                have completed := List.find?_some chosen
                have revision : selected.workflowRevisionId =
                    target.workflowRevisionId := by
                  simp only [Target.queued, Bool.and_eq_true, beq_iff_eq]
                    at queued
                  exact queued.1.1.2
                rw [← revision] at completed
                exact .started member.1 queued
                  (dependenciesCompleted_ready completed) inserted
                    fun postgres => by cases postgres
  | postgres =>
      simp only [grant, repositoryStep]
      cases answer : Postgres.claimReadyStep digests store target workerId
          token now leaseTtlSeconds maxAttempts locked with
      | mk outcome later =>
          cases outcome with
          | error =>
              rw [transaction_error answer]
              exact .refused
          | ok claimed =>
              have body := transaction_ok_iff.mp answer
              dsimp only at body ⊢
              split at body
              · cases body
                exact .trimmed
              · rename_i selected chosen
                simp only [bind_eq_ok, pure_eq_ok, Prod.mk.injEq] at body
                obtain ⟨leased, inserted, rfl, rfl⟩ := body
                obtain ⟨member, queued, completed⟩ :=
                  Postgres.selectReady_mem chosen
                obtain ⟨free, insertion⟩ := Postgres.insertLease_ok inserted
                exact .started member queued
                  (Postgres.dependenciesCompleted_ready completed) insertion
                  fun _ => free

theorem claim_rows {workerId token : String} {leaseTtlSeconds : Int}
    (locked : List StepKey) (key : StepKey) :
    RowsMove backend digests store
      (.claimReadyStep target workerId token now leaseTtlSeconds maxAttempts
        locked) (store.steps.find? key)
      ((repositoryStep backend digests store (.claimReadyStep target workerId
        token now leaseTtlSeconds maxAttempts locked)).steps.find? key) := by
  have move := claim_move backend digests store target workerId token now
    leaseTtlSeconds maxAttempts locked
  generalize grants : grant backend digests store (.claimReadyStep target
    workerId token now leaseTtlSeconds maxAttempts locked) = claimed at move
  generalize repositoryStep backend digests store _ = later at move ⊢
  cases move with
  | refused => exact .refl _
  | trimmed =>
      exact failExhausted_rows store target workerId token now leaseTtlSeconds
        maxAttempts locked key
  | started member queued ready inserted =>
      rw [insertLease_steps inserted]
      exact startAttempt_rows workerId token now leaseTtlSeconds locked member
        queued ready grants key

variable {key : StepKey} {tenantId : String} {attempt : Nat}

theorem completion_rows {result : DispatchResult} {missed : Bool}
    (completes : ∀ row : Step, row.completes key tenantId attempt = true →
      writes backend store call row = some .completed) (other : StepKey) :
    RowsMove backend digests store call (store.steps.find? other)
      ((repositoryStep backend digests store (.persistCompletion key tenantId
        attempt result now missed)).steps.find? other) := by
  refine completion_preserves
    (motive := fun later : WorkflowStore => RowsMove backend digests store call
      (store.steps.find? other) (later.steps.find? other)) (.refl _) ?_
  intro current receipts attestations _ _
  rw [Backend.close_steps]
  refine RowsMove.assign (fun _ => by rfl) other (fun _ => ⟨rfl, rfl, rfl, rfl, rfl⟩) ?_
  exact fun row selected => .written .completed (completes row selected) rfl

theorem reconciliation_rows {result : Reconciliation} {missed : Bool}
    (other : StepKey) :
    RowsMove backend digests store
      (.applyReconciliation key tenantId attempt result missed)
      (store.steps.find? other)
      ((repositoryStep backend digests store (.applyReconciliation key tenantId
        attempt result missed)).steps.find? other) := by
  refine reconciliation_preserves
    (motive := fun later : WorkflowStore => RowsMove backend digests store _
      (store.steps.find? other) (later.steps.find? other)) (.refl _) ?_ ?_
  · intro observed completion _
    refine completion_rows (fun row completes => ?_) other
    simp only [writes, observed, completes, if_true]
  · intro settled
    refine RowsMove.assign _ other (fun _ => ⟨rfl, rfl, rfl, rfl, rfl⟩) ?_
    intro row selected
    rcases settled with observed | observed <;> rw [observed]
    · refine .written .queued ?_ rfl
      simp only [writes, observed, selected, if_true]
    · simp only [Bool.and_eq_true, beq_iff_eq] at selected
      refine .kept ?_
      rw [Step.stand, Step.stand, selected.2]

def Step.recovered (row : Step) : Step :=
  { row with
    executionStatus := row.effect.recovered, claimedBy := none
    claimedAt := none, terminalReason := some "worker lease expired" }

theorem StepEffect.recovered_ne_running (effect : StepEffect) :
    effect.recovered ≠ .running := by
  cases effect <;> exact ExecutionStatus.noConfusion

theorem recoverClaims_find? (now : Int) (items : List (Lease × Step))
    (found : store.steps.find? key = some row)
    (effects : ∀ item ∈ items, row.is item.1.step item.1.tenantId = true →
      item.2.effect = row.effect) :
    (items.foldl (fun store item => recoverClaim store now item.1
      item.2.effect) store).steps.find? key =
      some (if row.executionStatus == .running && items.any (fun item =>
        row.is item.1.step item.1.tenantId) then row.recovered else row) := by
  induction items generalizing store row with
  | nil => simpa using found
  | cons item rest induction =>
      have step : (recoverClaim store now item.1 item.2.effect).steps.find? key =
          some (if row.is item.1.step item.1.tenantId &&
            row.executionStatus == .running then row.recovered else row) := by
        rw [recoverClaim, updateSteps, Table.find?_updateWhere, found,
          Option.map_some]
        split
        · rename_i selected
          simp only [Bool.and_eq_true] at selected
          rw [effects item List.mem_cons_self selected.1, Step.recovered]
        · rfl
      rw [List.foldl_cons]
      by_cases hit : (row.is item.1.step item.1.tenantId &&
          row.executionStatus == .running) = true
      · rw [if_pos hit] at step
        rw [induction step fun other member selected =>
          effects other (List.mem_cons_of_mem item member) selected]
        have stopped : (row.recovered.executionStatus == .running) = false :=
          beq_false_of_ne row.effect.recovered_ne_running
        simp only [Bool.and_eq_true] at hit
        simp [stopped, hit.1, hit.2]
      · rw [if_neg hit] at step
        rw [induction step fun other member selected =>
          effects other (List.mem_cons_of_mem item member) selected,
          List.any_cons]
        cases here : row.executionStatus == .running with
        | false => rfl
        | true =>
            have other : row.is item.1.step item.1.tenantId = false := by
              simpa [here] using hit
            rw [other, Bool.false_or]

theorem sweep_find? {skipped : List String}
    (join : Lease → Option (Lease × Step))
    (pairs : ∀ lease item, join lease = some item →
      item.1 = lease ∧ store.steps.find? lease.step = some item.2)
    (strands : ∀ (lease : Lease) (row : Step),
      store.steps.find? row.key = some row → row.executionStatus = .running →
      row.is lease.step lease.tenantId = true →
      (join lease).isSome = lease.strands backend now skipped row)
    (found : store.steps.find? key = some row) :
    ((store.leases.rows.filterMap join).foldl (fun store item =>
      recoverClaim store now item.1 item.2.effect) store).steps.find? key =
      some (if row.executionStatus == .running && store.leases.rows.any
        (Lease.strands backend now skipped row) then row.recovered
          else row) := by
  obtain ⟨_, rfl⟩ := Table.find?_eq_some_iff.mp found
  rw [recoverClaims_find? now _ found]
  · cases running : row.executionStatus == .running with
    | false => rfl
    | true =>
        have same : (store.leases.rows.filterMap join).any (fun item =>
            row.is item.1.step item.1.tenantId) =
            store.leases.rows.any (Lease.strands backend now skipped row) := by
          rw [Bool.eq_iff_iff, List.any_eq_true, List.any_eq_true]
          constructor
          · rintro ⟨item, joined, selected⟩
            obtain ⟨lease, leaseMember, pair⟩ := List.mem_filterMap.mp joined
            obtain ⟨rfl, _⟩ := pairs lease item pair
            refine ⟨item.1, leaseMember, ?_⟩
            rw [← strands item.1 row found (by simpa using running) selected,
              pair]
            rfl
          · rintro ⟨lease, leaseMember, stranded⟩
            have selected : row.is lease.step lease.tenantId = true := by
              simp only [Lease.strands, Bool.and_eq_true] at stranded
              exact stranded.1.1.1
            rw [← strands lease row found (by simpa using running) selected,
              Option.isSome_iff_exists] at stranded
            obtain ⟨item, pair⟩ := stranded
            obtain ⟨same, _⟩ := pairs lease item pair
            exact ⟨item, List.mem_filterMap.mpr ⟨lease, leaseMember, pair⟩, by
              rw [same]; exact selected⟩
        rw [same]
  · intro item joined selected
    obtain ⟨lease, _, pair⟩ := List.mem_filterMap.mp joined
    obtain ⟨rfl, read⟩ := pairs lease item pair
    rw [← Step.key_of_is selected, found] at read
    cases read
    rfl

theorem recoverExpiredClaims_find? (now : Int) (skipped : List String)
    (found : store.steps.find? key = some row) :
    (recoverExpiredClaims store now).steps.find? key =
      some (if row.executionStatus == .running && store.leases.rows.any
        (Lease.strands .sqlite now skipped row) then row.recovered
          else row) := by
  refine sweep_find? (abandoned store now) ?_ ?_ found
  · intro lease item pair
    unfold abandoned at pair
    split at pair
    · simp only [Option.map_eq_some_iff, Option.filter_eq_some_iff] at pair
      obtain ⟨other, ⟨read, _⟩, rfl⟩ := pair
      exact ⟨rfl, read⟩
    · cases pair
  · intro lease other read running selected
    rw [Step.key_of_is selected] at read
    have kept : (some other).filter (fun row =>
        row.executionStatus == .running) = some other :=
      Option.filter_eq_some_iff.mpr ⟨rfl, by simpa using running⟩
    rw [abandoned, read, kept, Option.map_some, Bool.eq_iff_iff,
      Option.isSome_ite]
    simp [Lease.strands, Lease.isOpen, selected, Bool.and_assoc]

theorem Postgres.recoverExpiredClaims_find? (now : Int) (skipped : List String)
    (found : store.steps.find? key = some row) :
    (Postgres.recoverExpiredClaims store now skipped).steps.find? key =
      some (if row.executionStatus == .running && store.leases.rows.any
        (Lease.strands .postgres now skipped row) then row.recovered
          else row) := by
  refine sweep_find? (Postgres.abandoned store now skipped) ?_ ?_ found
  · intro lease item pair
    unfold Postgres.abandoned at pair
    split at pair
    · simp only [Option.map_eq_some_iff, Option.filter_eq_some_iff] at pair
      obtain ⟨other, ⟨read, _⟩, rfl⟩ := pair
      exact ⟨rfl, read⟩
    · cases pair
  · intro lease other read running selected
    have tenant : other.tenantId = lease.tenantId := by
      simp only [Step.is, Bool.and_eq_true, beq_iff_eq] at selected
      exact selected.2
    rw [Step.key_of_is selected] at read
    have kept : (some other).filter (fun row =>
        row.tenantId == lease.tenantId && row.executionStatus == .running) =
          some other :=
      Option.filter_eq_some_iff.mpr ⟨rfl, by simp [running, tenant]⟩
    rw [Postgres.abandoned, read, kept, Option.map_some, Bool.eq_iff_iff,
      Option.isSome_ite]
    simp [Lease.strands, selected]

theorem swept_find? (backend : Backend) (digests : Digests) (now : Int)
    (skipped : List String) (found : store.steps.find? key = some row) :
    (repositoryStep backend digests store
      (.recoverExpiredClaims now skipped)).steps.find? key =
      some (if row.executionStatus == .running && store.leases.rows.any
        (Lease.strands backend now skipped row) then row.recovered
          else row) := by
  cases backend with
  | sqlite => exact recoverExpiredClaims_find? now skipped found
  | postgres => exact Postgres.recoverExpiredClaims_find? now skipped found

theorem sweep_rows (skipped : List String) (key : StepKey) :
    RowsMove backend digests store (.recoverExpiredClaims now skipped)
      (store.steps.find? key)
      ((repositoryStep backend digests store
        (.recoverExpiredClaims now skipped)).steps.find? key) := by
  cases found : store.steps.find? key with
  | none =>
      rw [sweep_preserves (motive := fun later : WorkflowStore =>
        later.steps.find? key = none) found fun current lease effect gone => by
          rw [recoverClaim, updateSteps, Table.find?_updateWhere, gone,
            Option.map_none]]
      exact .absent
  | some row =>
      rw [swept_find? backend digests now skipped found]
      split
      · rename_i stranded
        refine .present ⟨rfl, rfl, rfl, rfl, rfl⟩
          (.written row.effect.recovered ?_ rfl)
        rw [writes, if_pos stranded]
      · exact .present (.refl row) (.kept rfl)

end Statements

theorem repositoryStep_rows (backend : Backend) (digests : Digests)
    (store : WorkflowStore) (call : RepositoryCall) (key : StepKey) :
    RowsMove backend digests store call (store.steps.find? key)
      ((repositoryStep backend digests store call).steps.find? key) := by
  cases call with
  | createRun => exact .of_steps (createRun_steps ..) key
  | createRevision => exact createRevision_rows key
  | authorizeRequestedRead =>
      exact .of_steps (authorizeRequestedRead_step backend ..).steps key
  | recordApproval => exact .of_steps (recordApproval_authorizes ..).steps key
  | recordCampaignAuthorization =>
      exact .of_steps (recordCampaignAuthorization_step backend ..).steps key
  | claimReadyStep _ _ _ _ _ _ locked => exact claim_rows locked key
  | finishClaimLease => exact .of_steps rfl key
  | markExecutionUnknown =>
      refine RowsMove.assign _ key (fun _ => ⟨rfl, rfl, rfl, rfl, rfl⟩) ?_
      intro row selected
      exact .written .executionUnknown (by simp only [writes, selected, if_true])
        rfl
  | pauseByPolicy =>
      refine RowsMove.assign _ key (fun _ => ⟨rfl, rfl, rfl, rfl, rfl⟩) ?_
      intro row selected
      exact .written .pausedByPolicy (by simp only [writes, selected, if_true])
        rfl
  | releaseForRetry step tenantId reason retryAt =>
      have queued : ∀ row : Step, row.is step tenantId = true →
          writes backend store (.releaseForRetry step tenantId reason retryAt)
            row = some .queued := by
        intro row selected
        simp only [writes, selected, if_true]
      cases backend with
      | sqlite | postgres =>
          refine RowsMove.assign _ key (fun _ => ⟨rfl, rfl, rfl, rfl, rfl⟩) ?_
          exact fun row selected => .written .queued (queued row selected) rfl
  | releaseWithoutConsumingAttempt =>
      refine RowsMove.assign _ key (fun _ => ⟨rfl, rfl, rfl, rfl, rfl⟩) ?_
      intro row selected
      simp only [Bool.and_eq_true, beq_iff_eq] at selected
      obtain ⟨⟨named, rfl⟩, running⟩ := selected
      exact .released named running rfl
  | persistCompletion =>
      refine completion_rows (fun row selected => ?_) key
      simp only [writes, selected, if_true]
  | recoverExpiredClaims _ skipped => exact sweep_rows skipped key
  | claimUnresolvedWriteStep | deferReconciliation | purgeExpiredContent =>
      exact RowsMove.assign _ key (fun _ => ⟨rfl, rfl, rfl, rfl, rfl⟩)
        fun _ _ => .kept rfl
  | applyReconciliation => exact reconciliation_rows key
  | setVerificationStatus =>
      simp only [repositoryStep, setVerificationStatus]
      split
      · exact .refl _
      · exact RowsMove.assign _ key (fun _ => ⟨rfl, rfl, rfl, rfl, rfl⟩)
          fun _ _ => .kept rfl
  | resumePolicyPaused =>
      cases backend with
      | sqlite | postgres =>
          refine RowsMove.assign _ key (fun _ => ⟨rfl, rfl, rfl, rfl, rfl⟩) ?_
          exact fun row selected => .written .queued
            (by simp only [writes, Backend.switchable, selected, if_true]) rfl
  | cancelSteps =>
      cases backend with
      | sqlite =>
          refine RowsMove.assign _ key (fun _ => ⟨rfl, rfl, rfl, rfl, rfl⟩) ?_
          exact fun row selected => .written .cancelled
            (by simp only [writes, selected, if_true]) rfl
      | postgres => exact .refl _
  | cancelRevisionRow | cancelRun => cases backend <;> exact .refl _
  | retrySafeRead =>
      cases backend with
      | sqlite =>
          exact RowsMove.assign _ key (fun _ => ⟨rfl, rfl, rfl, rfl, rfl⟩)
            fun _ _ => .kept rfl
      | postgres => exact .refl _
  | retryCorrectedWrite =>
      cases backend with
      | sqlite =>
          refine RowsMove.assign _ key (fun _ => ⟨rfl, rfl, rfl, rfl, rfl⟩) ?_
          exact fun row selected => .written .queued
            (by simp only [writes, selected, if_true]) rfl
      | postgres => exact .refl _

theorem repositoryStep_row {store : WorkflowStore} {key : StepKey} {row : Step}
    (backend : Backend) (digests : Digests) (call : RepositoryCall)
    (found : store.steps.find? key = some row) :
    ∃ next, (repositoryStep backend digests store call).steps.find? key =
      some next ∧ row.Alike next ∧
      RowMove backend digests store row next call := by
  have moves := repositoryStep_rows backend digests store call key
  rw [found] at moves
  generalize (repositoryStep backend digests store call).steps.find? key =
    after at moves
  cases moves with
  | present alike move => exact ⟨_, rfl, alike, move⟩

theorem writes_settles {backend : Backend} {store : WorkflowStore}
    {call : RepositoryCall} {row : Step} {status : ExecutionStatus}
    (wrote : writes backend store call row = some status) :
    status ≠ .failed ∧ status ≠ .running := by
  have either : status = .queued ∨ status = .executionUnknown ∨
      status = .pausedByPolicy ∨ status = .completed ∨
      status = .cancelled := by
    cases call with
    | recoverExpiredClaims =>
        simp only [writes] at wrote
        split at wrote
        · cases effect : row.effect <;> rw [effect] at wrote <;>
            cases wrote <;> simp [StepEffect.recovered]
        · cases wrote
    | applyReconciliation =>
        simp only [writes] at wrote
        split at wrote
        · split at wrote <;> cases wrote
          simp
        · split at wrote <;> cases wrote
          simp
        · cases wrote
    | createRevision _ _ _ _ _ | markExecutionUnknown _ _ _
    | pauseByPolicy _ _ _ | releaseForRetry _ _ _ _
    | persistCompletion _ _ _ _ _ _ | resumePolicyPaused | cancelSteps _
    | retryCorrectedWrite =>
        simp only [writes] at wrote
        split at wrote <;> cases wrote
        simp
    | _ => cases wrote
  rcases either with rfl | rfl | rfl | rfl | rfl <;>
    exact ⟨ExecutionStatus.noConfusion, ExecutionStatus.noConfusion⟩

end AcpTask.Workflow
