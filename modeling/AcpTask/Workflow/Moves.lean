import AcpTask.Workflow.Postgres

namespace AcpTask.Workflow

open Data Library

section Writes

variable {store later : WorkflowStore}

theorem insertInto_ok {Row Key : Type} {keyOf : Row → Key} [DecidableEq Key]
    {table grown : Table Row keyOf} {row : Row}
    (inserted : insertInto table row = .ok grown) :
    table.find? (keyOf row) = none ∧ ∀ key, grown.find? key =
      if keyOf row = key then some row else table.find? key := by
  unfold insertInto at inserted
  split at inserted
  · rename_i result added
    cases inserted
    exact ⟨(Table.insert?_eq_some_iff.mp added).1, Table.find?_of_insert? added⟩
  · cases inserted

theorem createRun_preserves {motive : WorkflowStore → Prop}
    {workflowRunId tenantId userPrincipalId goalHash : String} {now : Int}
    (before : motive store)
    (created : ∀ runs, insertInto store.runs {
      workflowRunId, tenantId, userPrincipalId, goalHash
      createdAt := now, updatedAt := now } = .ok runs →
      motive { store with runs }) :
    motive (createRun store workflowRunId tenantId userPrincipalId goalHash
      now).2 := by
  refine transaction_preserves before fun _ later committed => ?_
  simp only [bind_eq_ok, pure_eq_ok, Prod.mk.injEq] at committed
  obtain ⟨_, _, runs, inserted, _, rfl⟩ := committed
  exact created runs inserted

theorem insertSteps_frame {row : PlannedStep → Step}
    {plan : List PlannedStep}
    (inserted : plan.foldlM (fun store planned => insertStep store
      (row planned)) store = .ok later) :
    ∃ steps, later = { store with steps } := by
  refine foldlM_invariant
    (fun current : WorkflowStore => ∃ steps, current = { store with steps })
    ?_ inserted ⟨store.steps, rfl⟩
  intro current planned next added frame
  obtain ⟨_, rfl⟩ := frame
  simp only [insertStep, bind_eq_ok, pure_eq_ok] at added
  obtain ⟨steps, _, rfl⟩ := added
  exact ⟨steps, rfl⟩

theorem createRevision_preserves {motive : WorkflowStore → Prop}
    {workflowRevisionId workflowRunId tenantId planGraphHash : String}
    {plan : List PlannedStep} {now contentTtlSeconds : Int}
    (before : motive store)
    (created : ∀ revisions steps,
      insertInto (supersede store workflowRunId).revisions {
        workflowRevisionId, workflowRunId, tenantId, planGraphHash
        revisionNumber := lastRevisionNumber store workflowRunId + 1
        createdAt := now } = .ok revisions →
      plan.foldlM (fun store planned => insertStep store (planned.row
          workflowRevisionId workflowRunId tenantId now contentTtlSeconds))
        { supersede store workflowRunId with revisions } =
          .ok { supersede store workflowRunId with revisions, steps } →
      (store.runs.find? workflowRunId).any (fun run =>
        run.tenantId == tenantId) = true →
      motive { supersede store workflowRunId with
        revisions, steps
        runs := store.runs.updateWhere
          (fun row => row.workflowRunId == workflowRunId &&
            row.tenantId == tenantId)
          (fun row => { row with
            currentRevisionId := some workflowRevisionId, updatedAt := now })
          (fun _ => rfl) }) :
    motive (createRevision store workflowRevisionId workflowRunId tenantId
      planGraphHash plan now contentTtlSeconds).2 := by
  refine transaction_preserves before fun _ later committed => ?_
  simp only [bind_eq_ok, pure_eq_ok, Prod.mk.injEq] at committed
  obtain ⟨_, owned, revisions, insertion, _, inserted, _, rfl⟩ := committed
  obtain ⟨steps, rfl⟩ := insertSteps_frame inserted
  exact created revisions steps insertion inserted (require_eq_ok.mp owned)

theorem insertLease_frame {row : Lease}
    (inserted : insertLease store row = .ok later) :
    ∃ leases, later = { store with leases } := by
  simp only [insertLease, bind_eq_ok, pure_eq_ok] at inserted
  obtain ⟨_, _, leases, _, rfl⟩ := inserted
  exact ⟨leases, rfl⟩

theorem Postgres.insertLease_ok {row : Lease}
    (inserted : Postgres.insertLease store row = .ok later) :
    (∀ other ∈ store.leases, other.step = row.step → other.isOpen = false) ∧
      Workflow.insertLease store row = .ok later := by
  simp only [Postgres.insertLease, bind_eq_ok, require_eq_ok] at inserted
  obtain ⟨_, free, success⟩ := inserted
  refine ⟨?_, success⟩
  intro other member same
  simp only [Bool.not_eq_true', List.any_eq_false, Bool.and_eq_true,
    decide_eq_true_eq, not_and, Bool.not_eq_true] at free
  exact free other member same

section Claiming

variable {digests : Digests} {target : Target} {workerId token : String}
  {now leaseTtlSeconds maxAttempts : Int} {motive : WorkflowStore → Prop}
  (before : motive store) (trimmed : motive (failExhausted store target
    maxAttempts))
  (started : ∀ (selected : Step) leases, motive { startAttempt
    (failExhausted store target maxAttempts) selected.key
    (selected.attempt + 1) workerId now with leases })
include before trimmed started

theorem claimReadyStep_preserves :
    motive (claimReadyStep digests store target workerId token now
      leaseTtlSeconds maxAttempts).2 := by
  refine transaction_preserves before fun _ later body => ?_
  dsimp only at body
  split at body
  · cases body
    exact trimmed
  · simp only [bind_eq_ok, pure_eq_ok, Prod.mk.injEq] at body
    obtain ⟨_, inserted, _, rfl⟩ := body
    obtain ⟨leases, rfl⟩ := insertLease_frame inserted
    exact started _ leases

theorem Postgres.claimReadyStep_preserves {locked : List StepKey} :
    motive (Postgres.claimReadyStep digests store target workerId token now
      leaseTtlSeconds maxAttempts locked).2 := by
  refine transaction_preserves before fun _ later body => ?_
  dsimp only at body
  split at body
  · cases body
    exact trimmed
  · simp only [bind_eq_ok, pure_eq_ok, Prod.mk.injEq] at body
    obtain ⟨_, inserted, _, rfl⟩ := body
    obtain ⟨leases, rfl⟩ :=
      insertLease_frame (Postgres.insertLease_ok inserted).2
    exact started _ leases

end Claiming

section Completion

variable {digests : Digests} {key : StepKey} {tenantId : String}
  {attempt : Nat} {result : DispatchResult} {now : Int}
  {motive : WorkflowStore → Prop}

theorem completed_key (result : DispatchResult) (current row : Step) :
    ({ row with
      executionStatus := .completed
      verificationStatus := current.effect.verification
      terminalReason := none
      output := some result.output.orEmpty } : Step).key = row.key := rfl

def completeStep (store : WorkflowStore) (key : StepKey) (tenantId : String)
    (attempt : Nat) (result : DispatchResult) (current : Step) :
    WorkflowStore :=
  updateSteps store (fun row => row.completes key tenantId attempt)
    (fun row => { row with
      executionStatus := .completed
      verificationStatus := current.effect.verification
      terminalReason := none
      output := some result.output.orEmpty })
    (completed_key result current)

theorem attested_frame {row : Receipt} {received : WorkflowStore}
    {attestationId : Option String} {attestation : String → Attestation}
    (receipt : insertReceipt store row = .ok received)
    (attested : attest received attestationId attestation = .ok later) :
    ∃ receipts attestations, later = { store with receipts, attestations } := by
  simp only [insertReceipt, bind_eq_ok, pure_eq_ok] at receipt
  obtain ⟨_, _, receipts, _, rfl⟩ := receipt
  unfold attest at attested
  split at attested
  · cases attested
    exact ⟨receipts, store.attestations, rfl⟩
  · simp only [insertAttestation, bind_eq_ok, pure_eq_ok] at attested
    obtain ⟨_, _, attestations, _, rfl⟩ := attested
    exact ⟨receipts, attestations, rfl⟩

theorem persistCompletion_preserves (before : motive store)
    (completed : ∀ current receipts attestations,
      store.steps.find? key = some current →
      current.completes key tenantId attempt = true →
      motive (closeRevision { completeStep store key tenantId attempt result
        current with receipts, attestations } key.1 tenantId now)) :
    motive (persistCompletion digests store key tenantId attempt result
      now).2 := by
  refine transaction_preserves before fun _ later committed => ?_
  simp only [bind_eq_ok] at committed
  obtain ⟨_, _, attestationId, _, finished⟩ := committed
  split at finished
  · cases finished
  · rename_i current found
    simp only [bind_eq_ok, pure_eq_ok, Prod.mk.injEq, require_eq_ok] at finished
    obtain ⟨_, _, _, _, _, bound, received, receipt, attested, attestation, _,
      rfl⟩ := finished
    obtain ⟨receipts, attestations, rfl⟩ := attested_frame receipt attestation
    exact completed current receipts attestations
      (Option.filter_eq_some_iff.mp found).1 bound

theorem Postgres.persistCompletion_preserves {missed : Bool}
    (before : motive store)
    (completed : ∀ current receipts attestations,
      store.steps.find? key = some current →
      current.completes key tenantId attempt = true →
      motive (Postgres.closeRevision (Postgres.consumeLease { completeStep
        store key tenantId attempt result current with
          receipts, attestations } key tenantId attempt now) key.1 tenantId
        current.workflowRunId now missed)) :
    motive (Postgres.persistCompletion digests store key tenantId attempt
      result now missed).2 := by
  refine transaction_preserves before fun _ later committed => ?_
  simp only [bind_eq_ok] at committed
  obtain ⟨_, _, attestationId, _, finished⟩ := committed
  split at finished
  · cases finished
  · rename_i current found
    simp only [bind_eq_ok, pure_eq_ok, Prod.mk.injEq, require_eq_ok] at finished
    obtain ⟨_, _, _, _, _, bound, received, receipt, _, _, attested,
      attestation, _, rfl⟩ := finished
    obtain ⟨receipts, attestations, rfl⟩ := attested_frame receipt attestation
    exact completed current receipts attestations
      (Option.filter_eq_some_iff.mp found).1 bound

end Completion

/-- What the authorizing calls leave: the store itself, or a draft revision
approved. -/
inductive Authorizes (store : WorkflowStore) : WorkflowStore → Prop where
  | refused : Authorizes store store
  | approved {workflowRunId workflowRevisionId tenantId planGraphHash : String}
      {approvedBy refusal : String} {now expiresAt : Int}
      {mode : AuthorizationMode} {status : RevisionStatus}
      {authorized : WorkflowStore}
      (approved : approve store workflowRunId workflowRevisionId tenantId
        planGraphHash approvedBy now expiresAt mode status refusal =
          .ok authorized)
      (authorizes : status = .approved ∨ status = .authorized)
      (reads : mode = .requestedRead → ∀ step ∈ store.steps,
        step.workflowRunId = workflowRunId →
        step.workflowRevisionId = workflowRevisionId →
        step.tenantId = tenantId → step.effect = .read)
      (bindings : Table CampaignBinding CampaignBinding.workflowRevisionId) :
      Authorizes store { authorized with bindings }

theorem reads_of_required {workflowRunId workflowRevisionId tenantId : String}
    {reject : WorkflowError} {passed : Unit}
    (required :
      let effects := (store.steps.rows.filter fun row =>
        row.workflowRunId == workflowRunId &&
          row.workflowRevisionId == workflowRevisionId &&
          row.tenantId == tenantId).map Step.effect
      require (!effects.isEmpty && effects.all fun effect => effect == .read)
        reject = .ok passed) :
    ∀ step ∈ store.steps, step.workflowRunId = workflowRunId →
      step.workflowRevisionId = workflowRevisionId →
      step.tenantId = tenantId → step.effect = .read := by
  intro step member run revision tenant
  rw [require_eq_ok, Bool.and_eq_true, List.all_eq_true] at required
  exact beq_iff_eq.mp (required.2 _ (List.mem_map.mpr
    ⟨step, List.mem_filter.mpr ⟨member, by simp [run, revision, tenant]⟩, rfl⟩))

variable (workflowRunId workflowRevisionId tenantId graphHash : String)
  (requestedBy : String) (now ttlSeconds : Int)

theorem authorizeRequestedRead_authorizes :
    Authorizes store (authorizeRequestedRead store workflowRunId
      workflowRevisionId tenantId graphHash requestedBy now ttlSeconds).2 := by
  refine transaction_preserves (.refused) fun _ later committed => ?_
  simp only [bind_eq_ok, pure_eq_ok, Prod.mk.injEq] at committed
  obtain ⟨_, required, authorized, approved, _, rfl⟩ := committed
  exact .approved approved (.inr rfl) (fun _ => reads_of_required required)
    authorized.bindings

theorem Postgres.authorizeRequestedRead_authorizes :
    Authorizes store (Postgres.authorizeRequestedRead store workflowRunId
      workflowRevisionId tenantId graphHash requestedBy now ttlSeconds).2 := by
  refine transaction_preserves (.refused) fun _ later committed => ?_
  simp only [bind_eq_ok, pure_eq_ok, Prod.mk.injEq] at committed
  obtain ⟨_, required, authorized, approved, _, rfl⟩ := committed
  exact .approved approved (.inr rfl) (fun _ => reads_of_required required)
    authorized.bindings

theorem recordApproval_authorizes :
    Authorizes store (recordApproval store workflowRunId workflowRevisionId
      tenantId graphHash requestedBy now ttlSeconds).2 := by
  refine transaction_preserves (.refused) fun _ later committed => ?_
  simp only [bind_eq_ok, pure_eq_ok, Prod.mk.injEq] at committed
  obtain ⟨authorized, approved, _, rfl⟩ := committed
  exact .approved approved (.inl rfl) (fun mode => by cases mode)
    authorized.bindings

theorem recordCampaignAuthorization_authorizes
    (campaignId envelopeHash : String) :
    Authorizes store (recordCampaignAuthorization store workflowRunId
      workflowRevisionId tenantId graphHash campaignId envelopeHash
      requestedBy now ttlSeconds).2 := by
  refine transaction_preserves (.refused) fun _ later committed => ?_
  simp only [bind_eq_ok, pure_eq_ok, Prod.mk.injEq] at committed
  obtain ⟨_, _, _, approved, bindings, _, _, rfl⟩ := committed
  exact .approved approved (.inr rfl) (fun mode => by cases mode) bindings

end Writes

/-! Everything a statement can do to the execution status of a step.  Some moves
need a cause: the statement names the step it is about. -/

inductive Cause where
  | claim
  | complete
  | release
  | reconcile
  | overwrite (status : ExecutionStatus)

inductive StatusMove (effect : StepEffect) (cause : Option Cause) :
    ExecutionStatus → ExecutionStatus → Prop where
  | same (status : ExecutionStatus) : StatusMove effect cause status status
  | exhausted : StatusMove effect cause .queued .failed
  | recovered : StatusMove effect cause .running effect.recovered
  | resumed : StatusMove effect cause .pausedByPolicy .queued
  | cancelled {status : ExecutionStatus}
      (cancellable : status.cancellable = true) :
      StatusMove effect cause status .cancelled
  | claimed (caused : cause = some .claim) :
      StatusMove effect cause .queued .running
  | completed {status : ExecutionStatus} (caused : cause = some .complete)
      (completable : status.completable = true) :
      StatusMove effect cause status .completed
  | released (caused : cause = some .release) :
      StatusMove effect cause .running .queued
  | reconciled (caused : cause = some .reconcile) :
      StatusMove effect cause .executionUnknown .queued
  | overwritten {status after : ExecutionStatus}
      (caused : cause = some (.overwrite after)) :
      StatusMove effect cause status after

structure Named where
  cause : Cause
  step : StepKey
  tenantId : String

def causeAt (named : Option Named) (row : Step) : Option Cause :=
  (named.filter fun named => row.is named.step named.tenantId).map Named.cause

theorem causeAt_of_is {row : Step} {key : StepKey} {tenantId : String}
    (selected : row.is key tenantId = true) (cause : Cause) :
    causeAt (some ⟨cause, key, tenantId⟩) row = some cause := by
  simp [causeAt, selected]

theorem is_of_causeAt {row : Step} {named : Named} {cause : Cause}
    (caused : causeAt (some named) row = some cause) :
    row.is named.step named.tenantId = true ∧ named.cause = cause := by
  simp only [causeAt, Option.map_eq_some_iff, Option.filter_eq_some_iff,
    Option.some.injEq] at caused
  obtain ⟨_, ⟨rfl, selected⟩, rfl⟩ := caused
  exact ⟨selected, rfl⟩

def StepsMove (named : Option Named) (store later : WorkflowStore) : Prop :=
  ∀ key row, store.steps.find? key = some row →
    ∃ next, later.steps.find? key = some next ∧ next.effect = row.effect ∧
      StatusMove row.effect (causeAt named row) row.executionStatus
        next.executionStatus

namespace StepsMove

variable {named : Option Named} {store middle later : WorkflowStore}

theorem of_steps (same : later.steps = store.steps) :
    StepsMove named store later := by
  intro key row found
  exact ⟨row, by rw [same]; exact found, rfl, .same _⟩

theorem refl (store : WorkflowStore) : StepsMove named store store :=
  of_steps rfl

theorem grow (moves : StepsMove named store middle)
    (kept : ∀ key row, middle.steps.find? key = some row →
      later.steps.find? key = some row) : StepsMove named store later := by
  intro key row found
  obtain ⟨next, nextFound, rest⟩ := moves key row found
  exact ⟨next, kept key next nextFound, rest⟩

theorem then_steps (moves : StepsMove named store middle)
    (same : later.steps = middle.steps) : StepsMove named store later :=
  moves.grow fun key row found => by rw [same]; exact found

theorem after_steps (same : middle.steps = store.steps)
    (moves : StepsMove named middle later) : StepsMove named store later := by
  intro key row found
  rw [← same] at found
  exact moves key row found

theorem update {condition : Step → Bool} {assign : Step → Step}
    {keepsKey : ∀ row, (assign row).key = row.key}
    (effects : ∀ row, (assign row).effect = row.effect)
    (moves : ∀ row, store.steps.find? row.key = some row →
      condition row = true →
      StatusMove row.effect (causeAt named row) row.executionStatus
        (assign row).executionStatus) :
    StepsMove named store (updateSteps store condition assign keepsKey) := by
  intro key row found
  obtain ⟨_, rfl⟩ := Table.find?_eq_some_iff.mp found
  refine ⟨if condition row then assign row else row, ?_, ?_⟩
  · rw [updateSteps, Table.find?_updateWhere, found, Option.map_some]
  · split
    · rename_i selected
      exact ⟨effects row, moves row found selected⟩
    · exact ⟨rfl, .same _⟩

theorem of_status {condition : Step → Bool} {assign : Step → Step}
    {keepsKey : ∀ row, (assign row).key = row.key}
    (effects : ∀ row, (assign row).effect = row.effect)
    (statuses : ∀ row, (assign row).executionStatus = row.executionStatus) :
    StepsMove named store (updateSteps store condition assign keepsKey) :=
  update effects fun row _ _ => by
    rw [statuses row]
    exact .same _

end StepsMove

section Statements

variable {named : Option Named} {store : WorkflowStore}

variable {row : Step} {later : WorkflowStore}

theorem insertStep_keeps (inserted : insertStep store row = .ok later)
    (key : StepKey) (old : Step) (found : store.steps.find? key = some old) :
    later.steps.find? key = some old := by
  simp only [insertStep, bind_eq_ok, pure_eq_ok] at inserted
  obtain ⟨_, success, rfl⟩ := inserted
  obtain ⟨absent, grown⟩ := insertInto_ok success
  rw [grown, if_neg, found]
  intro same
  rw [← same, absent] at found
  cases found

theorem supersede_moves (store : WorkflowStore) (workflowRunId : String) :
    StepsMove named store (supersede store workflowRunId) := by
  refine StepsMove.after_steps ?_
    (StepsMove.update (fun _ => by rfl) ?_)
  · rfl
  · intro row _ selected
    simp only [Bool.and_eq_true] at selected
    exact .cancelled selected.2

theorem createRevision_moves
    (workflowRevisionId workflowRunId tenantId planGraphHash : String)
    (plan : List PlannedStep) (now contentTtlSeconds : Int) :
    StepsMove named store
      (createRevision store workflowRevisionId workflowRunId tenantId
        planGraphHash plan now contentTtlSeconds).2 := by
  refine createRevision_preserves (.refl _) fun _ _ _ inserted _ => ?_
  have filled := foldlM_invariant (StepsMove named store)
    (fun _ _ _ added moves => moves.grow (insertStep_keeps added)) inserted
    ((supersede_moves store workflowRunId).then_steps rfl)
  exact filled.then_steps rfl

theorem Authorizes.frame (authorizes : Authorizes store later) :
    ∃ approvals revisions bindings,
      later = { store with approvals, revisions, bindings } := by
  cases authorizes with
  | refused => exact ⟨_, _, _, rfl⟩
  | approved approved =>
      unfold approve at approved
      split at approved
      · cases approved
      · simp only [bind_eq_ok, pure_eq_ok] at approved
        obtain ⟨_, _, rfl⟩ := approved
        exact ⟨_, _, _, rfl⟩

theorem Authorizes.steps (authorizes : Authorizes store later) :
    later.steps = store.steps := by
  obtain ⟨_, _, _, rfl⟩ := authorizes.frame
  rfl

theorem createRun_steps
    (workflowRunId tenantId userPrincipalId goalHash : String) (now : Int) :
    (createRun store workflowRunId tenantId userPrincipalId goalHash
      now).2.steps = store.steps :=
  createRun_preserves (motive := fun later => later.steps = store.steps) rfl
    fun _ _ => rfl

variable {target : Target}

theorem queued_status (queued : target.queued row = true) :
    row.executionStatus = .queued := by
  simp only [Target.queued, Bool.and_eq_true, beq_iff_eq] at queued
  exact queued.2

theorem queued_is (queued : target.queued row = true) :
    row.is row.key target.tenantId = true := by
  simp only [Target.queued, Bool.and_eq_true, beq_iff_eq] at queued
  simp [Step.is, queued.1.2]

theorem insertLease_steps {row : Lease}
    (inserted : insertLease store row = .ok later) :
    later.steps = store.steps := by
  obtain ⟨_, rfl⟩ := insertLease_frame inserted
  rfl

variable {key : StepKey}

theorem failExhausted_find? (store : WorkflowStore) (target : Target)
    (maxAttempts : Int) (found : store.steps.find? key = some row) :
    ∃ next, (failExhausted store target maxAttempts).steps.find? key =
        some next ∧
      (next = row ∨ (row.executionStatus = .queued ∧
        next.executionStatus = .failed ∧ next.effect = row.effect)) := by
  refine ⟨_, by
    rw [failExhausted, updateSteps, Table.find?_updateWhere, found,
      Option.map_some], ?_⟩
  split
  · rename_i selected
    simp only [Bool.and_eq_true] at selected
    exact .inr ⟨queued_status selected.1, rfl, rfl⟩
  · exact .inl rfl

theorem failExhausted_queued {maxAttempts : Int}
    (found : (failExhausted store target maxAttempts).steps.find? key =
      some row) (queued : row.executionStatus = .queued) :
    store.steps.find? key = some row := by
  rw [failExhausted, updateSteps, Table.find?_updateWhere,
    Option.map_eq_some_iff] at found
  obtain ⟨_, oldFound, written⟩ := found
  split at written
  · rw [← written] at queued
    cases queued
  · rw [← written]
    exact oldFound

theorem startAttempt_find? (store : WorkflowStore) (started : StepKey)
    (attempt : Nat) (workerId : String) (now : Int)
    (found : store.steps.find? key = some row) :
    ∃ next, (startAttempt store started attempt workerId now).steps.find? key =
        some next ∧ next.effect = row.effect ∧
      ((started = key ∧ row.executionStatus = .queued ∧
          next.executionStatus = .running) ∨
        (next = row ∧ ¬ (started = key ∧ row.executionStatus = .queued))) := by
  obtain ⟨_, rfl⟩ := Table.find?_eq_some_iff.mp found
  refine ⟨_, by
    rw [startAttempt, updateSteps, Table.find?_updateWhere, found,
      Option.map_some], ?_⟩
  split
  · rename_i selected
    simp only [Bool.and_eq_true, decide_eq_true_eq, beq_iff_eq] at selected
    exact ⟨rfl, .inl ⟨selected.1.symm, selected.2, rfl⟩⟩
  · rename_i unselected
    simp only [Bool.and_eq_true, decide_eq_true_eq, beq_iff_eq] at unselected
    exact ⟨rfl, .inr ⟨rfl, fun both => unselected ⟨both.1.symm, both.2⟩⟩⟩

theorem claimReadyStep_moves {digests : Digests} {workerId token : String}
    {now leaseTtlSeconds maxAttempts : Int} {claimed : Option Claim}
    (success : claimReadyStep digests store target workerId token now
      leaseTtlSeconds maxAttempts = (.ok claimed, later)) :
    StepsMove (claimed.map fun claim =>
      ⟨.claim, claim.step, target.tenantId⟩) store later ∧
      ∀ claim, claimed = some claim →
        (∃ row, store.steps.find? claim.step = some row ∧
          row.executionStatus = .queued) ∧
        (∃ row, later.steps.find? claim.step = some row ∧
          row.executionStatus = .running) := by
  have body := transaction_ok_iff.mp success
  dsimp only at body
  split at body
  · cases body
    refine ⟨?_, fun _ none => by cases none⟩
    intro key row found
    obtain ⟨next, nextFound, rfl | ⟨queued, failed, effect⟩⟩ :=
      failExhausted_find? store target maxAttempts found
    · exact ⟨_, nextFound, rfl, .same _⟩
    · refine ⟨next, nextFound, effect, ?_⟩
      rw [queued, failed]
      exact .exhausted
  · rename_i selected chosen
    simp only [bind_eq_ok, pure_eq_ok, Prod.mk.injEq] at body
    obtain ⟨leased, inserted, rfl, rfl⟩ := body
    have steps := insertLease_steps inserted
    have member := List.mem_filter.mp (List.mem_of_find?_eq_some chosen)
    have ready := (Bool.and_eq_true_iff.mp member.2).1
    have queued := queued_status ready
    have selectedFound := Table.find?_eq_some_iff.mpr
      (⟨member.1, rfl⟩ : selected ∈ (failExhausted store target
        maxAttempts).steps ∧ selected.key = selected.key)
    refine ⟨?_, ?_⟩
    · intro key row found
      rw [steps, Option.map_some]
      obtain ⟨middle, middleFound, trimmed⟩ :=
        failExhausted_find? store target maxAttempts found
      obtain ⟨next, nextFound, effect, started⟩ := startAttempt_find? _
        selected.key (selected.attempt + 1) workerId now middleFound
      refine ⟨next, nextFound, ?_⟩
      rcases trimmed with rfl | ⟨wasQueued, failed, sameEffect⟩
      · rcases started with ⟨rfl, before, after⟩ | ⟨rfl, _⟩
        · rw [selectedFound] at middleFound
          cases middleFound
          refine ⟨effect, ?_⟩
          rw [before, after]
          exact .claimed (causeAt_of_is (queued_is ready) _)
        · exact ⟨rfl, .same _⟩
      · rcases started with ⟨_, before, _⟩ | ⟨rfl, _⟩
        · rw [failed] at before
          cases before
        · refine ⟨sameEffect, ?_⟩
          rw [wasQueued, failed]
          exact .exhausted
    · intro claim same
      cases same
      refine ⟨⟨selected, failExhausted_queued selectedFound queued, queued⟩, ?_⟩
      · obtain ⟨next, nextFound, _, started⟩ := startAttempt_find? _
          selected.key (selected.attempt + 1) workerId now selectedFound
        refine ⟨next, by rw [steps]; exact nextFound, ?_⟩
        rcases started with ⟨_, _, after⟩ | ⟨_, unselected⟩
        · exact after
        · exact absurd ⟨rfl, queued⟩ unselected

theorem closeRevision_steps (store : WorkflowStore)
    (workflowRevisionId tenantId : String) (now : Int) :
    (closeRevision store workflowRevisionId tenantId now).steps =
      store.steps := by
  unfold closeRevision
  split <;> rfl

theorem Step.key_of_is {tenantId : String}
    (selected : row.is key tenantId = true) : row.key = key := by
  simp only [Step.is, Bool.and_eq_true, decide_eq_true_eq] at selected
  exact selected.1

theorem persistCompletion_moves (digests : Digests) (key : StepKey)
    (tenantId : String) (attempt : Nat) (result : DispatchResult)
    (now : Int) :
    StepsMove (some ⟨.complete, key, tenantId⟩) store
      (persistCompletion digests store key tenantId attempt result now).2 := by
  refine persistCompletion_preserves (.refl store) fun current _ _ _ _ => ?_
  have moved : StepsMove (some ⟨.complete, key, tenantId⟩) store
      (completeStep store key tenantId attempt result current) := by
    refine StepsMove.update (fun _ => by rfl) ?_
    intro row _ selected
    simp only [Step.completes, Bool.and_eq_true] at selected
    exact .completed (causeAt_of_is selected.1.1 _) selected.2
  exact moved.then_steps (closeRevision_steps ..)

theorem overwrite_moves {tenantId : String} {assign : Step → Step}
    (status : ExecutionStatus) {keepsKey : ∀ row, (assign row).key = row.key}
    (effects : ∀ row, (assign row).effect = row.effect)
    (statuses : ∀ row, (assign row).executionStatus = status) :
    StepsMove (some ⟨.overwrite status, key, tenantId⟩) store
      (updateSteps store (fun row => row.is key tenantId) assign keepsKey) := by
  apply StepsMove.update effects
  intro row _ selected
  rw [statuses row]
  exact .overwritten (causeAt_of_is selected _)

theorem releaseWithoutConsumingAttempt_moves (key : StepKey)
    (tenantId reason : String) (retryAt : Int) (attempt : Nat) :
    StepsMove (some ⟨.release, key, tenantId⟩) store
      (releaseWithoutConsumingAttempt store key tenantId reason retryAt
        attempt) := by
  apply StepsMove.update (fun _ => by rfl)
  intro row _ selected
  simp only [Bool.and_eq_true, beq_iff_eq] at selected
  rw [selected.2]
  exact .released (causeAt_of_is selected.1.1 _)

def Recovers (store later : WorkflowStore) : Prop :=
  ∀ key row, store.steps.find? key = some row →
    ∃ next, later.steps.find? key = some next ∧ next.effect = row.effect ∧
      (next.executionStatus = row.executionStatus ∨
        (row.executionStatus = .running ∧
          next.executionStatus = row.effect.recovered))

theorem recoverClaim_recovers (store : WorkflowStore) (now : Int)
    (lease : Lease) (effect : StepEffect)
    (same : ∀ row, store.steps.find? lease.step = some row →
      row.effect = effect) :
    Recovers store (recoverClaim store now lease effect) := by
  intro key row found
  obtain ⟨_, rfl⟩ := Table.find?_eq_some_iff.mp found
  refine ⟨_, by
    rw [recoverClaim, updateSteps, Table.find?_updateWhere, found,
      Option.map_some], ?_⟩
  split
  · rename_i selected
    simp only [Bool.and_eq_true, beq_iff_eq] at selected
    have named := Step.key_of_is selected.1
    rw [named] at found
    refine ⟨rfl, .inr ⟨selected.2, ?_⟩⟩
    rw [same row found]
  · exact ⟨rfl, .inl rfl⟩

theorem Recovers.trans {first second third : WorkflowStore}
    (left : Recovers first second) (right : Recovers second third) :
    Recovers first third := by
  intro key row found
  obtain ⟨middle, middleFound, middleEffect, moved⟩ := left key row found
  obtain ⟨last, lastFound, lastEffect, movedAgain⟩ :=
    right key middle middleFound
  refine ⟨last, lastFound, lastEffect.trans middleEffect, ?_⟩
  rw [middleEffect] at movedAgain
  rcases moved with same | ⟨running, recovered⟩
  · rw [same] at movedAgain
    exact movedAgain
  · rcases movedAgain with same | ⟨again, _⟩
    · exact .inr ⟨running, same.trans recovered⟩
    · rw [recovered] at again
      cases effect : row.effect <;> rw [effect] at again <;> cases again

theorem recoverExpiredClaims_recovers (store : WorkflowStore) (now : Int) :
    Recovers store (recoverExpiredClaims store now) := by
  have refl : ∀ store, Recovers store store := by
    intro store key row found
    exact ⟨row, found, rfl, .inl rfl⟩
  have loop : ∀ (expired : List (Lease × Step)) (current : WorkflowStore),
      Recovers store current →
      (∀ item ∈ expired, store.steps.find? item.1.step = some item.2) →
      Recovers store (expired.foldl (fun store item =>
        recoverClaim store now item.1 item.2.effect) current) := by
    intro expired
    induction expired with
    | nil => exact fun _ recovers _ => recovers
    | cons item _ induction =>
        intro current recovers read
        apply induction
        · refine recovers.trans (recoverClaim_recovers current now item.1
            item.2.effect ?_)
          intro row found
          obtain ⟨_, nextFound, effect, _⟩ := recovers item.1.step item.2
            (read item List.mem_cons_self)
          rw [found] at nextFound
          cases nextFound
          exact effect
        · intro other member
          exact read other (List.mem_cons_of_mem item member)
  apply loop _ store (refl store)
  intro item member
  obtain ⟨_, _, joined⟩ := List.mem_filterMap.mp member
  unfold abandoned at joined
  split at joined
  · simp only [Option.map_eq_some_iff, Option.filter_eq_some_iff] at joined
    obtain ⟨_, ⟨found, _⟩, rfl⟩ := joined
    exact found
  · cases joined

theorem recoverExpiredClaims_moves (store : WorkflowStore) (now : Int) :
    StepsMove named store (recoverExpiredClaims store now) := by
  intro key row found
  obtain ⟨next, nextFound, effect, same | ⟨running, recovered⟩⟩ :=
    recoverExpiredClaims_recovers store now key row found
  · refine ⟨next, nextFound, effect, ?_⟩
    rw [same]
    exact .same _
  · refine ⟨next, nextFound, effect, ?_⟩
    rw [running, recovered]
    exact .recovered

def Reconciliation.verdict (result : Reconciliation) : Cause :=
  if result.executionStatus = .completed then .complete else .reconcile

theorem applyReconciliation_moves (digests : Digests) (key : StepKey)
    (tenantId : String) (attempt : Nat) (result : Reconciliation) :
    StepsMove (some ⟨result.verdict, key, tenantId⟩) store
      (applyReconciliation digests store key tenantId attempt result).2 := by
  have unknown : ∀ status : ExecutionStatus,
      (status = .queued ∨ status = .executionUnknown) →
      result.executionStatus = status →
      StepsMove (some ⟨result.verdict, key, tenantId⟩) store (updateSteps store
        (fun row => row.is key tenantId && row.attempt == attempt &&
          row.executionStatus == .executionUnknown)
        (fun row => { row with
          executionStatus := result.executionStatus
          verificationStatus := result.verificationStatus
          claimedBy := none, claimedAt := none })
        (fun _ => rfl)) := by
    intro status either observed
    apply StepsMove.update (fun _ => by rfl)
    intro row _ selected
    simp only [Bool.and_eq_true, beq_iff_eq] at selected
    rw [selected.2]
    dsimp only
    rw [observed]
    rcases either with rfl | rfl
    · refine .reconciled ?_
      rw [causeAt_of_is selected.1.1, Reconciliation.verdict, observed]
      rfl
    · exact .same _
  unfold applyReconciliation
  split
  · rename_i observed
    have verdict : result.verdict = .complete := by
      rw [Reconciliation.verdict, if_pos observed]
    split
    · rw [verdict]
      exact persistCompletion_moves digests key tenantId attempt _ _
    · exact .refl store
  · rename_i observed
    exact unknown .queued (.inl rfl) observed
  · rename_i observed
    exact unknown .executionUnknown (.inr rfl) observed
  · exact .refl store

theorem resumePolicyPaused_moves (store : WorkflowStore) :
    StepsMove named store (resumePolicyPaused store) := by
  apply StepsMove.update (fun _ => by rfl)
  intro row _ selected
  simp only [Bool.and_eq_true, beq_iff_eq] at selected
  rw [selected.1]
  exact .resumed

theorem retryCorrectedWrite_moves (store : WorkflowStore) (key : StepKey)
    (tenantId : String) :
    StepsMove named store (retryCorrectedWrite store key tenantId) := by
  apply StepsMove.update (fun _ => by rfl)
  intro row _ selected
  simp only [Bool.and_eq_true, beq_iff_eq] at selected
  rw [selected.1.2]
  exact .resumed

theorem cancelSteps_moves (store : WorkflowStore) (target : Target) :
    StepsMove named store (cancelSteps store target) := by
  apply StepsMove.update (fun _ => by rfl)
  intro row _ selected
  simp only [Bool.and_eq_true] at selected
  exact .cancelled selected.2

theorem setVerificationStatus_moves (store : WorkflowStore) (key : StepKey)
    (tenantId : String) (status : VerificationStatus) :
    StepsMove named store
      (setVerificationStatus store key tenantId status) := by
  unfold setVerificationStatus
  split
  · exact .refl store
  · exact .of_status (fun _ => by rfl) (fun _ => by rfl)

end Statements

inductive Hold where
  | preparing
  | dispatching
  | releasing
  | settling

def StepWrite.cause : StepWrite → Cause
  | .pauseByPolicy _ => .overwrite .pausedByPolicy
  | .markExecutionUnknown _ => .overwrite .executionUnknown
  | .releaseForRetry _ _ => .overwrite .queued
  | .releaseWithoutConsumingAttempt _ _ => .release
  | .persistCompletion _ => .complete

/-- A statement that may put its step back among those to be run, or one that
never does. -/
def StepWrite.hold : StepWrite → Hold
  | .pauseByPolicy _ | .releaseForRetry _ _
  | .releaseWithoutConsumingAttempt _ _ => .releasing
  | .markExecutionUnknown _ | .persistCompletion _ => .settling

def Phase.held : Phase → Option (Claim × Hold)
  | .claimed _ claim | .loaded _ claim _ | .deciding _ claim _ =>
      some (claim, .preparing)
  | .dispatching _ claim _ => some (claim, .dispatching)
  | .writing _ claim write _ _ => some (claim, write.hold)
  | _ => none

def Phase.Goes (before after : Phase) : Prop :=
  after.held = none ∨ after.held = before.held ∨
    ∃ claim hold, before.held = some (claim, .preparing) ∧
      after.held = some (claim, hold) ∧ hold ≠ .settling

inductive WorkflowMove (action : WorkflowAction)
    (system next : WorkflowSystem) : Prop where
  | quiet (worker : Nat) (phase : Phase)
      (steps : StepsMove none system.store next.store)
      (workers : next.workers = Function.update system.workers worker phase)
      (goes : (system.workers worker).Goes phase)
      (claims : next.claims = system.claims)
  | claim (worker : Nat) (target : Target) (claim : Claim) (phase : Phase)
      (steps : StepsMove (some ⟨.claim, claim.step, target.tenantId⟩)
        system.store next.store)
      (queued : ∃ row, system.store.steps.find? claim.step = some row ∧
        row.executionStatus = .queued)
      (running : ∃ row, next.store.steps.find? claim.step = some row ∧
        row.executionStatus = .running)
      (workers : next.workers = Function.update system.workers worker phase)
      (held : phase.held = some (claim, .preparing))
      (claims : next.claims = claim :: system.claims)
  | record (worker : Nat) (target : Target) (claim : Claim)
      (write : StepWrite) (consumed : Bool) (result : RunResult)
      (phase : Phase)
      (advances : ∃ now, action = .advance worker .proceed now)
      (writing : system.workers worker =
        .writing target claim write consumed result)
      (steps : StepsMove (some ⟨write.cause, claim.step, target.tenantId⟩)
        system.store next.store)
      (workers : next.workers = Function.update system.workers worker phase)
      (done : phase.held = none)
      (claims : next.claims = system.claims)
  | answer (worker : Nat) (target : Target) (claim : Claim)
      (ready : ReadyStep) (outcome : DispatchOutcome) (seconds : Int)
      (advances : ∃ now, action = .advance worker (.dispatched outcome) now)
      (dispatching : system.workers worker = .dispatching target claim ready)
      (store : next.store = system.store)
      (workers : next.workers = Function.update system.workers worker
        (outcomePhase seconds target claim outcome))
      (claims : next.claims = system.claims)
  | reconcile (key : StepKey) (tenantId : String) (attempt : Nat)
      (result : Reconciliation)
      (reconciles : action = .applyReconciliation key tenantId attempt result)
      (steps : StepsMove (some ⟨result.verdict, key, tenantId⟩) system.store
        next.store)
      (workers : next.workers = system.workers)
      (claims : next.claims = system.claims)

section System

variable {action : WorkflowAction} {system : WorkflowSystem} {worker : Nat}
  {phase : Phase}

theorem WorkflowMove.write {store : WorkflowStore}
    (steps : StepsMove none system.store store) :
    WorkflowMove action system (system.write store) :=
  .quiet 0 (system.workers 0) steps (Function.update_eq_self ..).symm
    (.inr (.inl rfl)) rfl

theorem WorkflowMove.commit {store : WorkflowStore}
    (steps : StepsMove none system.store store)
    (goes : (system.workers worker).Goes phase) :
    WorkflowMove action system ((system.write store).move worker phase) :=
  .quiet worker phase steps rfl goes rfl

theorem WorkflowMove.move (goes : (system.workers worker).Goes phase) :
    WorkflowMove action system (system.move worker phase) :=
  .quiet worker phase (.refl _) rfl goes rfl

theorem executeWrite_moves (digests : Digests) (store : WorkflowStore)
    (target : Target) (claim : Claim) (now : Int) (write : StepWrite) :
    StepsMove (some ⟨write.cause, claim.step, target.tenantId⟩) store
      (executeWrite digests store target claim now write).2 := by
  cases write with
  | pauseByPolicy =>
      exact overwrite_moves .pausedByPolicy (fun _ => by rfl) (fun _ => by rfl)
  | markExecutionUnknown =>
      exact overwrite_moves .executionUnknown (fun _ => by rfl) (fun _ => by rfl)
  | releaseForRetry =>
      exact overwrite_moves .queued (fun _ => by rfl)
        (fun _ => by rfl)
  | releaseWithoutConsumingAttempt reason delay =>
      exact releaseWithoutConsumingAttempt_moves claim.step target.tenantId
        reason (now + delay) claim.attempt
  | persistCompletion result =>
      exact persistCompletion_moves digests claim.step target.tenantId
        claim.attempt result now

theorem inputPhase_goes {target : Target} {claim : Claim} {before : Phase}
    (preparing : before.held = some (claim, .preparing)) (step : Step)
    (resolved : Except ResolveError Value) :
    before.Goes (inputPhase target claim step resolved) := by
  unfold inputPhase
  split
  · exact .inr (.inl preparing.symm)
  · split
    · exact .inr (.inr ⟨claim, .releasing, preparing, rfl, by simp⟩)
    · exact .inl rfl

end System

theorem advance_move (config : ExecutorConfig) (system : WorkflowSystem)
    (worker : Nat) (answer : Answer) (now : Int) :
    WorkflowMove (.advance worker answer now) system
      (advance config system worker answer now) := by
  have stays : WorkflowMove (.advance worker answer now) system system :=
    .write (.refl _)
  unfold advance
  cases phase : system.workers worker with
  | idle => exact stays
  | authorizing _ _ effects =>
      cases answer with
      | proceed =>
          cases effects with
          | nil => exact .move (.inl rfl)
          | cons =>
              dsimp only
              split <;> exact .move (.inl rfl)
      | _ => cases effects <;> exact stays
  | claiming target =>
      cases answer with
      | lease token =>
          dsimp only
          split
          · rename_i claimed
            rw [transaction_error claimed]
            exact .commit (.refl _) (.inl rfl)
          · rename_i claimed
            exact .commit (claimReadyStep_moves claimed).1 (.inl rfl)
          · rename_i claim store claimed
            obtain ⟨steps, both⟩ := claimReadyStep_moves claimed
            obtain ⟨queued, running⟩ := both claim rfl
            exact .claim worker target claim _ steps queued running rfl rfl rfl
      | _ => exact stays
  | examining =>
      cases answer with
      | proceed =>
          dsimp only
          split <;> exact .move (.inl rfl)
      | _ => exact stays
  | claimed =>
      cases answer with
      | proceed =>
          dsimp only
          split
          · exact .move (.inl rfl)
          · exact .move (.inr (.inl (by rw [phase]; rfl)))
      | _ => exact stays
  | loaded =>
      cases answer with
      | proceed =>
          dsimp only
          split
          · exact .move (.inl rfl)
          · exact .move (inputPhase_goes (by rw [phase]; rfl) _ _)
      | _ => exact stays
  | deciding _ claim =>
      have preparing : (system.workers worker).held =
          some (claim, .preparing) := by
        rw [phase]
        rfl
      cases answer with
      | decision =>
          dsimp only
          split
          · exact .move (.inr (.inr ⟨claim, _, preparing, rfl, by simp⟩))
          · exact .move (.inr (.inr ⟨claim, _, preparing, rfl, by
              simp [StepWrite.hold]⟩))
      | _ => exact stays
  | dispatching target claim ready =>
      cases answer with
      | dispatched outcome =>
          exact .answer worker target claim ready outcome _ ⟨now, rfl⟩ phase rfl
            rfl rfl
      | _ => exact stays
  | writing target claim write consumed result =>
      cases answer with
      | proceed =>
          refine .record worker target claim write consumed result _ ⟨now, rfl⟩
            phase (executeWrite_moves config.digests system.store target claim
              now write) rfl ?_ rfl
          split <;> rfl
      | _ => exact stays
  | finishing | cancellingRun =>
      cases answer with
      | proceed => exact .commit (.of_steps rfl) (.inl rfl)
      | _ => exact stays
  | cancellingRevision =>
      cases answer with
      | proceed =>
          refine .commit (.of_steps rfl) (.inl ?_)
          split <;> rfl
      | _ => exact stays

theorem workflowStep_move (config : ExecutorConfig)
    (system : WorkflowSystem) (action : WorkflowAction) :
    WorkflowMove action system (workflowStep config system action) := by
  have stays : WorkflowMove action system system := .write (.refl _)
  cases action with
  | runNext =>
      simp only [workflowStep]
      split
      · exact .move (.inl rfl)
      · exact stays
  | advance worker answer now =>
      exact advance_move config system worker answer now
  | crash => exact .move (.inl rfl)
  | createRun => exact .write (.of_steps (createRun_steps ..))
  | createRevision target planGraphHash plan now contentTtlSeconds =>
      exact .write (createRevision_moves target.workflowRevisionId
        target.workflowRunId target.tenantId planGraphHash plan now
        contentTtlSeconds)
  | authorizeRequestedRead =>
      exact .write (.of_steps (authorizeRequestedRead_authorizes ..).steps)
  | recordApproval =>
      exact .write (.of_steps (recordApproval_authorizes ..).steps)
  | recordCampaignAuthorization =>
      exact .write (.of_steps (recordCampaignAuthorization_authorizes ..).steps)
  | recoverExpiredClaims now =>
      exact .write (recoverExpiredClaims_moves system.store now)
  | claimUnresolvedWriteStep | deferReconciliation | retrySafeRead
  | purgeExpiredContent =>
      exact .write (.of_status (fun _ => by rfl)
        (fun _ => by rfl))
  | applyReconciliation key tenantId attempt result =>
      exact .reconcile key tenantId attempt result rfl
        (applyReconciliation_moves config.digests key tenantId attempt result)
        rfl rfl
  | setVerificationStatus key tenantId status =>
      exact .write (setVerificationStatus_moves system.store key tenantId
        status)
  | resumePolicyPaused => exact .write (resumePolicyPaused_moves system.store)
  | cancelRevision _ target =>
      simp only [workflowStep]
      split
      · exact .commit (cancelSteps_moves system.store target) (.inl rfl)
      · exact stays
  | retryCorrectedWrite key tenantId =>
      exact .write (retryCorrectedWrite_moves system.store key tenantId)

def ExecutionStatus.started : ExecutionStatus → Bool
  | .running | .executionUnknown | .completed => true
  | _ => false

def Cause.keepsStarted : Cause → Bool
  | .claim | .complete => true
  | .release | .reconcile => false
  | .overwrite status => status.started

def Started (store : WorkflowStore) (key : StepKey) : Prop :=
  ∃ row, store.steps.find? key = some row ∧ row.executionStatus.started = true

theorem StatusMove.keepsStarted {cause : Option Cause}
    {before after : ExecutionStatus}
    (move : StatusMove .write cause before after)
    (keeps : ∀ named, cause = some named → named.keepsStarted = true)
    (started : before.started = true) : after.started = true := by
  cases move with
  | same => exact started
  | exhausted => cases started
  | recovered => rfl
  | resumed => cases started
  | cancelled cancellable =>
      cases before <;> cases cancellable <;> cases started
  | claimed | completed => rfl
  | released caused | reconciled caused => cases keeps _ caused
  | overwritten caused => exact keeps _ caused

theorem StepsMove.keepsStarted {named : Option Named}
    {store later : WorkflowStore} {key : StepKey}
    (moves : StepsMove named store later)
    (writes : ∀ row, later.steps.find? key = some row → row.effect = .write)
    (keeps : ∀ row cause, row.key = key → causeAt named row = some cause →
      cause.keepsStarted = true)
    (started : Started store key) : Started later key := by
  obtain ⟨row, found, isStarted⟩ := started
  obtain ⟨next, nextFound, effect, move⟩ := moves key row found
  rw [← effect, writes next nextFound] at move
  refine ⟨next, nextFound, move.keepsStarted ?_ isStarted⟩
  intro cause caused
  exact keeps row cause (Table.find?_eq_some_iff.mp found).2 caused

theorem causeAt_other {row : Step} {cause named : Cause} {key : StepKey}
    {tenantId : String} (other : row.key ≠ key) :
    causeAt (some ⟨named, key, tenantId⟩) row ≠ some cause := by
  intro caused
  exact other (Step.key_of_is (is_of_causeAt caused).1)

theorem WorkflowMove.effects {action : WorkflowAction}
    {system next : WorkflowSystem} (move : WorkflowMove action system next)
    {key : StepKey} {row : Step}
    (found : system.store.steps.find? key = some row) :
    ∃ later, next.store.steps.find? key = some later ∧
      later.effect = row.effect := by
  have kept : ∀ named, StepsMove named system.store next.store →
      ∃ later, next.store.steps.find? key = some later ∧
        later.effect = row.effect := by
    intro named moves
    obtain ⟨later, laterFound, effect, _⟩ := moves key row found
    exact ⟨later, laterFound, effect⟩
  cases move with
  | quiet _ _ steps | claim _ _ _ _ steps | record _ _ _ _ _ _ _ _ _ steps
  | reconcile _ _ _ _ _ steps =>
      exact kept _ steps
  | answer _ _ _ _ _ _ _ _ store => exact ⟨row, by rw [store]; exact found, rfl⟩

end AcpTask.Workflow
