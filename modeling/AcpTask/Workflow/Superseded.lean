import AcpTask.Workflow.RunStatus

namespace AcpTask.Workflow

open Data Library

/-! What still happens to the steps of a revision once it is superseded or
cancelled. -/

def Retired (store : WorkflowStore) (id : String) : Prop :=
  ∃ row, store.revisions.find? id = some row ∧
    (row.status = .cancelled ∨ ∃ newer ∈ store.revisions,
      newer.workflowRunId = row.workflowRunId ∧
      row.revisionNumber < newer.revisionNumber)

def Phase.waits (id : String) : Phase → Bool
  | .authorizing target _ effects =>
      target.workflowRevisionId == id && effects.isEmpty
  | .claiming target => target.workflowRevisionId == id
  | _ => false

def claimable (store : WorkflowStore) (target : Target) (now : Int)
    (row : Step) : Bool :=
  target.queued row &&
    decide ((row.attempt : Int) - row.uncountedAttempts < 5) &&
    row.retryAt.all (fun retryAt => decide (retryAt ≤ now)) &&
    dependenciesCompleted store target.workflowRevisionId row.dependsOn

/-- A worker that was authorized before `start` claims when a step of the
revision can be claimed again. -/
def staleClaim (start system : WorkflowSystem) (id : String) :
    WorkflowAction → Bool
  | .advance worker (.lease _) now =>
      match system.workers worker with
      | .claiming target => target.workflowRevisionId == id &&
          (start.workers worker).waits id &&
          system.store.steps.rows.any (claimable system.store target now)
      | _ => false
  | _ => false

def authorizable (store : WorkflowStore) (id : String) : Bool :=
  (store.revisions.find? id).any fun revision =>
    revision.status.executable &&
      (store.runs.find? revision.workflowRunId).any fun run =>
        run.currentRevisionId == some id

/-- A worker is about to claim that was not when `start` was reached. -/
def WaitsAnew (start system : WorkflowSystem) (id : String) : Prop :=
  ∃ worker, (start.workers worker).waits id = false ∧
    (system.workers worker).waits id = true

/-- A statement that asks for no status reaches a completed step of the
revision after a completion has made the revision executable again. -/
def Reopens (config : ExecutorConfig) (start system : WorkflowSystem)
    (id : String) (action : WorkflowAction) : Prop :=
  (∃ call key tenantId row, action.call config system = some call ∧
    call.overwrites = some (key, tenantId) ∧ key.1 = id ∧
    system.store.steps.find? key = some row ∧
    row.is key tenantId = true ∧ row.executionStatus = .completed) ∧
  (authorizable system.store id = true ∨ WaitsAnew start system id)

def claimsOf (system : WorkflowSystem) (id : String) : List Claim :=
  system.claims.filter fun claim => claim.step.1 == id

structure Numbered (store : WorkflowStore) : Prop where
  bound : Bound store
  newest : ∀ id run, store.runs.find? id = some run → ∀ current row,
    run.currentRevisionId = some current →
    store.revisions.find? current = some row →
    row.workflowRunId = id ∧ ∀ other ∈ store.revisions,
      other.workflowRunId = id → other.revisionNumber ≤ row.revisionNumber

theorem le_lastRevisionNumber {store : WorkflowStore} {row : Revision}
    (member : row ∈ store.revisions) :
    row.revisionNumber ≤ lastRevisionNumber store row.workflowRunId := by
  have listed : row.revisionNumber ∈ (store.revisions.rows.filter fun other =>
      other.workflowRunId == row.workflowRunId).map Revision.revisionNumber :=
    List.mem_map_of_mem (List.mem_filter.mpr ⟨member, beq_self_eq_true _⟩)
  rw [lastRevisionNumber, List.foldl_max]
  exact (List.le_max?_getD_of_mem listed).trans (le_max_right _ _)

section Step

variable {store : WorkflowStore} {digests : Digests} {call : RepositoryCall}

theorem createRevision_current {target : Target} {planGraphHash : String}
    {plan : List PlannedStep} {now contentTtlSeconds : Int} {id : String}
    (absent : store.revisions.find? id = none)
    (added : (createRevision store target.workflowRevisionId
      target.workflowRunId target.tenantId planGraphHash plan now
      contentTtlSeconds).2.revisions.find? id ≠ none) :
    ∀ run, (createRevision store target.workflowRevisionId
      target.workflowRunId target.tenantId planGraphHash plan now
      contentTtlSeconds).2.runs.find? target.workflowRunId = some run →
    run.currentRevisionId = some target.workflowRevisionId := by
  revert added
  refine createRevision_preserves
    (motive := fun later : WorkflowStore => later.revisions.find? id ≠ none →
      ∀ run, later.runs.find? target.workflowRunId = some run →
        run.currentRevisionId = some target.workflowRevisionId)
    (fun added => absurd absent added) ?_
  intro revisions steps _ _ owned _ run found
  dsimp only at found
  rw [Table.find?_updateWhere, Option.map_eq_some_iff] at found
  obtain ⟨old, oldFound, rfl⟩ := found
  have same : old.workflowRunId = target.workflowRunId :=
    (Table.find?_eq_some_iff.mp oldFound).2
  rw [oldFound] at owned
  have tenant : old.tenantId = target.tenantId := beq_iff_eq.mp owned
  rw [if_pos (by simp [same, tenant])]

theorem revision_origin (digests : Digests) (call : RepositoryCall)
    {row : Revision}
    (member : row ∈ (repositoryStep .sqlite digests store call).revisions) :
    (∃ old ∈ store.revisions, old.Alike row) ∨
    ∃ target planGraphHash plan now contentTtlSeconds,
      call = .createRevision target planGraphHash plan now contentTtlSeconds ∧
      store.revisions.find? row.workflowRevisionId = none ∧
      row.workflowRunId = target.workflowRunId ∧
      row.revisionNumber = lastRevisionNumber store target.workflowRunId + 1 ∧
      ∀ run, (repositoryStep .sqlite digests store call).runs.find?
          target.workflowRunId = some run →
        run.currentRevisionId = some row.workflowRevisionId := by
  have found := Table.find?_eq_some_iff.mpr (⟨member, rfl⟩ :
    row ∈ (repositoryStep .sqlite digests store call).revisions ∧
      row.workflowRevisionId = row.workflowRevisionId)
  have moves := (repositoryStep_tables .sqlite digests store call).revisions
    row.workflowRevisionId
  rw [found] at moves
  generalize before : store.revisions.find? row.workflowRevisionId = old
    at moves
  generalize same : some row = after at moves
  cases moves with
  | absent => cases same
  | present alike =>
      cases same
      exact .inl ⟨_, (Table.find?_eq_some_iff.mp before).1, alike⟩
  | created creates =>
      cases same
      refine .inr ⟨_, _, _, _, _, creates, rfl, rfl, rfl, ?_⟩
      subst creates
      refine createRevision_current before ?_
      rw [repositoryStep] at found
      rw [found]
      exact Option.some_ne_none _

theorem run_origin (digests : Digests) (call : RepositoryCall)
    {id current : String} {next : WorkflowRun}
    (found : (repositoryStep .sqlite digests store call).runs.find? id =
      some next)
    (named : next.currentRevisionId = some current) :
    (∃ run, store.runs.find? id = some run ∧
      run.currentRevisionId = some current) ∨
    ∃ target planGraphHash plan now contentTtlSeconds,
      call = .createRevision target planGraphHash plan now contentTtlSeconds ∧
      store.revisions.find? current = none ∧ target.workflowRunId = id := by
  have moves := (repositoryStep_tables .sqlite digests store call).runs id
  rw [found] at moves
  cases before : store.runs.find? id with
  | none =>
      rw [before] at moves
      cases moves with
      | created _ none =>
          rw [none] at named
          cases named
  | some run =>
      rw [before] at moves
      cases moves with
      | present _ move =>
          cases move with
          | kept _ same | completed _ _ _ same | cancelled _ _ same =>
              exact .inl ⟨run, rfl, same ▸ named⟩
          | revised ofRun _ fresh _ _ revises =>
              rw [revises] at named
              cases named
              refine .inr ⟨_, _, _, _, _, rfl, fresh, ?_⟩
              exact ofRun.symm.trans (Table.find?_eq_some_iff.mp before).2

theorem numbered_empty : Numbered WorkflowStore.empty where
  bound := bound_empty
  newest := fun _ _ found => by cases found

theorem repositoryStep_numbered (digests : Digests) (call : RepositoryCall)
    (numbered : Numbered store) :
    Numbered (repositoryStep .sqlite digests store call) where
  bound := repositoryStep_bound .sqlite digests store call numbered.bound
  newest := by
    intro id next found current row named rowFound
    obtain ⟨rowMember, rowId⟩ := Table.find?_eq_some_iff.mp rowFound
    have rowOrigin := revision_origin digests call rowMember
    rw [rowId] at rowOrigin
    rcases run_origin digests call found named with
      ⟨run, before, was⟩ | ⟨target, _, _, _, _, creates, fresh, rfl⟩
    · rcases rowOrigin with ⟨old, member, alike⟩ | ⟨_, _, _, _, _, _, absent, _⟩
      · have oldFound : store.revisions.find? current = some old :=
          Table.find?_eq_some_iff.mpr
            ⟨member, alike.workflowRevisionId.symm.trans rowId⟩
        obtain ⟨ofRun, newest⟩ := numbered.newest id run before current old was
          oldFound
        refine ⟨alike.workflowRunId.trans ofRun, ?_⟩
        intro other otherMember otherRun
        rw [alike.revisionNumber]
        rcases revision_origin digests call otherMember with
          ⟨oldOther, oldMember, otherAlike⟩ |
          ⟨target, _, _, _, _, _, absent, ofTarget, _, revised⟩
        · rw [otherAlike.revisionNumber]
          exact newest oldOther oldMember
            (otherAlike.workflowRunId.symm.trans otherRun)
        · rw [← ofTarget, otherRun] at revised
          have same := revised next found
          rw [named] at same
          cases same
          rw [oldFound] at absent
          cases absent
      · exact absurd absent (numbered.bound.runs id run before current was)
    · rcases rowOrigin with ⟨old, member, alike⟩ |
        ⟨_, _, _, _, _, sameCall, _, ofTarget, number, _⟩
      · rw [Table.find?_eq_some_iff.mpr
          ⟨member, alike.workflowRevisionId.symm.trans rowId⟩] at fresh
        cases fresh
      · cases creates.symm.trans sameCall
        refine ⟨ofTarget, ?_⟩
        intro other otherMember otherRun
        rw [number]
        rcases revision_origin digests _ otherMember with
          ⟨oldOther, oldMember, otherAlike⟩ |
          ⟨_, _, _, _, _, otherCall, _, _, otherNumber, _⟩
        · have below := le_lastRevisionNumber oldMember
          rw [← otherAlike.workflowRunId, otherRun,
            ← otherAlike.revisionNumber] at below
          omega
        · cases creates.symm.trans otherCall
          exact otherNumber.le

def OffCurrent (store : WorkflowStore) (row : Revision) : Prop :=
  ∀ run, store.runs.find? row.workflowRunId = some run →
    run.currentRevisionId ≠ some row.workflowRevisionId

def Shut (store : WorkflowStore) (id : String) : Prop :=
  ∃ row, store.revisions.find? id = some row ∧
    (OffCurrent store row ∨ row.status = .cancelled)

def Ended (store : WorkflowStore) (id : String) : Prop :=
  ∃ row, store.revisions.find? id = some row ∧
    (OffCurrent store row ∨ row.status = .cancelled ∨ row.status = .completed)

def Drained (store : WorkflowStore) (id : String) : Prop :=
  ∀ step ∈ store.steps, step.workflowRevisionId = id →
    step.executionStatus = .completed

variable {id : String}

theorem Shut.ended (shut : Shut store id) : Ended store id := by
  obtain ⟨row, found, off | cancelled⟩ := shut
  · exact ⟨row, found, .inl off⟩
  · exact ⟨row, found, .inr (.inl cancelled)⟩

theorem authorizable_iff : authorizable store id = true ↔
    ∃ row, store.revisions.find? id = some row ∧
      row.status.executable = true ∧ ¬ OffCurrent store row := by
  simp only [authorizable, OffCurrent, Option.any_eq_true, Bool.and_eq_true,
    beq_iff_eq, not_forall, not_not, exists_prop]
  constructor
  all_goals
    rintro ⟨row, found, executable, run, runFound, current⟩
    refine ⟨row, found, executable, run, runFound, ?_⟩
    rw [current, (Table.find?_eq_some_iff.mp found).2]

theorem Shut.not_authorizable (shut : Shut store id) :
    authorizable store id = false := by
  rw [← Bool.not_eq_true, authorizable_iff]
  rintro ⟨_, found, executable, current⟩
  obtain ⟨other, otherFound, off | cancelled⟩ := shut
  · rw [found] at otherFound
    cases otherFound
    exact current off
  · rw [found] at otherFound
    cases otherFound
    rw [cancelled] at executable
    cases executable

theorem Ended.shut (ended : Ended store id)
    (refused : authorizable store id = false) : Shut store id := by
  obtain ⟨row, found, off | cancelled | completed⟩ := ended
  · exact ⟨row, found, .inl off⟩
  · exact ⟨row, found, .inr cancelled⟩
  · refine ⟨row, found, .inl ?_⟩
    by_contra current
    have authorized := authorizable_iff.mpr
      ⟨row, found, by rw [completed]; rfl, current⟩
    rw [refused] at authorized
    cases authorized

theorem Retired.shut (retired : Retired store id) (numbered : Numbered store) :
    Shut store id := by
  obtain ⟨row, found, cancelled | ⟨newer, member, sameRun, less⟩⟩ := retired
  · exact ⟨row, found, .inr cancelled⟩
  · refine ⟨row, found, .inl fun run runFound current => ?_⟩
    rw [(Table.find?_eq_some_iff.mp found).2] at current
    have newest := (numbered.newest _ run runFound id row current found).2
      newer member sameRun
    omega

theorem OffCurrent.step {row next : Revision} (digests : Digests)
    (call : RepositoryCall) (found : store.revisions.find? id = some row)
    (alike : row.Alike next) (off : OffCurrent store row) :
    OffCurrent (repositoryStep .sqlite digests store call) next := by
  intro run runFound current
  rw [alike.workflowRunId] at runFound
  rw [alike.workflowRevisionId] at current
  rcases run_origin digests call runFound current with
    ⟨old, oldFound, was⟩ | ⟨_, _, _, _, _, _, fresh, _⟩
  · exact off old oldFound was
  · rw [(Table.find?_eq_some_iff.mp found).2, found] at fresh
    cases fresh

theorem revision_next (digests : Digests) (call : RepositoryCall)
    {row : Revision} (found : store.revisions.find? id = some row) :
    ∃ next, (repositoryStep .sqlite digests store call).revisions.find? id =
      some next ∧ row.Alike next ∧ RevisionMove .sqlite store
        (repositoryStep .sqlite digests store call) row next call := by
  have moves := (repositoryStep_tables .sqlite digests store call).revisions id
  rw [found] at moves
  generalize (repositoryStep .sqlite digests store call).revisions.find? id =
    after at moves
  cases moves with
  | present alike move => exact ⟨_, rfl, alike, move⟩

theorem Ended.step (digests : Digests) (call : RepositoryCall)
    (ended : Ended store id) :
    Ended (repositoryStep .sqlite digests store call) id := by
  obtain ⟨_, found, why⟩ := ended
  obtain ⟨next, nextFound, alike, move⟩ := revision_next digests call found
  refine ⟨next, nextFound, ?_⟩
  rcases why with off | finished
  · exact .inl (off.step digests call found alike)
  · refine .inr ?_
    cases move with
    | kept status => rwa [status]
    | superseded _ live =>
        rcases finished with cancelled | completed
        · rw [cancelled] at live
          cases live
        · rw [completed] at live
          cases live
    | authorized draft =>
        rw [draft] at finished
        rcases finished with cancelled | completed
        · cases cancelled
        · cases completed
    | cancelled _ status => exact .inl status
    | completed _ _ status => exact .inr status

theorem Shut.step (digests : Digests) (call : RepositoryCall)
    (shut : Shut store id) :
    Shut (repositoryStep .sqlite digests store call) id ∨
      Drained (repositoryStep .sqlite digests store call) id := by
  obtain ⟨_, found, why⟩ := shut
  obtain ⟨next, nextFound, alike, move⟩ := revision_next digests call found
  rcases why with off | cancelled
  · exact .inl ⟨next, nextFound, .inl (off.step digests call found alike)⟩
  · cases move with
    | kept status => exact .inl ⟨next, nextFound, .inr (status.trans cancelled)⟩
    | superseded _ live =>
        rw [cancelled] at live
        cases live
    | authorized draft =>
        rw [cancelled] at draft
        cases draft
    | cancelled _ status => exact .inl ⟨next, nextFound, .inr status⟩
    | completed closes named =>
        refine .inr fun step member ofRevision => ?_
        refine closes.finished step member (ofRevision.trans ?_)
        rw [← named, (Table.find?_eq_some_iff.mp found).2]

theorem Drained.step (digests : Digests) (call : RepositoryCall)
    (drained : Drained store id) (ended : Ended store id)
    (untouched : ∀ key tenantId row, call.overwrites = some (key, tenantId) →
      key.1 = id → store.steps.find? key = some row →
      row.is key tenantId = false) :
    Drained (repositoryStep .sqlite digests store call) id := by
  intro next member ofRevision
  have moves := repositoryStep_rows .sqlite digests store call next.key
  rw [Table.find?_eq_some_iff.mpr ⟨member, rfl⟩] at moves
  generalize before : store.steps.find? next.key = old at moves
  generalize same : some next = after at moves
  cases moves with
  | absent => cases same
  | present _ move =>
      cases same
      obtain ⟨oldMember, oldKey⟩ := Table.find?_eq_some_iff.mp before
      have completed := drained _ oldMember
        ((congrArg Prod.fst oldKey).trans ofRevision)
      refine move.keepsCompleted completed ?_
      intro key tenantId overwrites
      by_contra selected
      rw [Bool.not_eq_false] at selected
      have named := Step.key_of_is selected
      rw [untouched key tenantId _ overwrites
        (by rw [← named, oldKey]; exact ofRevision)
        (by rw [← named, oldKey]; exact before)] at selected
      cases selected
  | planned _ _ _ fresh =>
      cases same
      obtain ⟨_, found, _⟩ := ended
      rw [← ofRevision] at found
      cases found.symm.trans fresh

theorem dependenciesCompleted_failExhausted (store : WorkflowStore)
    (target : Target) (maxAttempts : Int) (revision : String)
    (dependencies : List String) :
    dependenciesCompleted (failExhausted store target maxAttempts) revision
      dependencies = dependenciesCompleted store revision dependencies := by
  simp only [dependenciesCompleted, failExhausted, updateSteps,
    Table.updateWhere, List.filter_map, List.length_map, List.all_map]
  have sameRows : ((fun row : Step => row.workflowRevisionId == revision &&
      dependencies.contains row.stepId) ∘ fun row =>
        if target.queued row && decide (maxAttempts ≤
          (row.attempt : Int) - (row.uncountedAttempts : Int)) then
          { row with
            executionStatus := .failed
            terminalReason := some "maximum attempts exceeded" }
        else row) = fun row => row.workflowRevisionId == revision &&
          dependencies.contains row.stepId := by
    funext row
    dsimp only [Function.comp]
    split <;> rfl
  rw [sameRows]
  congr 3
  funext row
  dsimp only [Function.comp]
  split
  · rename_i selected
    rw [queued_status (Bool.and_eq_true_iff.mp selected).1]
    rfl
  · rfl

theorem claimReadyStep_claimable {target : Target} {workerId token : String}
    {now leaseTtlSeconds : Int} {claim : Claim} {later : WorkflowStore}
    (granted : claimReadyStep digests store target workerId token now
      leaseTtlSeconds 5 = (.ok (some claim), later)) :
    ∃ row ∈ store.steps, row.key = claim.step ∧
      claimable store target now row = true := by
  have body := transaction_ok_iff.mp granted
  dsimp only at body
  split at body
  · cases body
  · rename_i selected chosen
    simp only [bind_eq_ok, pure_eq_ok, Prod.mk.injEq, Option.some.injEq] at body
    obtain ⟨leased, inserted, rfl, rfl⟩ := body
    have ready := List.find?_some chosen
    have member := List.mem_filter.mp (List.mem_of_find?_eq_some chosen)
    obtain ⟨queued, due⟩ := Bool.and_eq_true_iff.mp member.2
    have trimmed := Table.find?_eq_some_iff.mpr (⟨member.1, rfl⟩ :
      selected ∈ (failExhausted store target 5).steps ∧
        selected.key = selected.key)
    have found := failExhausted_queued trimmed (queued_status queued)
    rw [dependenciesCompleted_failExhausted] at ready
    refine ⟨selected, (Table.find?_eq_some_iff.mp found).1, rfl, ?_⟩
    have budget : (selected.attempt : Int) - selected.uncountedAttempts < 5 := by
      by_contra spent
      rw [failExhausted, updateSteps, Table.find?_updateWhere, found,
        Option.map_some, if_pos (by
          rw [queued, decide_eq_true (not_lt.mp spent)]
          rfl)] at trimmed
      have failed := congrArg Step.executionStatus (Option.some.inj trimmed)
      rw [queued_status queued] at failed
      cases failed
    simp only [claimable, queued, budget, due, ready, decide_true,
      Bool.and_self]

end Step

section Workers

variable {config : ExecutorConfig} {start system : WorkflowSystem}
  {action : WorkflowAction} {id : String}

theorem isStepAuthorized_authorizable {store : WorkflowStore}
    {target : Target} {graphHash : String} {effect : StepEffect} {now : Int}
    (authorized : isStepAuthorized store target.workflowRunId
      target.workflowRevisionId target.tenantId graphHash effect now = true) :
    authorizable store target.workflowRevisionId = true := by
  simp only [isStepAuthorized] at authorized
  split at authorized
  · rename_i approval revision run _ revisionFound runFound
    rw [Option.filter_eq_some_iff] at revisionFound runFound
    simp only [Bool.and_eq_true, beq_iff_eq] at authorized revisionFound
    simp only [authorizable, revisionFound.1, Option.any_some,
      Bool.and_eq_true, authorized.1.1.2, true_and]
    rw [revisionFound.2.1, runFound.1]
    exact beq_iff_eq.mpr authorized.1.1.1
  · cases authorized

theorem waits_update {workers : Nat → Phase} {moved worker : Nat}
    {phase : Phase}
    (waits : (Function.update workers moved phase worker).waits id = true) :
    (worker = moved ∧ phase.waits id = true) ∨
      (workers worker).waits id = true := by
  by_cases same : worker = moved
  · subst same
    rw [Function.update_self] at waits
    exact .inl ⟨rfl, waits⟩
  · rw [Function.update_of_ne same] at waits
    exact .inr waits

theorem waits_busy {workers : Nat → Phase} {moved worker : Nat}
    {phase : Phase} (busy : phase.waits id = false)
    (waits : (Function.update workers moved phase worker).waits id = true) :
    (workers worker).waits id = true := by
  rcases waits_update waits with ⟨_, now⟩ | before
  · rw [busy] at now
    cases now
  · exact before

theorem outcomePhase_busy (seconds : Int) (target : Target) (claim : Claim)
    (outcome : DispatchOutcome) :
    (outcomePhase seconds target claim outcome).waits id = false := by
  cases outcome <;> rfl

theorem inputPhase_busy (target : Target) (claim : Claim) (step : Step)
    (resolved : Except ResolveError Value) :
    (inputPhase target claim step resolved).waits id = false := by
  unfold inputPhase
  split
  · rfl
  · split <;> rfl

theorem advance_waits (config : ExecutorConfig) (system : WorkflowSystem)
    (moved : Nat) (answer : Answer) (now : Int) {worker : Nat}
    (waits : ((advance config system moved answer now).workers worker).waits
      id = true) :
    (system.workers worker).waits id = true ∨
      authorizable system.store id = true := by
  have free : ∀ phase : Phase, phase.waits id = false →
      (Function.update system.workers moved phase worker).waits id = true →
      (system.workers worker).waits id = true ∨
        authorizable system.store id = true :=
    fun _ busy waits => .inl (waits_busy busy waits)
  unfold advance at waits
  split at waits
  · rename_i target graphHash phase
    rcases waits_update waits with ⟨rfl, claims⟩ | before
    · refine .inl ?_
      rw [phase]
      simpa [Phase.waits] using claims
    · exact .inl before
  · rename_i target graphHash effect effects phase
    split at waits
    · rename_i authorized
      rcases waits_update waits with ⟨rfl, last⟩ | before
      · refine .inr ?_
        simp only [Phase.waits, Bool.and_eq_true, beq_iff_eq] at last
        rw [← last.1]
        exact isStepAuthorized_authorizable authorized
      · exact .inl before
    · exact free _ rfl waits
  · split at waits <;> exact free _ rfl waits
  · split at waits <;> exact free _ rfl waits
  · split at waits <;> exact free _ rfl waits
  · split at waits
    · exact free _ rfl waits
    · exact free _ (inputPhase_busy ..) waits
  · split at waits <;> exact free _ rfl waits
  · exact free _ (outcomePhase_busy ..) waits
  · refine free _ ?_ waits
    split <;> rfl
  · exact free _ rfl waits
  · refine free _ ?_ waits
    split <;> rfl
  · exact free _ rfl waits
  · exact .inl waits

theorem revisionEffects_empty {store : WorkflowStore} {target : Target}
    {revision : Revision} {steps : List Step}
    (found : getRevision store target = some (revision, steps))
    (empty : (revisionEffects steps).isEmpty = true) :
    Drained store target.workflowRevisionId := by
  intro step member ofRevision
  simp only [getRevision, Option.map_eq_some_iff, Prod.mk.injEq] at found
  obtain ⟨_, _, _, rfl⟩ := found
  have planned : step ∈ store.steps.rows.filter fun step =>
      step.workflowRevisionId == target.workflowRevisionId :=
    List.mem_filter.mpr ⟨member, beq_iff_eq.mpr ofRevision⟩
  rw [List.isEmpty_iff, revisionEffects, List.filter_eq_nil_iff] at empty
  refine absurd ?_ (empty step.effect (by cases step.effect <;> simp))
  exact List.any_eq_true.mpr ⟨step, planned, beq_self_eq_true _⟩

theorem waits_step (config : ExecutorConfig) (system : WorkflowSystem)
    (action : WorkflowAction) {worker : Nat}
    (waits : ((workflowStep config system action).workers worker).waits id =
      true) :
    (system.workers worker).waits id = true ∨
      authorizable system.store id = true ∨
      (Drained system.store id ∧ action.call config system = none) := by
  cases action with
  | runNext moved target =>
      simp only [workflowStep] at waits
      split at waits
      · rename_i revision steps _ found
        rcases waits_update waits with ⟨rfl, empty⟩ | before
        · simp only [Phase.waits, Bool.and_eq_true, beq_iff_eq] at empty
          refine .inr (.inr ⟨?_, rfl⟩)
          rw [← empty.1]
          exact revisionEffects_empty found empty.2
        · exact .inl before
      · exact .inl waits
  | advance moved answer now =>
      rcases advance_waits config system moved answer now waits with
        before | authorized
      · exact .inl before
      · exact .inr (.inl authorized)
  | crash => exact .inl (waits_busy rfl waits)
  | cancelRevision =>
      simp only [workflowStep] at waits
      split at waits
      · exact .inl (waits_busy rfl waits)
      · exact .inl waits
  | _ => exact .inl waits

theorem claims_step (config : ExecutorConfig) (system : WorkflowSystem)
    (action : WorkflowAction) :
    (workflowStep config system action).claims = system.claims ∨
    ∃ worker token now target claim row,
      action = .advance worker (.lease token) now ∧
      system.workers worker = .claiming target ∧
      (workflowStep config system action).claims = claim :: system.claims ∧
      row ∈ system.store.steps ∧ row.key = claim.step ∧
      claimable system.store target now row = true := by
  cases action with
  | advance worker answer now =>
      simp only [workflowStep, advance]
      split
      · exact .inl rfl
      · split <;> exact .inl rfl
      · rename_i target token phase
        split
        · exact .inl rfl
        · exact .inl rfl
        · rename_i claim store granted
          obtain ⟨row, member, key, ready⟩ := claimReadyStep_claimable granted
          exact .inr ⟨worker, token, now, target, claim, row, rfl, phase, rfl,
            member, key, ready⟩
      · split <;> exact .inl rfl
      · split <;> exact .inl rfl
      · split <;> exact .inl rfl
      · split <;> exact .inl rfl
      · exact .inl rfl
      · exact .inl rfl
      · exact .inl rfl
      · exact .inl rfl
      · exact .inl rfl
      · exact .inl rfl
  | runNext | cancelRevision =>
      simp only [workflowStep]
      split <;> exact .inl rfl
  | _ => exact .inl rfl

/-- The revision is shut and nobody has been authorized since, or all of its
steps are completed. -/
def Stopped (start system : WorkflowSystem) (id : String) : Prop :=
  (Shut system.store id ∧ ¬ WaitsAnew start system id) ∨
    (Ended system.store id ∧ Drained system.store id)

theorem Ended.after (config : ExecutorConfig) (action : WorkflowAction)
    (ended : Ended system.store id) :
    Ended (workflowStep config system action).store id := by
  rw [workflowStep_call]
  cases action.call config system with
  | none => exact ended
  | some call => exact ended.step config.digests call

theorem Stopped.of_shut (config : ExecutorConfig) (action : WorkflowAction)
    (shut : Shut system.store id) (unjoined : ¬ WaitsAnew start system id) :
    Stopped start (workflowStep config system action) id := by
  by_cases anew : WaitsAnew start (workflowStep config system action) id
  · obtain ⟨worker, idle, waits⟩ := anew
    rcases waits_step config system action waits with
      before | authorized | ⟨drained, quiet⟩
    · exact absurd ⟨worker, idle, before⟩ unjoined
    · rw [shut.not_authorizable] at authorized
      cases authorized
    · refine .inr ⟨shut.ended.after config action, ?_⟩
      rw [workflowStep_call, quiet]
      exact drained
  · rw [Stopped, workflowStep_call]
    cases called : action.call config system with
    | none => exact .inl ⟨shut, anew⟩
    | some call =>
        rcases shut.step config.digests call with still | drained
        · exact .inl ⟨still, anew⟩
        · exact .inr ⟨shut.ended.step config.digests call, drained⟩

theorem Stopped.step (stopped : Stopped start system id)
    (untouched : ¬ Reopens config start system id action) :
    Stopped start (workflowStep config system action) id := by
  rcases stopped with ⟨shut, unjoined⟩ | ⟨ended, drained⟩
  · exact .of_shut config action shut unjoined
  · by_cases reached : ∃ call key tenantId row,
        action.call config system = some call ∧
        call.overwrites = some (key, tenantId) ∧ key.1 = id ∧
        system.store.steps.find? key = some row ∧
        row.is key tenantId = true ∧ row.executionStatus = .completed
    · have refused : ¬ (authorizable system.store id = true ∨
          WaitsAnew start system id) := fun open' => untouched ⟨reached, open'⟩
      rw [not_or, Bool.not_eq_true] at refused
      exact .of_shut config action (ended.shut refused.1) refused.2
    · refine .inr ⟨ended.after config action, ?_⟩
      rw [workflowStep_call]
      cases called : action.call config system with
      | none => exact drained
      | some call =>
          refine drained.step config.digests call ended ?_
          intro key tenantId row overwrites ofRevision found
          by_contra selected
          rw [Bool.not_eq_false] at selected
          obtain ⟨member, same⟩ := Table.find?_eq_some_iff.mp found
          refine reached ⟨call, key, tenantId, row, called, overwrites,
            ofRevision, found, selected, drained row member ?_⟩
          exact (congrArg Prod.fst same).trans ofRevision

theorem not_reopens (quiet : (action.call config system).all
    (fun call => call.overwrites.isNone) = true) :
    ¬ Reopens config start system id action := by
  rintro ⟨⟨_, _, _, _, called, overwrites, _⟩, _⟩
  rw [called, Option.all_some, overwrites] at quiet
  cases quiet

theorem Stopped.claims (stopped : Stopped start system id)
    (fresh : staleClaim start system id action = false) :
    claimsOf (workflowStep config system action) id = claimsOf system id := by
  rcases claims_step config system action with same |
    ⟨worker, token, now, target, claim, row, rfl, phase, claims, member, key,
      ready⟩
  · rw [claimsOf, same, claimsOf]
  · rw [claimsOf, claims, claimsOf, List.filter_cons, if_neg]
    intro ofId
    have queued : target.queued row = true := by
      simp only [claimable, Bool.and_eq_true] at ready
      exact ready.1.1.1
    have rowOf : row.workflowRevisionId = id :=
      (congrArg Prod.fst key).trans (beq_iff_eq.mp ofId)
    have named : target.workflowRevisionId = id := by
      have both := queued
      simp only [Target.queued, Bool.and_eq_true, beq_iff_eq] at both
      exact both.1.1.2.symm.trans rowOf
    rcases stopped with ⟨_, unjoined⟩ | ⟨_, drained⟩
    · have waited : (start.workers worker).waits id = true := by
        by_contra idle
        refine unjoined ⟨worker, Bool.not_eq_true _ ▸ idle, ?_⟩
        rw [phase]
        exact beq_iff_eq.mpr named
      have stale : staleClaim start system id
          (.advance worker (.lease token) now) = true := by
        simp only [staleClaim, phase, waited, Bool.and_true,
          Bool.and_eq_true, beq_iff_eq]
        exact ⟨named, List.any_eq_true.mpr ⟨row, member, ready⟩⟩
      rw [fresh] at stale
      cases stale
    · have completed := drained row member rowOf
      rw [queued_status queued] at completed
      cases completed

end Workers

/-- In every reachable state in which a revision has been superseded or
cancelled, and in every run from there in which no worker authorized before
claims one of its steps and none of its steps is overwritten after they were all
completed, no step of the revision is claimed any more. -/
theorem retired_revision_stops (config : ExecutorConfig)
    (earlier later : List WorkflowAction) (id : String)
    (retired : Retired (workflowRun config earlier).store id)
    (along : Along (workflowStep config)
      (fun system action =>
        staleClaim (workflowRun config earlier) system id action = false ∧
        ¬ Reopens config (workflowRun config earlier) system id action)
      (workflowRun config earlier) later) :
    claimsOf (workflowRun config (earlier ++ later)) id =
      claimsOf (workflowRun config earlier) id := by
  have numbered : Numbered (workflowRun config earlier).store := by
    obtain ⟨calls, same⟩ := workflowRun_calls config earlier
    rw [same]
    exact run_invariant (repositoryStep .sqlite config.digests) Numbered
      (fun store call => repositoryStep_numbered config.digests call)
      numbered_empty calls
  have stopped : Stopped (workflowRun config earlier)
      (workflowRun config earlier) id :=
    .inl ⟨retired.shut numbered, fun ⟨worker, idle, waits⟩ => by
      rw [idle] at waits
      cases waits⟩
  have both := Along.invariant
    (fun system => Stopped (workflowRun config earlier) system id ∧
      claimsOf system id = claimsOf (workflowRun config earlier) id)
    (fun system action holds fresh =>
      ⟨holds.1.step fresh.2, (holds.1.claims fresh.1).trans holds.2⟩)
    ⟨stopped, rfl⟩ along
  rw [workflowRun, run_append]
  exact both.2

/-- One worker is in its dispatcher call and another is about to claim when the
revision is superseded. -/
def revisedRun : List WorkflowAction :=
  [.createRun "run" "tenant" "user" "goal" 0,
    .createRevision sampleTarget "graph" samplePlan 0 1000,
    .authorizeRequestedRead sampleTarget "graph" "user" 0 900] ++
  dispatchingBy 0 "first" 1 ++
  [.runNext 1 sampleTarget, .advance 1 .proceed 2, .advance 1 .proceed 2,
    .createRevision revisedTarget "graph" samplePlan 3 1000]

theorem revisedRun_retired :
    Retired (workflowRun sampleConfig revisedRun).store "revision" := by
  have newer : ∃ row ∈ (workflowRun sampleConfig revisedRun).store.revisions.rows,
      row.workflowRevisionId = "revision" ∧
      ∃ newer ∈ (workflowRun sampleConfig revisedRun).store.revisions.rows,
        newer.workflowRunId = row.workflowRunId ∧
        row.revisionNumber < newer.revisionNumber := by
    decide +kernel
  obtain ⟨row, member, same, newer⟩ := newer
  exact ⟨row, Table.find?_eq_some_iff.mpr ⟨member, same⟩, .inr newer⟩

/-- The running step is completed, and the other worker finds none. -/
theorem retired_revision_stops_completed :
    claimsOf (workflowRun sampleConfig (revisedRun ++
      [.advance 0 (.dispatched (.returned readResult)) 4,
        .advance 0 .proceed 4, .advance 1 (.lease "second") 50]))
      "revision" =
    claimsOf (workflowRun sampleConfig revisedRun) "revision" := by
  refine retired_revision_stops sampleConfig revisedRun _ "revision"
    revisedRun_retired ?_
  refine ⟨⟨by decide +kernel, not_reopens (by decide +kernel)⟩,
    ⟨by decide +kernel, not_reopens (by decide +kernel)⟩,
    ⟨by decide +kernel, not_reopens (by decide +kernel)⟩, trivial⟩

/-- The running step is released for a retry, and the other worker claims it. -/
theorem superseded_step_is_claimed :
    ¬ ∀ (config : ExecutorConfig) (earlier later : List WorkflowAction)
        (id : String), Retired (workflowRun config earlier).store id →
      claimsOf (workflowRun config (earlier ++ later)) id =
        claimsOf (workflowRun config earlier) id := by
  intro stops
  have same := stops sampleConfig revisedRun
    [.advance 0 (.dispatched (.retryableStepError "timeout" (some 1))) 4,
      .advance 0 .proceed 4, .advance 1 (.lease "second") 50] "revision"
    revisedRun_retired
  revert same
  decide +kernel

end AcpTask.Workflow
