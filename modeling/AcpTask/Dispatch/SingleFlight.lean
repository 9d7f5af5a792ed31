import AcpTask.Dispatch.Ledger

namespace AcpTask.Dispatch

open Data Library

variable {table result : DispatchTable}

theorem insertRow_ok {row : DispatchRow}
    (inserted : insertRow table row = .ok result) :
    table.insert? row = some result := by
  unfold insertRow at inserted
  split at inserted
  · cases inserted
  · split at inserted
    · rename_i found
      cases inserted
      exact found
    · cases inserted

theorem claimRow_ok {intent : Intent} {now : Int}
    (claimed : claimRow table intent now = .ok result) :
    (∃ row, result.find? intent.key = some row ∧
      ((table.find? intent.key = none ∧ row.status = .intentRecorded) ∨
        (table.find? intent.key = some row ∧ row.status = .retryable))) ∧
    ∀ key, key ≠ intent.key → result.find? key = table.find? key := by
  unfold claimRow at claimed
  split at claimed
  · rename_i absent
    have inserted := insertRow_ok claimed
    constructor
    · have present := Table.find?_of_insert?_self inserted
      exact ⟨_, present, .inl ⟨absent, rfl⟩⟩
    · intro key other
      rw [Table.find?_of_insert? inserted, if_neg (Ne.symm other)]
  · rename_i row found
    split at claimed
    · cases claimed
    · split at claimed
      · cases claimed
      · cases claimed
      · cases claimed
      · cases claimed
      · cases claimed
      · rename_i retryable
        cases claimed
        exact ⟨⟨row, found, .inr ⟨found, retryable⟩⟩, fun _ _ => rfl⟩

theorem claim_ok {intent : Intent} {now : Int}
    (claimed : claim table intent now = .ok result) :
    (∃ row, result.find? intent.key = some row ∧
      ((table.find? intent.key = none ∧ row.status = .intentRecorded) ∨
        (∃ old, table.find? intent.key = some old ∧
          old.status = .retryable ∧ row.status = .retryable))) ∧
    ∀ key, key ≠ intent.key → result.find? key = table.find? key := by
  obtain ⟨_, recordedClaim, updated⟩ := bind_eq_ok.mp claimed
  cases updated
  obtain ⟨⟨row, found, status⟩, others⟩ := claimRow_ok recordedClaim
  constructor
  · refine ⟨{ row with attemptCount := row.attemptCount + 1,
                       updatedAt := now }, ?_, ?_⟩
    · rw [Table.find?_updateWhere_key, if_pos rfl, found]
      rfl
    · rcases status with ⟨absent, recordedStatus⟩ | ⟨present, retryable⟩
      · exact .inl ⟨absent, recordedStatus⟩
      · exact .inr ⟨row, present, retryable, retryable⟩
  · intro key other
    rw [Table.find?_updateWhere_key, if_neg other, others key other]

theorem find?_recordOutcome (table : DispatchTable) (intent : Intent)
    (outcome : ProviderOutcome) (now : Int) (key : String × String) :
    (recordOutcome table intent outcome now).find? key =
      if key = intent.key then (table.find? key).map (outcomeRow outcome now)
      else table.find? key :=
  Table.find?_updateWhere_key ..

theorem find?_reconcile {tenantId dispatchKey : String}
    {providerId status : Value} {now : Int} {key : String × String}
    {row : DispatchRow} (found : table.find? key = some row) :
    ∃ later, (reconcile table tenantId dispatchKey providerId status
        now).2.find? key = some later ∧
      (later.status = row.status ∨
        (row.status = .ambiguous ∧ later.status = .accepted)) := by
  unfold reconcile
  cases present : table.find? (tenantId, dispatchKey) with
  | none => exact ⟨row, found, .inl rfl⟩
  | some target =>
      dsimp only
      split
      · exact ⟨row, found, .inl rfl⟩
      · rename_i ambiguous
        rw [not_not] at ambiguous
        dsimp only
        by_cases same : key = (tenantId, dispatchKey)
        · subst same
          obtain rfl := Option.some.inj (present.symm.trans found)
          refine ⟨{ target with status := .accepted, providerId := providerId,
                                providerStatus := status, updatedAt := now },
            ?_, .inr ⟨ambiguous, rfl⟩⟩
          rw [Table.find?_updateWhere_key, if_pos rfl, found]
          rfl
        · refine ⟨row, ?_, .inl rfl⟩
          rw [Table.find?_updateWhere_key, if_neg same, found]

namespace DispatchPhase

def openKey : DispatchPhase → Option (String × String)
  | .idle => none
  | .claimed intent => some intent.key
  | .calling intent => some intent.key
  | .returned intent _ => some intent.key

def callingKey : DispatchPhase → Option (String × String)
  | .calling intent => some intent.key
  | _ => none

theorem openKey_of_callingKey {phase : DispatchPhase} {key : String × String}
    (calling : phase.callingKey = some key) : phase.openKey = some key := by
  cases phase with
  | idle | claimed => cases calling
  | calling => exact calling
  | returned => cases calling

end DispatchPhase

def settles (status : DispatchStatus) : Prop :=
  status = .accepted ∨ status = .ambiguous

/-- No call starts once an earlier one of its key was accepted or ended
ambiguously. -/
def NoLateStart (events : List ProviderEvent) : Prop :=
  events.Pairwise fun newer older =>
    ∀ key status, newer = .started key → older = .ended key status →
      ¬ settles status

structure SingleFlight (system : DispatchSystem) : Prop where
  exclusive : ∀ {key worker other},
    (system.workers worker).openKey = some key →
    (system.workers other).openKey = some key → worker = other
  unsettled : ∀ {key worker}, (system.workers worker).openKey = some key →
    ∃ row, system.ledger.find? key = some row ∧ ¬ settles row.status
  settled : ∀ {key status}, .ended key status ∈ system.events →
    settles status →
    (∃ worker intent outcome,
      system.workers worker = .returned intent outcome ∧ intent.key = key ∧
        outcomeStatus outcome = status) ∨
    ∃ row, system.ledger.find? key = some row ∧ settles row.status
  noLateStart : NoLateStart system.events

/-- A claim of a retryable row is made while no other dispatch of its key is
between its claim and its last statement. -/
def ClaimsAlone (system : DispatchSystem) : DispatchAction → Prop
  | .claim _ intent _ =>
      ∀ row, system.ledger.find? intent.key = some row →
        row.status = .retryable →
        ∀ other, (system.workers other).openKey ≠ some intent.key
  | _ => True

namespace SingleFlight

variable {system : DispatchSystem}

theorem initial : SingleFlight DispatchSystem.initial where
  exclusive opened := by cases opened
  unsettled opened := by cases opened
  settled member := by cases member
  noLateStart := List.Pairwise.nil

variable {worker : Nat}

theorem advance (single : SingleFlight system) {phase : DispatchPhase}
    {events : List ProviderEvent}
    (sameKey : phase.openKey = (system.workers worker).openKey)
    (kept : ∀ intent outcome, system.workers worker ≠ .returned intent outcome)
    (logged : NoLateStart events)
    (ended : ∀ {key status}, .ended key status ∈ events → settles status →
      .ended key status ∈ system.events ∨
        ∃ intent outcome, phase = .returned intent outcome ∧
          intent.key = key ∧ outcomeStatus outcome = status) :
    SingleFlight { system with
      workers := Function.update system.workers worker phase, events } := by
  have sameOpen : ∀ other,
      (Function.update system.workers worker phase other).openKey =
        (system.workers other).openKey := by
    intro other
    by_cases same : other = worker
    · subst same
      rw [Function.update_self, sameKey]
    · rw [Function.update_of_ne same]
  constructor
  · intro key first second firstOpen secondOpen
    simp only [sameOpen] at firstOpen secondOpen
    exact single.exclusive firstOpen secondOpen
  · intro key other opened
    simp only [sameOpen] at opened
    exact single.unsettled opened
  · intro key status member settling
    rcases ended member settling with before | ⟨intent, outcome, rfl, facts⟩
    · rcases single.settled before settling with
        ⟨other, intent, outcome, pending, facts⟩ | written
      · have different : other ≠ worker := by
          rintro rfl
          exact kept intent outcome pending
        exact .inl ⟨other, intent, outcome,
          (Function.update_of_ne different ..).trans pending, facts⟩
      · exact .inr written
    · exact .inl ⟨worker, intent, outcome, Function.update_self .., facts⟩
  · exact logged

variable {intent : Intent}

section Single

variable (single : SingleFlight system)

include single

theorem startCall (ready : system.workers worker = .claimed intent) :
    SingleFlight { system with
      workers := Function.update system.workers worker (.calling intent)
      events := .started intent.key :: system.events } := by
  have opened : (system.workers worker).openKey = some intent.key := by
    rw [ready]
    rfl
  refine single.advance opened.symm ?_ ?_ ?_
  · intro other outcome pending
    rw [ready] at pending
    cases pending
  · refine List.pairwise_cons.mpr ⟨?_, single.noLateStart⟩
    rintro event member key status starting rfl settling
    cases starting
    rcases single.settled member settling with
      ⟨other, _, _, pending, sameKey, _⟩ |
        ⟨row, found, rowSettles⟩
    · have otherOpen : (system.workers other).openKey = some intent.key := by
        rw [pending, ← sameKey]
        rfl
      obtain rfl := single.exclusive opened otherOpen
      rw [ready] at pending
      cases pending
    · obtain ⟨_, present, unsettled⟩ := single.unsettled opened
      obtain rfl := Option.some.inj (found.symm.trans present)
      exact unsettled rowSettles
  · intro key status member settling
    exact .inl ((List.mem_cons.mp member).resolve_left (by simp))

theorem endCall (ready : system.workers worker = .calling intent)
    (outcome : ProviderOutcome) :
    SingleFlight { system with
      workers := Function.update system.workers worker
        (.returned intent outcome)
      events := .ended intent.key (outcomeStatus outcome) ::
        system.events } := by
  have opened : (system.workers worker).openKey = some intent.key := by
    rw [ready]
    rfl
  refine single.advance opened.symm ?_ ?_ ?_
  · intro other ending pending
    rw [ready] at pending
    cases pending
  · refine List.pairwise_cons.mpr ⟨?_, single.noLateStart⟩
    intro event member key status starting
    cases starting
  · intro key status member settling
    rcases List.mem_cons.mp member with same | before
    · cases same
      exact .inr ⟨intent, outcome, rfl, rfl, rfl⟩
    · exact .inl before

theorem claim {now : Int} {ledger : DispatchTable}
    (idle : system.workers worker = .idle)
    (alone : ClaimsAlone system (.claim worker intent now))
    (claimed : Dispatch.claim system.ledger intent now = .ok ledger) :
    SingleFlight { system with
      ledger
      workers := Function.update system.workers worker (.claimed intent) } := by
  obtain ⟨⟨row, found, entered⟩, others⟩ := claim_ok claimed
  have untouched : ∀ other,
      (system.workers other).openKey ≠ some intent.key := by
    rcases entered with ⟨absent, _⟩ | ⟨old, present, retryable, _⟩
    · intro other opened
      obtain ⟨old, present, _⟩ := single.unsettled opened
      rw [absent] at present
      cases present
    · exact alone old present retryable
  have rowUnsettled : ¬ settles row.status := by
    rcases entered with ⟨_, recorded⟩ | ⟨_, _, _, retryable⟩
    · rw [recorded]
      rintro (equal | equal) <;> cases equal
    · rw [retryable]
      rintro (equal | equal) <;> cases equal
  constructor
  · intro key first second firstOpen secondOpen
    by_cases firstSame : first = worker <;>
      by_cases secondSame : second = worker
    · rw [firstSame, secondSame]
    · subst firstSame
      simp only [Function.update_self, Function.update_of_ne secondSame]
        at firstOpen secondOpen
      cases firstOpen
      exact absurd secondOpen (untouched second)
    · subst secondSame
      simp only [Function.update_self, Function.update_of_ne firstSame]
        at firstOpen secondOpen
      cases secondOpen
      exact absurd firstOpen (untouched first)
    · simp only [Function.update_of_ne firstSame,
        Function.update_of_ne secondSame] at firstOpen secondOpen
      exact single.exclusive firstOpen secondOpen
  · intro key other opened
    by_cases same : other = worker
    · subst same
      simp only [Function.update_self] at opened
      cases opened
      exact ⟨row, found, rowUnsettled⟩
    · simp only [Function.update_of_ne same] at opened
      have different : key ≠ intent.key := by
        rintro rfl
        exact untouched other opened
      obtain ⟨current, present, unsettled⟩ := single.unsettled opened
      exact ⟨current, (others key different).trans present, unsettled⟩
  · intro key status member settling
    rcases single.settled member settling with
      ⟨other, pendingIntent, outcome, pending, sameKey, facts⟩ |
        ⟨current, present, written⟩
    · have different : other ≠ worker := by
        rintro rfl
        rw [idle] at pending
        cases pending
      exact .inl ⟨other, pendingIntent, outcome,
        (Function.update_of_ne different ..).trans pending, sameKey, facts⟩
    · have different : key ≠ intent.key := by
        rintro rfl
        rcases entered with ⟨absent, _⟩ | ⟨_, oldPresent, retryable, _⟩
        · rw [absent] at present
          cases present
        · obtain rfl := Option.some.inj (oldPresent.symm.trans present)
          rw [retryable] at written
          rcases written with equal | equal <;> cases equal
      exact .inr ⟨current, (others key different).trans present, written⟩
  · exact single.noLateStart

theorem record {outcome : ProviderOutcome}
    (ready : system.workers worker = .returned intent outcome) (now : Int) :
    SingleFlight { system with
      ledger := recordOutcome system.ledger intent outcome now
      workers := Function.update system.workers worker .idle } := by
  have opened : (system.workers worker).openKey = some intent.key := by
    rw [ready]
    rfl
  obtain ⟨row, found, unsettled⟩ := single.unsettled opened
  constructor
  · intro key first second firstOpen secondOpen
    have firstOther : first ≠ worker := by
      rintro rfl
      simp [DispatchPhase.openKey] at firstOpen
    have secondOther : second ≠ worker := by
      rintro rfl
      simp [DispatchPhase.openKey] at secondOpen
    simp only [Function.update_of_ne firstOther,
      Function.update_of_ne secondOther] at firstOpen secondOpen
    exact single.exclusive firstOpen secondOpen
  · intro key other otherOpen
    have different : other ≠ worker := by
      rintro rfl
      simp [DispatchPhase.openKey] at otherOpen
    simp only [Function.update_of_ne different] at otherOpen
    have otherKey : key ≠ intent.key := by
      rintro rfl
      exact different (single.exclusive otherOpen opened)
    obtain ⟨current, present, currentUnsettled⟩ := single.unsettled otherOpen
    exact ⟨current, by rw [find?_recordOutcome, if_neg otherKey, present],
      currentUnsettled⟩
  · intro key status member settling
    rcases single.settled member settling with
      ⟨other, pendingIntent, ending, pending, sameKey, facts⟩ |
        ⟨current, present, written⟩
    · by_cases same : other = worker
      · subst same
        rw [ready] at pending
        cases pending
        subst sameKey
        refine .inr ⟨outcomeRow outcome now row, ?_, ?_⟩
        · rw [find?_recordOutcome, if_pos rfl, found]
          rfl
        · rw [outcomeRow_status, facts]
          exact settling
      · exact .inl ⟨other, pendingIntent, ending,
          (Function.update_of_ne same ..).trans pending, sameKey, facts⟩
    · have otherKey : key ≠ intent.key := by
        rintro rfl
        obtain rfl := Option.some.inj (found.symm.trans present)
        exact unsettled written
      exact .inr ⟨current,
        by rw [find?_recordOutcome, if_neg otherKey, present], written⟩
  · exact single.noLateStart

theorem reconcile (tenantId dispatchKey : String) (providerId status : Value)
    (now : Int) :
    SingleFlight { system with
      ledger := (Dispatch.reconcile system.ledger tenantId dispatchKey
        providerId status now).2 } := by
  constructor
  · exact single.exclusive
  · intro key worker opened
    obtain ⟨row, found, unsettled⟩ := single.unsettled opened
    obtain ⟨later, present, sameStatus | ⟨ambiguous, _⟩⟩ :=
      find?_reconcile found
    · exact ⟨later, present, by rwa [sameStatus]⟩
    · exact absurd (.inr ambiguous) unsettled
  · intro key ending member settling
    rcases single.settled member settling with pending | ⟨_, found, _⟩
    · exact .inl pending
    · obtain ⟨later, present, sameStatus | ⟨_, accepted⟩⟩ :=
        find?_reconcile found
      · exact .inr ⟨later, present, by rwa [sameStatus]⟩
      · exact .inr ⟨later, present, .inl accepted⟩
  · exact single.noLateStart

theorem step {action : DispatchAction} (alone : ClaimsAlone system action) :
    SingleFlight (dispatchStep system action) := by
  cases action with
  | claim worker intent now =>
      simp only [dispatchStep]
      split
      · split
        · rename_i idle _ ledger claimed
          exact single.claim idle alone claimed
        · exact single
      · exact single
  | startCall worker =>
      simp only [dispatchStep]
      split
      · rename_i ready
        exact single.startCall ready
      · exact single
  | endCall worker outcome =>
      simp only [dispatchStep]
      split
      · rename_i ready
        exact single.endCall ready outcome
      · exact single
  | record worker now =>
      simp only [dispatchStep]
      split
      · rename_i ready
        exact single.record ready now
      · exact single
  | reconcile tenantId dispatchKey providerId status now =>
      exact single.reconcile tenantId dispatchKey providerId status now

end Single

end SingleFlight

def dispatchRun (actions : List DispatchAction) : DispatchSystem :=
  run dispatchStep DispatchSystem.initial actions

/-- When every claim of a retryable row is made alone, at most one provider call
of a key is in flight at any time, and none starts after an earlier one was
accepted or ended ambiguously. -/
theorem provider_calls_single_flight (actions : List DispatchAction)
    (alone : Along dispatchStep ClaimsAlone DispatchSystem.initial actions) :
    (∀ key worker other,
      ((dispatchRun actions).workers worker).callingKey = some key →
      ((dispatchRun actions).workers other).callingKey = some key →
        worker = other) ∧
    NoLateStart (dispatchRun actions).events := by
  have single : SingleFlight (dispatchRun actions) :=
    alone.invariant SingleFlight (fun _ _ single => single.step)
      SingleFlight.initial
  refine ⟨?_, single.noLateStart⟩
  intro key worker other calling otherCalling
  exact single.exclusive (DispatchPhase.openKey_of_callingKey calling)
    (DispatchPhase.openKey_of_callingKey otherCalling)

def sampleIntent : Intent where
  tenantId := "tenant"
  dispatchKey := "key"
  effectId := "effect"
  payloadHash := "hash"
  callbackToken := "token"

def rateLimited : ProviderOutcome :=
  .raised (.other "SlackRateLimitError" (some "rate_limit"))

def refusedAttempt : List DispatchAction :=
  [.claim 0 sampleIntent 10, .startCall 0, .endCall 0 rateLimited, .record 0 11]

/-- After a rate limit two workers claim the retryable row one after the other,
and both calls are in flight at once. -/
theorem retryable_row_claimed_twice :
    let system := dispatchRun (refusedAttempt ++
      [.claim 1 sampleIntent 20, .claim 2 sampleIntent 20, .startCall 1,
        .startCall 2])
    ¬ ∀ key worker other,
      (system.workers worker).callingKey = some key →
      (system.workers other).callingKey = some key → worker = other := by
  intro system exclusive
  have same : (1 : Nat) = 2 :=
    exclusive sampleIntent.key 1 2 (by decide) (by decide)
  cases same

/-- A rate-limited attempt followed by a lone retry that is accepted. -/
theorem provider_calls_single_flight_retry :
    let actions := refusedAttempt ++
      [.claim 1 sampleIntent 20, .startCall 1,
        .endCall 1 (.returned (.dict [("provider_id", .str "p")])),
        .record 1 21]
    (dispatchRun actions).events =
      [.ended sampleIntent.key .accepted, .started sampleIntent.key,
        .ended sampleIntent.key .retryable, .started sampleIntent.key] ∧
    NoLateStart (dispatchRun actions).events := by
  refine ⟨by decide, (provider_calls_single_flight _ ?_).2⟩
  refine ⟨?_, trivial, trivial, trivial, ?_, trivial, trivial, trivial, trivial⟩
  · intro row found
    cases found
  · intro row _ _ other
    cases other with
    | zero => decide
    | succ =>
        intro opened
        cases opened

end AcpTask.Dispatch
