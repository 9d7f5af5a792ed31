import Mathlib.Data.List.Dedup
import AcpTask.Verification.Service

namespace AcpTask.Verification

open Library

/-! Evidence counts once exactly in the runs that neither repeat it, reject an
execution, nor come from a revoked submitter. -/

namespace Service

def start (revoked : List String) : Service where
  results := fun _ => none
  reputation := fun _ _ => {}
  portfolio := []
  revoked := revoked
  made := 0
  issued := []

def tasks (service : Service) (principalId capabilityId : String) : Nat :=
  (service.reputation principalId capabilityId).tasksVerified +
    (service.reputation principalId capabilityId).tasksRejected

/-- How many evidence ids had a result issued to the principal for the
capability. -/
def evidenceIds (service : Service) (principalId capabilityId : String) :
    Nat :=
  ((service.issued.filter fun issue => issue.principalId == principalId &&
    issue.capabilityId == capabilityId).map Issue.evidenceId).dedup.length

def CountedOnce (service : Service) : Prop :=
  ∀ principalId capabilityId,
    service.tasks principalId capabilityId =
      service.evidenceIds principalId capabilityId

structure Consistent (service : Service) : Prop where
  stored : ∀ issue ∈ service.issued, service.results issue.evidenceId ≠ none
  drawn : ∀ evidenceId result, service.results evidenceId = some result →
    result.resultId < service.made

theorem Consistent.start (revoked : List String) :
    (start revoked).Consistent where
  stored := fun _ member => by cases member
  drawn := fun _ _ impossible => by cases impossible

theorem CountedOnce.start (revoked : List String) :
    (start revoked).CountedOnce := fun _ _ => rfl

end Service

def Intake.issue (intake : Intake) : Issue :=
  ⟨intake.principalId, intake.capabilityId, intake.evidenceId⟩

section Issues

variable {verifier : Verifier} {service : Service} {intake : Intake} {now : Int}

def credits (verifier : Verifier) (service : Service) (intake : Intake) :
    Bool :=
  (!intake.execution || intake.verdict == .verified) &&
    service.records verifier intake.principalId intake.capabilityId
      intake.verdict

structure Writes (verifier : Verifier) (service : Service) (intake : Intake)
    (later : Service) : Prop where
  issued : later.issued = intake.issue :: service.issued
  results : ∃ result : VerificationResult, result.resultId = service.made ∧
    later.results =
      Function.update service.results intake.evidenceId (some result)
  made : later.made = service.made + 1
  reputation : later.reputation =
    if credits verifier service intake then
      (service.recordVerdict intake.principalId intake.capabilityId
        intake.verdict).reputation
    else service.reputation

theorem Writes.addPortfolioEntry {later : Service}
    (writes : Writes verifier service intake later) (entry : PortfolioEntry) :
    Writes verifier service intake (later.addPortfolioEntry entry) := by
  unfold Service.addPortfolioEntry
  split
  · exact writes
  · exact ⟨writes.issued, writes.results, writes.made, writes.reputation⟩

theorem issue_writes (verifier : Verifier) (service : Service)
    (intake : Intake) (now : Int) :
    Writes verifier service intake (issue verifier service intake now).2 := by
  unfold issue
  dsimp only
  split
  next unrecorded =>
    refine ⟨rfl, ⟨_, rfl, rfl⟩, rfl, (if_neg ?_).symm⟩
    simp only [Bool.and_eq_true, bne_iff_ne] at unrecorded
    simp [credits, unrecorded]
  next recorded =>
    have counts : (!intake.execution || intake.verdict == .verified) =
        true := by
      cases execution : intake.execution <;>
        cases verdict : intake.verdict <;> simp_all
    split
    next taken =>
      have credited : credits verifier service intake = true := by
        rw [credits, counts, Bool.true_and]
        exact taken
      split
      · split
        · apply Writes.addPortfolioEntry
          exact ⟨rfl, ⟨_, rfl, rfl⟩, rfl, (if_pos credited).symm⟩
        · exact ⟨rfl, ⟨_, rfl, rfl⟩, rfl, (if_pos credited).symm⟩
      · exact ⟨rfl, ⟨_, rfl, rfl⟩, rfl, (if_pos credited).symm⟩
    next refused =>
      refine ⟨rfl, ⟨_, rfl, rfl⟩, rfl, (if_neg fun credited => ?_).symm⟩
      rw [credits, counts, Bool.true_and] at credited
      exact refused credited

theorem tasks_recordVerdict (verdict : Verdict)
    (principalId capabilityId other otherCapability : String) :
    (service.recordVerdict principalId capabilityId verdict).tasks other
        otherCapability =
      service.tasks other otherCapability +
        if other = principalId ∧ otherCapability = capabilityId then 1
        else 0 := by
  unfold Service.recordVerdict Service.tasks
  dsimp only
  by_cases same : other = principalId
  · subst same
    rw [Function.update_self]
    by_cases capability : otherCapability = capabilityId
    · subst capability
      rw [Function.update_self, if_pos ⟨rfl, rfl⟩]
      cases verdict <;> simp only [Service.counted] <;> omega
    · rw [Function.update_of_ne capability,
        if_neg fun both => capability both.2, Nat.add_zero]
  · rw [Function.update_of_ne same, if_neg fun both => same both.1,
      Nat.add_zero]

theorem Writes.tasks {later : Service}
    (writes : Writes verifier service intake later)
    (principalId capabilityId : String) :
    later.tasks principalId capabilityId =
      service.tasks principalId capabilityId +
        if credits verifier service intake = true ∧
          principalId = intake.principalId ∧
            capabilityId = intake.capabilityId then 1
        else 0 := by
  have credited := @tasks_recordVerdict service intake.verdict
    intake.principalId intake.capabilityId principalId capabilityId
  unfold Service.tasks at credited ⊢
  rw [writes.reputation]
  split
  next yes =>
    rw [credited]
    simp only [yes, true_and]
  next no => rw [if_neg fun both => no both.1, Nat.add_zero]

theorem Writes.evidenceIds {later : Service}
    (writes : Writes verifier service intake later)
    (principalId capabilityId : String) :
    later.evidenceIds principalId capabilityId =
      service.evidenceIds principalId capabilityId +
        if intake.issue ∉ service.issued ∧
          principalId = intake.principalId ∧
            capabilityId = intake.capabilityId then 1
        else 0 := by
  unfold Service.evidenceIds
  rw [writes.issued, List.filter_cons]
  by_cases mine : principalId = intake.principalId ∧
      capabilityId = intake.capabilityId
  · obtain ⟨rfl, rfl⟩ := mine
    rw [if_pos (by simp [Intake.issue]), List.map_cons]
    have known : intake.issue.evidenceId ∈ (service.issued.filter fun issue =>
        issue.principalId == intake.principalId &&
          issue.capabilityId == intake.capabilityId).map Issue.evidenceId ↔
        intake.issue ∈ service.issued := by
      rw [List.mem_map]
      constructor
      · rintro ⟨issue, member, same⟩
        simp only [List.mem_filter, Bool.and_eq_true, beq_iff_eq] at member
        obtain ⟨inside, principal, capability⟩ := member
        have equal : issue = intake.issue := by
          rcases issue with ⟨_, _, _⟩
          cases principal
          cases capability
          cases same
          rfl
        exact equal ▸ inside
      · intro inside
        exact ⟨_, List.mem_filter.mpr ⟨inside, by simp [Intake.issue]⟩, rfl⟩
    by_cases seen : intake.issue ∈ service.issued
    · rw [List.dedup_cons_of_mem (known.mpr seen),
        if_neg fun both => both.1 seen, Nat.add_zero]
    · rw [List.dedup_cons_of_notMem fun member => seen (known.mp member),
        if_pos ⟨seen, rfl, rfl⟩, List.length_cons]
  · rw [if_neg ?_, if_neg fun both => mine both.2, Nat.add_zero]
    intro here
    rw [Bool.and_eq_true, beq_iff_eq, beq_iff_eq] at here
    exact mine ⟨here.1.symm, here.2.symm⟩

theorem Writes.countedOnce_iff {later : Service}
    (writes : Writes verifier service intake later)
    (counted : service.CountedOnce) :
    later.CountedOnce ↔
      (credits verifier service intake = true ↔
        intake.issue ∉ service.issued) := by
  constructor
  · intro still
    have here := still intake.principalId intake.capabilityId
    rw [writes.tasks, writes.evidenceIds, counted] at here
    by_cases credited : credits verifier service intake = true <;>
      by_cases fresh : intake.issue ∈ service.issued <;> simp_all
  · intro same principalId capabilityId
    rw [writes.tasks, writes.evidenceIds, counted]
    simp only [same]

end Issues

section Screens

variable {verifier : Verifier} {service : Service} {intake : Intake}

theorem execution_of_screenEvidence {payload : Items} {now : Int}
    (screened : screenEvidence verifier service payload now = .ok intake) :
    intake.execution = false := by
  unfold screenEvidence at screened
  simp only [bind_eq_ok] at screened
  obtain ⟨_, _, _, _, _, _, _, _, _, _, _, _, _, _, _, _, screened⟩ := screened
  split at screened
  next expiresAt _ =>
    simp only [bind_eq_ok] at screened
    obtain ⟨_, _, _, _, _, _, _, _, _, _, _, _, _, _, screened⟩ := screened
    cases screened
    rfl
  next => cases screened

theorem fresh_of_screenExecution {evidence : Items}
    {check : Option ReceiptCheck}
    (screened : screenExecution verifier service evidence check =
      .ok intake) : service.results intake.evidenceId = none := by
  obtain ⟨_, _, screened⟩ := bind_eq_ok.mp screened
  split at screened
  next attestation _ =>
    simp only [bind_eq_ok] at screened
    obtain ⟨_, _, _, _, _, _, _, _, _, _, _, _, _, free, _, _, _, _, _, _,
      screened⟩ := screened
    rw [require_eq_ok, Option.isNone_iff_eq_none] at free
    split at screened
    next answer _ =>
      split at screened
      · cases screened
        exact free
      · cases screened
        exact free
      · cases screened
      · cases screened
    next => cases screened
  next => cases screened

theorem fresh_of_screen {submission : Submission}
    (screened : screen verifier service submission = .ok intake)
    (execution : intake.execution = true) :
    service.results intake.evidenceId = none := by
  unfold screen at screened
  split at screened
  · split at screened
    · split at screened
      · exact fresh_of_screenExecution screened
      · rw [execution_of_screenEvidence screened] at execution
        cases execution
    · rw [execution_of_screenEvidence screened] at execution
      cases execution
  · cases screened

end Screens

section Steps

variable (verifier : Verifier) (service : Service)

def KeepsResults (action : ServiceAction) : Prop :=
  ∀ submission status error, action = .submit submission →
    (processEvidence verifier service submission).1 = .refused status error →
      (processEvidence verifier service submission).2.results = service.results

def Unrevoked (action : ServiceAction) : Prop :=
  ∀ submission evidenceId, action = .submit submission →
    screen verifier service submission ≠ .error (.revokedKey evidenceId)

/-- Execution evidence that gets a verdict is verified, and what is accepted is
new to its principal and capability, and recorded. -/
def CountsNew (action : ServiceAction) : Prop :=
  ∀ submission intake, action = .submit submission →
    screen verifier service submission = .ok intake →
      (intake.execution = true → intake.verdict = .verified) ∧
        (service.records verifier intake.principalId intake.capabilityId
          intake.verdict = true ↔ intake.issue ∉ service.issued)

/-- The next action counts evidence once, and keeps the results where it is
refused. -/
def Proper (action : ServiceAction) : Prop :=
  CountsNew verifier service action ∧ Unrevoked verifier service action

variable {verifier service}

theorem processEvidence_cases (submission : Submission) :
    (∃ intake, screen verifier service submission = .ok intake ∧
      processEvidence verifier service submission =
        issue verifier service intake submission.now) ∨
    (∃ evidenceId,
      screen verifier service submission = .error (.revokedKey evidenceId) ∧
      processEvidence verifier service submission =
        (.refused 403 "revoked key", (service.putResult verifier evidenceId
          .rejected (.str revokedReasoning) submission.now).2)) ∨
    (∃ halt, screen verifier service submission = .error halt ∧
      (∀ evidenceId, halt ≠ .revokedKey evidenceId) ∧
      (processEvidence verifier service submission).2 = service) := by
  unfold processEvidence
  cases screen verifier service submission with
  | ok intake => exact .inl ⟨intake, rfl, rfl⟩
  | error halt =>
      cases halt with
      | revokedKey evidenceId => exact .inr (.inl ⟨evidenceId, rfl, rfl⟩)
      | refused | unverified | raised =>
          exact .inr (.inr ⟨_, rfl, (fun _ same => by cases same), rfl⟩)

theorem issue_ne_refused (intake : Intake) (now : Int) (status : Nat)
    (error : String) :
    (issue verifier service intake now).1 ≠ .refused status error := by
  unfold issue
  dsimp only
  split
  · exact fun same => by cases same
  split
  · split
    · split <;> exact fun same => by cases same
    · exact fun same => by cases same
  · exact fun same => by cases same

section Consistent

variable (consistent : service.Consistent)

include consistent

theorem keepsResults_iff (action : ServiceAction) :
    KeepsResults verifier service action ↔
      Unrevoked verifier service action := by
  constructor
  · rintro keeps submission evidenceId rfl screened
    have processed : processEvidence verifier service submission =
        (.refused 403 "revoked key", (service.putResult verifier evidenceId
          .rejected (.str revokedReasoning) submission.now).2) := by
      rw [processEvidence, screened]
    have same := congrFun (keeps submission 403 "revoked key" rfl
      (by rw [processed])) evidenceId
    rw [processed] at same
    change Function.update service.results evidenceId _ evidenceId = _ at same
    rw [Function.update_self] at same
    exact absurd (consistent.drawn evidenceId _ same.symm) (lt_irrefl _)
  · rintro unrevoked submission status error rfl refused
    rcases @processEvidence_cases verifier service submission with
      ⟨intake, _, issued⟩ | ⟨evidenceId, screened, _⟩ | ⟨_, _, _, same⟩
    · rw [issued] at refused
      exact absurd refused (issue_ne_refused intake submission.now status error)
    · exact absurd screened (unrevoked submission evidenceId rfl)
    · rw [same]

theorem Service.Consistent.put {later : Service} {evidenceId : String}
    {result : VerificationResult} (drawn : result.resultId = service.made)
    (results : later.results =
      Function.update service.results evidenceId (some result))
    (made : later.made = service.made + 1)
    (issued : ∀ issue ∈ later.issued,
      issue ∈ service.issued ∨ issue.evidenceId = evidenceId) :
    later.Consistent := by
  refine ⟨fun issue member => ?_, fun other found there => ?_⟩
  · rw [results]
    by_cases same : issue.evidenceId = evidenceId
    · rw [same, Function.update_self]
      exact Option.some_ne_none result
    · rw [Function.update_of_ne same]
      exact consistent.stored issue ((issued issue member).resolve_right same)
  · rw [results] at there
    rw [made]
    by_cases same : other = evidenceId
    · rw [same, Function.update_self] at there
      cases there
      omega
    · rw [Function.update_of_ne same] at there
      have before := consistent.drawn other found there
      omega

theorem Service.Consistent.step (action : ServiceAction) :
    (serviceStep verifier service action).Consistent := by
  cases action with
  | revoke => exact ⟨consistent.stored, consistent.drawn⟩
  | submit submission =>
      show (processEvidence verifier service submission).2.Consistent
      rcases @processEvidence_cases verifier service submission with
        ⟨intake, _, issued⟩ | ⟨evidenceId, _, put⟩ | ⟨_, _, _, same⟩
      · rw [issued]
        have writes := issue_writes verifier service intake submission.now
        obtain ⟨_, drawn, results⟩ := writes.results
        refine consistent.put drawn results writes.made fun other member => ?_
        rw [writes.issued] at member
        rcases List.mem_cons.mp member with rfl | before
        · exact .inr rfl
        · exact .inl before
      · rw [put]
        exact consistent.put rfl rfl rfl fun _ member => .inl member
      · rw [same]
        exact consistent

theorem countsNew_iff {submission : Submission} {intake : Intake}
    (screened : screen verifier service submission = .ok intake) :
    CountsNew verifier service (.submit submission) ↔
      (credits verifier service intake = true ↔
        intake.issue ∉ service.issued) := by
  have only : CountsNew verifier service (.submit submission) ↔
      (intake.execution = true → intake.verdict = .verified) ∧
        (service.records verifier intake.principalId intake.capabilityId
          intake.verdict = true ↔ intake.issue ∉ service.issued) := by
    constructor
    · exact fun counts => counts submission intake rfl screened
    · rintro both _ other ⟨⟩ found
      rw [screened] at found
      cases found
      exact both
  rw [only, credits, Bool.and_eq_true]
  cases execution : intake.execution with
  | false => simp
  | true =>
      have fresh : intake.issue ∉ service.issued := fun member =>
        consistent.stored _ member (fresh_of_screen screened execution)
      simp [fresh]

theorem countedOnce_step_iff (counted : service.CountedOnce)
    (action : ServiceAction) :
    (serviceStep verifier service action).CountedOnce ↔
      CountsNew verifier service action := by
  cases action with
  | revoke =>
      refine iff_of_true counted fun _ _ impossible => ?_
      cases impossible
  | submit submission =>
      show (processEvidence verifier service submission).2.CountedOnce ↔ _
      rcases @processEvidence_cases verifier service submission with
        ⟨intake, screened, issued⟩ | ⟨evidenceId, screened, put⟩ |
          ⟨_, screened, _, same⟩
      · rw [issued, countsNew_iff consistent screened]
        exact (issue_writes verifier service intake
          submission.now).countedOnce_iff counted
      · rw [put]
        refine iff_of_true counted fun _ intake same found => ?_
        cases same
        rw [screened] at found
        cases found
      · rw [same]
        refine iff_of_true counted fun _ intake same found => ?_
        cases same
        rw [screened] at found
        cases found

end Consistent

end Steps

section Runs

def serviceRun (verifier : Verifier) (revoked : List String)
    (actions : List ServiceAction) : Service :=
  run (serviceStep verifier) (Service.start revoked) actions

/-- Throughout a run evidence counts once and no refused submission touches the
results, exactly when each of its actions is proper. -/
theorem evidence_counts_once_iff (verifier : Verifier) (revoked : List String)
    (actions : List ServiceAction) :
    ((∀ earlier later, actions = earlier ++ later →
        (serviceRun verifier revoked earlier).CountedOnce) ∧
      ∀ earlier action later, actions = earlier ++ action :: later →
        KeepsResults verifier (serviceRun verifier revoked earlier) action) ↔
      Along (serviceStep verifier) (Proper verifier)
        (Service.start revoked) actions := by
  have counts : (∀ earlier later, actions = earlier ++ later →
      (serviceRun verifier revoked earlier).CountedOnce) ↔
        Along (serviceStep verifier) (CountsNew verifier)
          (Service.start revoked) actions :=
    Along.forall_prefix_iff Service.Consistent Service.CountedOnce
      (fun _ action consistent => consistent.step action)
      (fun _ action consistent counted =>
        countedOnce_step_iff consistent counted action)
      (Service.Consistent.start revoked) (Service.CountedOnce.start revoked)
      actions
  have keeps : Along (serviceStep verifier) (KeepsResults verifier)
      (Service.start revoked) actions ↔
        Along (serviceStep verifier) (Unrevoked verifier)
          (Service.start revoked) actions :=
    Along.iff_of_invariant Service.Consistent
      (fun _ action consistent => keepsResults_iff consistent action)
      (fun _ action consistent _ => consistent.step action)
      (Service.Consistent.start revoked) actions
  rw [counts, show Proper verifier = fun service action =>
    CountsNew verifier service action ∧ Unrevoked verifier service action
    from rfl, Along.and_iff, ← keeps]
  exact and_congr_right fun _ => (Along.iff_forall _ _).symm

def trusting : Verifier where
  library := {
    str := fun _ => ""
    int := fun _ => none
    nfkd := id
    combining := fun _ => false
    lower := id
    isSpace := (· = ' ')
    instant := fun _ _ => none }
  schemaError := fun _ _ => none
  fromIsoFormat := fun _ => some 1
  decode := fun _ value =>
    if value = .str "key" then some (List.replicate 32 0)
    else some (List.replicate 64 0)
  encode := fun _ _ => some []
  signs := fun _ _ _ => true
  brokerKeys := fun _ => .none
  verifiesReceipts := fun _ => false
  storesText := fun _ => true
  verifierPrincipalId := "agenttrust:verifier:verification-service"

def review : Submission where
  payload := .dict [
    ("evidence", .dict [("evidence_id", .str "evidence:1"),
      ("session_id", .str "session:1"), ("capability_id", .str "code.review"),
      ("schema_valid", .bool true), ("tests_passed", .bool true),
      ("artifact_hashes", .dict [])]),
    ("session", .dict [("session_id", .str "session:1"),
      ("principal_id", .str "agent:alice"),
      ("expires_at", .str "2030-01-01T00:00:00+00:00"),
      ("principal_signature", .str "signature")]),
    ("principal", .dict [("principal_id", .str "agent:alice"),
      ("public_key", .str "key")])]
  now := 0
  check := none

/-- Alice has two verified tasks for one piece of evidence. -/
theorem review_counted_twice :
    ¬ ((∀ earlier later, [.submit review, .submit review] = earlier ++ later →
        (serviceRun trusting [] earlier).CountedOnce) ∧
      ∀ earlier action later,
        [.submit review, .submit review] = earlier ++ action :: later →
          KeepsResults trusting (serviceRun trusting [] earlier) action) := by
  rintro ⟨counted, _⟩
  have once := counted [.submit review, .submit review] [] rfl "agent:alice"
    "code.review"
  exact absurd once (by decide +kernel)

end Runs

end AcpTask.Verification
