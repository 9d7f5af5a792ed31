import AcpTask.Action.Agreement

namespace AcpTask.Action

open Library

namespace Deployment

variable {deployment : Deployment} {store : ActionStore}

theorem postgresStatements_agree_iff (call : ActionCall) :
    deployment.postgresStatements (mirror deployment.tenant store) call =
      mirrored deployment.tenant
        ((deployment.sqliteCall store call).1.map deployment.asPostgres,
          (deployment.sqliteCall store call).2) ↔
    ¬ deployment.StatementsPart store call := by
  cases call with
  | createProposal request named =>
      simp only [postgresStatements, postgresTenant_eq]
      exact createProposal_agree_iff request named
  | get proposalId version named =>
      simp only [postgresStatements, sqliteCall, postgresTenant_eq,
        row_mirrored_iff, and_true]
      exact get_agree_iff proposalId version named
  | getByIdempotencyKey idempotencyKey named =>
      simp only [postgresStatements, sqliteCall, postgresTenant_eq,
        row_mirrored_iff, and_true]
      exact getByIdempotencyKey_agree_iff idempotencyKey named
  | decide proposalId version userPrincipalId approved now named =>
      simp only [postgresStatements, sqliteCall, postgresTenant_eq,
        flag_mirrored_iff]
      exact decide_agree_iff proposalId version userPrincipalId approved now
        named
  | consumeApproval binding now named =>
      simp only [postgresStatements, sqliteCall, postgresTenant_eq,
        row_mirrored_iff]
      exact consumeApproval_agree_iff binding now named
  | issueLease request now named =>
      simp only [postgresStatements, postgresTenant_eq]
      exact issueLease_agree_iff request now named
  | validateLease leaseHash binding now named =>
      simp only [postgresStatements, sqliteCall, postgresTenant_eq,
        flag_mirrored_iff]
      simp only [mirrored, Prod.mk.injEq, and_true]
      exact validateLease_agree_iff leaseHash binding now named
  | consumeLease leaseHash binding now named =>
      simp only [postgresStatements, sqliteCall, postgresTenant_eq,
        flag_mirrored_iff]
      exact consumeLease_agree_iff leaseHash binding now named
  | completeExecution proposalId version receiptJson now
      brokerResponseJson =>
      simp only [postgresStatements, sqliteCall, postgresTenant_eq,
        flag_mirrored_iff]
      exact completeExecution_agree_iff proposalId version receiptJson now
        brokerResponseJson
  | markDispatched =>
      simp only [postgresStatements, sqliteCall, postgresTenant_eq,
        flag_mirrored_iff, markDispatched_mirror, StatementsPart,
        not_false_eq_true]
  | recoverPreDispatchClaim =>
      simp only [postgresStatements, sqliteCall, postgresTenant_eq,
        flag_mirrored_iff, recoverPreDispatchClaim_mirror, StatementsPart,
        not_false_eq_true]
  | failExecution =>
      simp only [postgresStatements, sqliteCall, postgresTenant_eq,
        flag_mirrored_iff, failExecution_mirror, StatementsPart,
        not_false_eq_true]
  | resolveUnknownAsAbsent =>
      simp only [postgresStatements, sqliteCall, postgresTenant_eq,
        flag_mirrored_iff, resolveUnknownAsAbsent_mirror, StatementsPart,
        not_false_eq_true]
  | sweepStalledExecutions =>
      simp only [postgresStatements, sqliteCall, postgresTenant_eq,
        StatementsPart, not_not]
      rw [← sweep_mirror_iff deployment.groupOrder_perm, answered_mirrored_iff]
      simp [asPostgres, mirrored, Prod.ext_iff]

theorem ofRow?_ne {form other : RowForm} (apart : form ≠ other)
    (row : Option Proposal) (handed : Proposal) :
    ActionAnswer.ofRow? form row ≠ .proposal other handed := by
  cases row with
  | none => exact fun same => by cases same
  | some => exact fun same => apart (ActionAnswer.proposal.inj same).1

theorem sqliteCall_answer (call : ActionCall) :
    (deployment.sqliteCall store call).1 ≠ .error .dataError ∧
      ∀ row, (deployment.sqliteCall store call).1 ≠
        .ok (.proposal .isoTexts row) := by
  cases call with
  | createProposal request named =>
      simp only [sqliteCall]
      cases (createProposal store { request with
        tenantId := deployment.tenantId named }).1 <;>
        simp [Except.mapError, Except.map]
  | issueLease request now named =>
      simp only [sqliteCall]
      cases (issueLease store { request with
        tenantId := deployment.tenantId named } now).1 <;>
        simp [Except.mapError, Except.map]
  | get | getByIdempotencyKey | consumeApproval =>
      refine ⟨fun same => (by cases same), fun row same => ?_⟩
      exact ofRow?_ne (by decide) _ row (Except.ok.inj same)
  | _ => exact ⟨fun same => (by cases same), fun row same => (by cases same)⟩

theorem postgresCall_answer (pgStore : Postgres.Store) (call : ActionCall)
    (row : Proposal) :
    (deployment.postgresCall pgStore call).1 ≠
      .ok (.proposal .seconds row) := by
  unfold postgresCall
  split
  · exact fun same => by cases same
  · cases call with
    | createProposal request named =>
        simp only [postgresStatements]
        cases (Postgres.createProposal deployment.server pgStore
          (deployment.postgresTenant named) request).1 <;> simp [Except.map]
    | issueLease request now named =>
        simp only [postgresStatements]
        cases (Postgres.issueLease deployment.server pgStore
          (deployment.postgresTenant named) request now).1 <;>
          simp [Except.map]
    | get | getByIdempotencyKey | consumeApproval =>
        exact fun same => ofRow?_ne (by decide) _ row (Except.ok.inj same)
    | _ => exact fun same => by cases same

theorem agreeUpToForm_iff (call : ActionCall) :
    deployment.AgreeUpToForm (store, mirror deployment.tenant store) call ↔
      ¬ deployment.Part store call := by
  rw [AgreeUpToForm, postgresCall, Part, not_or, ← postgresStatements_agree_iff]
  by_cases refused : sends call = true ∧ deployment.takes call = false
  · have raised : (sends call && !deployment.takes call) = true := by
      simp [refused.1, refused.2]
    rw [if_pos raised]
    refine iff_of_false (fun same => ?_) (fun agree => agree.1 refused)
    have answer := congrArg Prod.fst same
    simp only [mirrored] at answer
    cases sqlite : (deployment.sqliteCall store call).1 with
    | ok =>
        rw [sqlite] at answer
        cases answer
    | error =>
        rw [sqlite] at answer
        cases answer
        exact sqliteCall_answer call |>.1 sqlite
  · have accepted : ¬ (sends call && !deployment.takes call) = true := by
      simpa using refused
    rw [if_neg accepted, and_iff_right refused]

theorem map_asPostgres {result : CallResult}
    (noSeconds : ∀ row, result ≠ .ok (.proposal .seconds row))
    (noTexts : ∀ row, result ≠ .ok (.proposal .isoTexts row)) :
    result.map deployment.asPostgres = result := by
  cases result with
  | error => rfl
  | ok answer =>
      cases answer with
      | proposal form row =>
          cases form with
          | seconds => exact absurd rfl (noSeconds row)
          | isoTexts => exact absurd rfl (noTexts row)
      | _ => rfl

theorem exists_ofRow?_iff {row : Option Proposal} :
    (∃ handed, (Except.ok (.ofRow? .seconds row) : CallResult) =
      .ok (.proposal .seconds handed)) ↔ row.isSome = true := by
  cases row with
  | none | some => simp [ActionAnswer.ofRow?]

theorem handsOut_iff {call : ActionCall}
    (agree : ¬ deployment.StatementsPart store call) :
    (∃ row, (deployment.sqliteCall store call).1 =
      .ok (.proposal .seconds row)) ↔ HandsOut store call := by
  cases call with
  | createProposal request named =>
      let asked := { request with tenantId := deployment.tenantId named }
      simp only [sqliteCall, HandsOut]
      by_cases refused : Refused store request
      · rw [show createProposal store _ = _ from
          @createProposal_blocked store asked refused.1 refused.2]
        simp [refused, Except.mapError, Except.map]
      · cases taken : store.keyTaken request.attemptKey with
        | true =>
            rw [show createProposal store _ = _ from
              @createProposal_taken store asked refused taken]
            simp [Except.mapError, Except.map]
        | false =>
            obtain ⟨_, created, -⟩ :=
              @createProposal_created store asked refused taken
            rw [show createProposal store _ = _ from created]
            simp [refused, Except.mapError, Except.map]
  | get proposalId version named =>
      have same := (get_agree_iff proposalId version named).mpr agree
      rw [Postgres.get, latestVersion_mirror, find?_mirror] at same
      have present := congrArg Option.isSome same
      rw [Option.isSome_map, Option.isSome_map] at present
      refine exists_ofRow?_iff.trans ?_
      rw [← present, HandsOut, Option.isSome_iff_ne_none]
  | getByIdempotencyKey idempotencyKey named =>
      have same := (getByIdempotencyKey_agree_iff idempotencyKey named).mpr
        agree
      rw [getByIdempotencyKey_mirror] at same
      have present := congrArg Option.isSome same
      rw [Option.isSome_map, Option.isSome_map] at present
      refine exists_ofRow?_iff.trans ?_
      rw [← present, HandsOut, ActionStore.keyTaken, List.find?_isSome,
        List.any_eq_true]
  | consumeApproval binding now named =>
      have same := ((consumeApproval_agree_iff binding now named).mpr agree).1
      have present := congrArg Option.isSome same
      rw [Option.isSome_map] at present
      refine exists_ofRow?_iff.trans ?_
      rw [← present, HandsOut, Postgres.consumeApproval]
      cases binding.complete with
      | false => simp
      | true =>
          simp only [Bool.not_true, Bool.false_eq_true, if_false,
            find?_mirror, Option.isSome_map, true_and]
          cases store.proposals.find? (binding.proposalId, binding.version) with
          | none => simp
          | some row =>
              have sameColumns : Postgres.consumable binding now
                  (row.under deployment.tenant) =
                    Postgres.consumable binding now row := rfl
              simp [Option.filter_some, sameColumns]
  | issueLease request now named =>
      simp only [sqliteCall, HandsOut, iff_false, not_exists]
      cases (issueLease store { request with
        tenantId := deployment.tenantId named } now).1 <;>
        simp [Except.mapError, Except.map]
  | _ =>
      simp only [HandsOut, iff_false, not_exists]
      exact fun row same => (by cases same)

theorem agree_iff (call : ActionCall) :
    deployment.Agree (store, mirror deployment.tenant store) call ↔
      ¬ deployment.Part store call ∧ ¬ HandsOut store call := by
  have noTexts : ∀ row, (deployment.sqliteCall store call).1 ≠
      .ok (.proposal .isoTexts row) := (sqliteCall_answer call).2
  constructor
  · rintro ⟨answer, stored⟩
    have noSeconds : ∀ row, (deployment.sqliteCall store call).1 ≠
        .ok (.proposal .seconds row) := by
      intro row handed
      exact postgresCall_answer _ call row (answer.trans handed)
    have agree : ¬ deployment.Part store call :=
      (agreeUpToForm_iff call).mp
        (Prod.ext (answer.trans (map_asPostgres noSeconds noTexts).symm) stored)
    refine ⟨agree, fun handsOut => ?_⟩
    obtain ⟨row, handed⟩ :=
      (handsOut_iff fun part => agree (.inr part)).mpr handsOut
    exact noSeconds row handed
  · rintro ⟨agree, keeps⟩
    have same := (agreeUpToForm_iff call).mpr agree
    have noSeconds : ∀ row, (deployment.sqliteCall store call).1 ≠
        .ok (.proposal .seconds row) := fun row handed =>
      keeps ((handsOut_iff fun part => agree (.inr part)).mp ⟨row, handed⟩)
    exact ⟨(congrArg Prod.fst same).trans (map_asPostgres noSeconds noTexts),
      congrArg Prod.snd same⟩

end Deployment

/-- In every single-tenant sequence of calls, from corresponding databases, the
two agree up to the form of the rows as long as no call parts them, and agree
outright as long as none hands out a row either. -/
theorem back_ends_agree_iff (deployment : Deployment) (store : ActionStore)
    (calls : List ActionCall) :
    (Along deployment.bothStep deployment.AgreeUpToForm
        (store, mirror deployment.tenant store) calls ↔
      Along deployment.bothStep
        (fun stores call => ¬ deployment.Part stores.1 call)
        (store, mirror deployment.tenant store) calls) ∧
    (Along deployment.bothStep deployment.Agree
        (store, mirror deployment.tenant store) calls ↔
      Along deployment.bothStep
        (fun stores call => ¬ deployment.Part stores.1 call ∧
          ¬ Deployment.HandsOut stores.1 call)
        (store, mirror deployment.tenant store) calls) := by
  have paired : ∀ stores : ActionStore × Postgres.Store,
      stores.2 = mirror deployment.tenant stores.1 →
      stores = (stores.1, mirror deployment.tenant stores.1) :=
    fun _ same => Prod.ext rfl same
  have corresponds : ∀ stores call,
      stores.2 = mirror deployment.tenant stores.1 →
      ¬ deployment.Part stores.1 call →
      (deployment.bothStep stores call).2 =
        mirror deployment.tenant (deployment.bothStep stores call).1 := by
    intro stores call same apart
    rw [paired stores same]
    exact congrArg Prod.snd ((Deployment.agreeUpToForm_iff call).mpr apart)
  constructor
  · refine Along.iff_of_invariant
      (fun stores => stores.2 = mirror deployment.tenant stores.1) ?_
      corresponds rfl calls
    intro stores call same
    rw [paired stores same]
    exact Deployment.agreeUpToForm_iff call
  · refine Along.iff_of_invariant
      (fun stores => stores.2 = mirror deployment.tenant stores.1) ?_
      (fun stores call same apart => corresponds stores call same apart.1)
      rfl calls
    intro stores call same
    rw [paired stores same]
    exact Deployment.agree_iff call

def sampleDeployment : Deployment where
  tenant := "organization"
  tenant_ne := by decide
  server := {
    proposalFits := fun _ => true
    proposalRegistered := fun _ => true
    leaseFits := fun _ => true
    leaseRegistered := fun _ => true
    orderByProposalId := fun rows => rows
    orderByProposalId_perm := fun _ => .refl _ }
  takes := fun _ => true
  groupOrder := fun rows => rows
  groupOrder_perm := fun _ => .refl _

def consumedLeaseRun : List ActionCall :=
  let lease : LeaseRequest := {
    leaseHash := "digest", userPrincipalId := "user"
    agentPrincipalId := "agent", taskId := "task"
    credentialId := "credential", capabilities := ["send"], expiresAt := 100 }
  let binding : Binding := {
    userPrincipalId := "user", agentPrincipalId := "agent"
    taskId := some "task", credentialId := "credential"
    capabilityId := "send" }
  [.issueLease lease 0 true, .consumeLease (some "digest") binding 1 true,
    .validateLease (some "digest") binding 2 true]

/-- A lease that was consumed still validates in SQLite and no longer does in
Postgres. -/
theorem consumed_lease_validates_apart :
    ¬ ∀ (deployment : Deployment) (calls : List ActionCall),
      Along deployment.bothStep deployment.Agree
        (ActionStore.empty, Postgres.Store.empty) calls := by
  intro agree
  have validated := (agree sampleDeployment consumedLeaseRun).2.2.1.1
  exact absurd validated (by decide +kernel)

end AcpTask.Action
