import Mathlib.Data.List.MinMax
import Mathlib.Order.Nat
import AcpTask.Action.BackEnds

namespace AcpTask.Action

open Library

namespace Deployment

variable {deployment : Deployment} {store : ActionStore}

theorem postgresTenant_eq (named : Bool) :
    deployment.postgresTenant named = deployment.tenant := by
  cases named with
  | true => exact if_neg deployment.tenant_ne
  | false => rfl

/-! Answers. -/

theorem answered_mirrored_iff {Value PgValue : Type}
    {render : Value → ActionAnswer} {pgRender : PgValue → ActionAnswer}
    {result : Value × ActionStore} {pgResult : PgValue × Postgres.Store} :
    answered pgRender pgResult = mirrored deployment.tenant
        ((answered render result).1.map deployment.asPostgres,
          (answered render result).2) ↔
      pgRender pgResult.1 = deployment.asPostgres (render result.1) ∧
        pgResult.2 = mirror deployment.tenant result.2 := by
  simp [answered, mirrored, Except.map]

theorem flag_mirrored_iff {result : Bool × ActionStore}
    {pgResult : Bool × Postgres.Store} :
    answered .flag pgResult = mirrored deployment.tenant
        ((answered .flag result).1.map deployment.asPostgres,
          (answered .flag result).2) ↔
      pgResult = mirrored deployment.tenant result := by
  rw [answered_mirrored_iff]
  simp [asPostgres, mirrored, Prod.ext_iff]

theorem ofRow?_asPostgres (row : Option Proposal) :
    deployment.asPostgres (.ofRow? .seconds row) =
      .ofRow? .isoTexts (row.map (Proposal.under deployment.tenant)) := by
  cases row <;> rfl

theorem ofRow?_inj {form : RowForm} {row other : Option Proposal} :
    ActionAnswer.ofRow? form row = .ofRow? form other ↔ row = other := by
  cases row <;> cases other <;> simp [ActionAnswer.ofRow?]

theorem row_mirrored_iff {result : Option Proposal × ActionStore}
    {pgResult : Option Proposal × Postgres.Store} :
    answered (.ofRow? .isoTexts) pgResult = mirrored deployment.tenant
        ((answered (.ofRow? .seconds) result).1.map deployment.asPostgres,
          (answered (.ofRow? .seconds) result).2) ↔
      pgResult.1 = result.1.map (Proposal.under deployment.tenant) ∧
        pgResult.2 = mirror deployment.tenant result.2 := by
  rw [answered_mirrored_iff, ofRow?_asPostgres, ofRow?_inj]

theorem visible_iff {named : Bool} {rowTenant : String} :
    ¬ deployment.Hidden named rowTenant ↔
      tenantScope (deployment.tenantId named) rowTenant = true := by
  simp [Hidden]

variable (proposalId : String)

theorem decide_agree_iff (version : Nat) (userPrincipalId : String)
    (approved : Bool) (now : Int) (named : Bool) :
    Postgres.decide (mirror deployment.tenant store) deployment.tenant
        proposalId version userPrincipalId approved now =
      mirrored deployment.tenant (decide store proposalId version
        userPrincipalId approved now (deployment.tenantId named)) ↔
    ¬ deployment.StatementsPart store (.decide proposalId version
      userPrincipalId approved now named) := by
  rw [Postgres.decide, decide, updateProposal_mirror_iff]
  simp only [StatementsPart, not_exists, not_and, visible_iff]
  refine forall₂_congr fun row _ => ?_
  rw [and_iff_left (fun _ => by cases approved <;> rfl)]
  refine Bool.eq_self_and.trans ?_
  simp only [Proposal.under, Bool.and_eq_true, beq_iff_eq, decide_eq_true_eq,
    and_imp, ge_iff_le]

theorem completeExecution_agree_iff (version : Nat)
    (receiptJson : Option String) (now : Int)
    (brokerResponseJson : Option String) :
    Postgres.completeExecution (mirror deployment.tenant store)
        deployment.tenant proposalId version receiptJson now
        brokerResponseJson =
      mirrored deployment.tenant (completeExecution store proposalId version
        (receiptJson.getD "null") now brokerResponseJson) ↔
    ¬ deployment.StatementsPart store (.completeExecution proposalId version
      receiptJson now brokerResponseJson) := by
  rw [Postgres.completeExecution, Postgres.finish, completeExecution,
    updateProposal_mirror_iff]
  simp only [StatementsPart, not_exists, not_and, not_or]
  refine forall₂_congr fun row _ => ?_
  have sameGuard : [ProposalStatus.executing, .executionUnknown].contains
      (row.under deployment.tenant).status =
        (row.status == .executing || row.status == .executionUnknown) := by
    simp only [Proposal.under, List.contains_cons, List.contains_nil,
      Bool.or_false]
  rw [and_iff_right sameGuard, Bool.or_eq_true, beq_iff_eq, beq_iff_eq]
  refine imp_congr_right fun _ => ?_
  simp only [Proposal.under, Proposal.mk.injEq, true_and, and_true]
  cases receiptJson <;> cases brokerResponseJson <;> simp

theorem markDispatched_mirror (version : Nat) (now : Int) :
    Postgres.markDispatched (mirror deployment.tenant store)
        deployment.tenant proposalId version now =
      mirrored deployment.tenant
        (markDispatched store proposalId version now) :=
  (updateProposal_mirror_iff _ _).mpr fun _ _ => ⟨rfl, fun _ => rfl⟩

theorem resolveUnknownAsAbsent_mirror (version : Nat) (reason : String)
    (now : Int) :
    Postgres.resolveUnknownAsAbsent (mirror deployment.tenant store)
        deployment.tenant proposalId version reason now =
      mirrored deployment.tenant
        (resolveUnknownAsAbsent store proposalId version reason now) := by
  refine (updateProposal_mirror_iff _ _).mpr fun row _ => ⟨?_, fun _ => rfl⟩
  simp only [Proposal.under, List.contains_cons, List.contains_nil,
    Bool.or_false]

theorem consumable_eq (binding : Binding) (tenantId : Option String)
    (now : Int) (row : Proposal) :
    consumable { binding with tenantId } now row =
      (Postgres.consumable binding now row &&
        tenantScope tenantId row.tenantId) := by
  have sameDynamic : ({ binding with tenantId } : Binding).dynamic =
      binding.dynamic := rfl
  rw [Bool.eq_iff_iff]
  simp only [consumable, Binding.matchesProposal, Postgres.consumable,
    sameDynamic, ge_iff_le]
  cases binding.dynamic with
  | true =>
      simp only [if_true, Bool.and_eq_true]
      tauto
  | false =>
      simp only [Bool.false_eq_true, if_false, Bool.and_eq_true, beq_iff_eq,
        Option.some.injEq]
      tauto

theorem consumeApproval_agree_iff (binding : Binding) (now : Int)
    (named : Bool) :
    ((Postgres.consumeApproval (mirror deployment.tenant store)
          deployment.tenant binding now).1 =
        (consumeApproval store { binding with
          tenantId := deployment.tenantId named } now).1.map
            (Proposal.under deployment.tenant) ∧
      (Postgres.consumeApproval (mirror deployment.tenant store)
          deployment.tenant binding now).2 =
        mirror deployment.tenant (consumeApproval store { binding with
          tenantId := deployment.tenantId named } now).2) ↔
    ¬ deployment.StatementsPart store (.consumeApproval binding now named) := by
  have sameComplete : ({ binding with
      tenantId := deployment.tenantId named } : Binding).complete =
        binding.complete := rfl
  simp only [Postgres.consumeApproval, consumeApproval, sameComplete,
    StatementsPart, not_exists, not_and, visible_iff]
  cases complete : binding.complete with
  | false => simp
  | true =>
      simp only [Bool.not_true, Bool.false_eq_true, if_false, true_implies]
      refine (returning_mirror_iff _ _).trans ?_
      refine forall₂_congr fun row _ => ?_
      refine (and_iff_left (fun _ => rfl)).trans ?_
      rw [consumable_eq]
      exact Bool.eq_self_and

theorem find?_latestVersion {row : Proposal}
    (member : row ∈ store.proposals) :
    ∃ latest, store.proposals.find? (row.proposalId,
      latestVersion store row.proposalId) = some latest := by
  have listed : row.version ∈ ((store.proposals.rows.filter fun other =>
      other.proposalId == row.proposalId).map Proposal.version) :=
    List.mem_map.mpr ⟨row, List.mem_filter.mpr ⟨member, by simp⟩, rfl⟩
  obtain ⟨latest, latestMember, version⟩ := List.mem_map.mp
    (List.maximum_mem
      (List.foldr_max_of_ne_nil (List.ne_nil_of_mem listed)).symm)
  obtain ⟨stored, same⟩ := List.mem_filter.mp latestMember
  exact ⟨latest, Table.find?_eq_some_iff.mpr ⟨stored,
    Prod.ext (by simpa using same) version⟩⟩

theorem visibleVersion_eq {row : Proposal} {tenantId : Option String}
    (found : store.proposals.find? (row.proposalId,
      latestVersion store row.proposalId) = some row)
    (visible : tenantScope tenantId row.tenantId = true) :
    visibleVersion store row.proposalId tenantId =
      latestVersion store row.proposalId := by
  obtain ⟨member, key⟩ := Table.find?_eq_some_iff.mp found
  have version : row.version = latestVersion store row.proposalId :=
    congrArg Prod.snd key
  apply le_antisymm
  · refine List.max_le_of_forall_le _ _ fun candidate listed => ?_
    obtain ⟨_, otherMember, rfl⟩ := List.mem_map.mp listed
    obtain ⟨stored, reasons⟩ := List.mem_filter.mp otherMember
    simp only [Bool.and_eq_true, beq_iff_eq] at reasons
    rw [← reasons.1]
    exact le_latestVersion stored
  · refine List.le_max_of_le (List.mem_map.mpr
      ⟨row, List.mem_filter.mpr ⟨member, ?_⟩, rfl⟩) version.ge
    simp [visible]

theorem get_agree_iff (version : Option Nat) (named : Bool) :
    Postgres.get (mirror deployment.tenant store) deployment.tenant proposalId
        version =
      (get store proposalId (version.getD (visibleVersion store proposalId
        (deployment.tenantId named))) (deployment.tenantId named)).map
          (Proposal.under deployment.tenant) ↔
    ¬ deployment.StatementsPart store (.get proposalId version named) := by
  rw [Postgres.get, latestVersion_mirror, find?_mirror, get]
  simp only [StatementsPart, not_exists, not_and, visible_iff]
  constructor
  · intro same row found
    rw [found, Option.map_some, eq_comm, Option.map_eq_some_iff] at same
    obtain ⟨other, kept, under⟩ := same
    obtain ⟨otherFound, visible⟩ := Option.filter_eq_some_iff.mp kept
    have sameKey : other.key = row.key := by
      exact congrArg (fun row => row.tenantKey.2) under
    obtain rfl := Table.eq_of_key (Table.find?_eq_some_iff.mp otherFound).1
      (Table.find?_eq_some_iff.mp found).1 sameKey
    exact visible
  · intro allVisible
    cases found : store.proposals.find? (proposalId,
        version.getD (latestVersion store proposalId)) with
    | none =>
        cases version with
        | some =>
            rw [Option.getD_some] at found ⊢
            rw [found]
            rfl
        | none =>
            rw [Option.getD_none] at found ⊢
            have absent : ∀ version,
                store.proposals.find? (proposalId, version) = none := by
              intro version
              by_contra present
              obtain ⟨row, rowFound⟩ := Option.ne_none_iff_exists'.mp present
              obtain ⟨member, key⟩ := Table.find?_eq_some_iff.mp rowFound
              obtain ⟨_, latestFound⟩ := find?_latestVersion member
              rw [show row.proposalId = proposalId from congrArg Prod.fst key,
                found] at latestFound
              cases latestFound
            rw [absent]
            rfl
    | some row =>
        have visible := allVisible row found
        have key := (Table.find?_eq_some_iff.mp found).2
        obtain rfl : row.proposalId = proposalId := congrArg Prod.fst key
        have sameVersion : version.getD (visibleVersion store row.proposalId
            (deployment.tenantId named)) =
              version.getD (latestVersion store row.proposalId) := by
          cases version with
          | some => rfl
          | none => exact visibleVersion_eq found visible
        rw [sameVersion, found, Option.filter_some, if_pos visible]

theorem getByIdempotencyKey_agree_iff (idempotencyKey : String)
    (named : Bool) :
    Postgres.getByIdempotencyKey (mirror deployment.tenant store)
        deployment.tenant idempotencyKey =
      (getByIdempotencyKey store idempotencyKey
        (deployment.tenantId named)).map (Proposal.under deployment.tenant) ↔
    ¬ deployment.StatementsPart store
      (.getByIdempotencyKey idempotencyKey named) := by
  rw [getByIdempotencyKey_mirror, getByIdempotencyKey]
  simp only [StatementsPart, not_exists, not_and, visible_iff]
  constructor
  · intro same row found
    rw [found, Option.map_some, eq_comm, Option.map_eq_some_iff] at same
    obtain ⟨other, otherFound, under⟩ := same
    have sameKey : other.key = row.key :=
      congrArg (fun row => row.tenantKey.2) under
    have otherMember : other ∈ store.proposals :=
      List.mem_of_find?_eq_some otherFound
    obtain rfl := Table.eq_of_key otherMember
      (List.mem_of_find?_eq_some found) sameKey
    have holds := List.find?_some otherFound
    simp only [Bool.and_eq_true] at holds
    exact holds.2
  · intro allVisible
    cases found : store.proposals.rows.find? fun row =>
        row.idempotencyKey == idempotencyKey with
    | none =>
        rw [List.find?_eq_none] at found
        rw [eq_comm, Option.map_none, Option.map_eq_none_iff,
          List.find?_eq_none]
        intro row member holds
        simp only [Bool.and_eq_true] at holds
        exact found row member holds.1
    | some row =>
        have visible := allVisible row found
        obtain ⟨named, before, after, rows, earlier⟩ :=
          List.find?_eq_some_iff_append.mp found
        congr 1
        rw [eq_comm, List.find?_eq_some_iff_append]
        refine ⟨by simp [named, visible], before, after, rows, ?_⟩
        intro other member
        simp [earlier other member]

theorem leaseAllowed_eq (tenant : String) (binding : Binding) (now : Int)
    (row : Lease) :
    Postgres.leaseAllowed tenant binding now (row.under tenant) =
      (boundLease binding now row && row.consumedAt.isNone) := by
  rw [Bool.eq_iff_iff]
  simp only [Postgres.leaseAllowed, boundLease, Lease.under,
    workflowLeaseBindingMatches, beq_self_eq_true, Option.isNone_none,
    Bool.and_eq_true, true_and, and_true]
  tauto

theorem leaseValid_eq (binding : Binding) (tenantId : Option String)
    (now : Int) (row : Lease) :
    leaseValid { binding with tenantId } now row =
      (boundLease binding now row && tenantScope tenantId row.tenantId) := by
  rw [Bool.eq_iff_iff]
  simp only [leaseValid, boundLease, Postgres.leaseAllowed,
    workflowLeaseBindingMatches, beq_self_eq_true, Option.isNone_none,
    Bool.and_eq_true, true_and, and_true, ge_iff_le]
  tauto

theorem validateLease_agree_iff (leaseHash : Option String)
    (binding : Binding) (now : Int) (named : Bool) :
    Postgres.validateLease (mirror deployment.tenant store) deployment.tenant
        leaseHash binding now =
      validateLease store leaseHash
        { binding with tenantId := deployment.tenantId named } now ↔
    ¬ deployment.StatementsPart store
      (.validateLease leaseHash binding now named) := by
  cases leaseHash with
  | none => simp [Postgres.validateLease, validateLease, StatementsPart]
  | some =>
      simp only [Postgres.validateLease, validateLease, find?_mirror_lease,
        StatementsPart, Option.some.injEq, exists_and_left, exists_eq_left',
        not_exists, not_and]
      refine Table.isSome_filter_eq_iff.trans (forall₂_congr fun row _ => ?_)
      rw [leaseAllowed_eq, leaseValid_eq, Hidden]
      cases boundLease binding now row <;> cases row.consumedAt <;>
        cases tenantScope (deployment.tenantId named) row.tenantId <;> simp

theorem consumeLease_eq (pgStore : Postgres.Store) (tenant hash : String)
    (binding : Binding) (now : Int) :
    Postgres.consumeLease pgStore tenant (some hash) binding now =
      let updated := pgStore.leases.updateOne hash
        (Postgres.leaseAllowed tenant binding now)
        (fun row => { row with consumedAt := some now }) (fun _ => by rfl)
      (updated.1, { pgStore with leases := updated.2 }) := by
  by_cases allowed : ∃ row, pgStore.leases.find? hash = some row ∧
      Postgres.leaseAllowed tenant binding now row = true
  · obtain ⟨row, found, holds⟩ := allowed
    have open_ : (row.tenantId == tenant && row.consumedAt.isNone) = true := by
      simp only [Postgres.leaseAllowed, Bool.and_eq_true] at holds ⊢
      tauto
    have sameRow : ∀ other, pgStore.leases.find? hash = some other →
        (other.tenantId == tenant && other.consumedAt.isNone) =
          Postgres.leaseAllowed tenant binding now other := by
      intro other otherFound
      obtain rfl := Option.some.inj (found.symm.trans otherFound)
      rw [open_, holds]
    simp only [Postgres.consumeLease, Postgres.validateLease, found,
      Option.filter_some, holds, if_true, Option.isSome_some]
    rw [Table.updateOne_congr sameRow]
  · have refused : ∀ row, pgStore.leases.find? hash = some row →
        Postgres.leaseAllowed tenant binding now row = false := by
      intro row found
      simpa using fun holds => allowed ⟨row, found, holds⟩
    rw [Table.updateOne_of_refused refused]
    have invalid : Postgres.validateLease pgStore tenant (some hash) binding
        now = false := by
      simp only [Postgres.validateLease]
      cases found : pgStore.leases.find? hash with
      | none => rfl
      | some row => simp [refused row found]
    simp [Postgres.consumeLease, invalid]

theorem consumeLease_updateOne (hash : String) (binding : Binding)
    (now : Int) :
    consumeLease store (some hash) binding now =
      let updated := store.leases.updateOne hash
        (fun row => leaseValid binding now row && row.consumedAt.isNone)
        (fun row => { row with consumedAt := some now }) (fun _ => by rfl)
      (updated.1, { store with leases := updated.2 }) := rfl

theorem consumeLease_agree_iff (leaseHash : Option String)
    (binding : Binding) (now : Int) (named : Bool) :
    Postgres.consumeLease (mirror deployment.tenant store) deployment.tenant
        leaseHash binding now =
      mirrored deployment.tenant (consumeLease store leaseHash
        { binding with tenantId := deployment.tenantId named } now) ↔
    ¬ deployment.StatementsPart store
      (.consumeLease leaseHash binding now named) := by
  cases leaseHash with
  | none => simp [Postgres.consumeLease, consumeLease, StatementsPart, mirrored]
  | some =>
      simp only [StatementsPart, Option.some.injEq, exists_and_left,
        exists_eq_left', not_exists, not_and]
      rw [consumeLease_eq, consumeLease_updateOne]
      refine (updateLease_mirror_iff _ _).trans (forall₂_congr fun row _ => ?_)
      refine (and_iff_left (fun _ => rfl)).trans ?_
      simp only [leaseAllowed_eq, leaseValid_eq, Hidden]
      cases boundLease binding now row <;> cases row.consumedAt <;>
        cases tenantScope (deployment.tenantId named) row.tenantId <;> simp

theorem raised_ne_dataError {Value : Type} (result : Except ActionError Value)
    (render : Value → ActionAnswer) :
    ((result.mapError Postgres.Failure.raised).map render).map
      deployment.asPostgres ≠ .error .dataError := by
  cases result with
  | ok | error => exact fun same => by cases same

theorem createProposal_open {request : ProposalRequest}
    (unrefused : ¬ Refused store request) :
    createProposal store request =
      match insertProposal (supersede store request.proposalId)
          (request.row (latestVersion store request.proposalId + 1)) with
      | .ok created =>
          (.ok (request.row (latestVersion store request.proposalId + 1)),
            created)
      | .error error => (.error error, store) := by
  simp only [Refused, ActionStore.unresolved] at unrefused
  simp only [createProposal, transaction, Bool.and_eq_true, unrefused, if_false]
  cases insertProposal (supersede store request.proposalId)
    (request.row (latestVersion store request.proposalId + 1)) <;> rfl

theorem createProposal_mirror_open {request : ProposalRequest}
    {server : Postgres.Server} {tenant : String}
    (unrefused : ¬ Refused store request) :
    Postgres.createProposal server (mirror tenant store) tenant request =
      match Postgres.insertProposal server
          (mirror tenant (supersede store request.proposalId))
          (Postgres.proposalRow request tenant
            (latestVersion store request.proposalId + 1)) with
      | .ok created => (.ok (Postgres.proposalRow request tenant
          (latestVersion store request.proposalId + 1)), created)
      | .error error => (.error error, mirror tenant store) := by
  simp only [Refused] at unrefused
  simp only [Postgres.createProposal, transaction, unresolved_mirror,
    latestVersion_mirror, supersede_mirror, Bool.and_eq_true, unrefused,
    if_false]
  cases Postgres.insertProposal server
    (mirror tenant (supersede store request.proposalId))
    (Postgres.proposalRow request tenant
      (latestVersion store request.proposalId + 1)) <;> rfl

theorem createProposal_agree_iff (request : ProposalRequest) (named : Bool) :
    ((Postgres.createProposal deployment.server
          (mirror deployment.tenant store) deployment.tenant request).1.map
            (.proposal .isoTexts),
        (Postgres.createProposal deployment.server
          (mirror deployment.tenant store) deployment.tenant request).2) =
      mirrored deployment.tenant
        ((deployment.sqliteCall store (.createProposal request named)).1.map
            deployment.asPostgres,
          (deployment.sqliteCall store (.createProposal request named)).2) ↔
    ¬ deployment.StatementsPart store (.createProposal request named) := by
  let asked := { request with tenantId := deployment.tenantId named }
  let row := Postgres.proposalRow request deployment.tenant
    (latestVersion store request.proposalId + 1)
  by_cases refused : Refused store request
  · have sqRefused : createProposal store asked = _ :=
      createProposal_blocked refused.1 refused.2
    have pgRefused : Postgres.createProposal deployment.server
        (mirror deployment.tenant store) deployment.tenant request =
          (.error (.raised (.valueError
            "prior attempt is still executing or unresolved")),
            mirror deployment.tenant store) := by
      simp only [Postgres.createProposal, transaction, unresolved_mirror,
        refused.1, refused.2, Bool.and_self, if_true]
    rw [pgRefused, sqliteCall, show createProposal store _ = _ from sqRefused]
    simp only [StatementsPart, refused, not_true_eq_false, false_and,
      not_false_eq_true, iff_true]
    rfl
  · rw [createProposal_mirror_open refused]
    simp only [StatementsPart, refused, not_false_eq_true, true_and, not_or,
      not_and, Bool.not_eq_false]
    cases fits : deployment.server.proposalFits row with
    | false =>
        have unfit : Postgres.insertProposal deployment.server
            (mirror deployment.tenant (supersede store request.proposalId))
            row = .error .dataError := by
          simp only [Postgres.insertProposal, fits, Bool.not_false, if_true]
        rw [unfit]
        constructor
        · intro same
          exact absurd (congrArg Prod.fst same).symm (raised_ne_dataError _ _)
        · rintro ⟨fine, -⟩
          cases fine
    | true =>
        cases registered : deployment.server.proposalRegistered row with
        | true =>
            have inserted : Postgres.insertProposal deployment.server
                (mirror deployment.tenant
                  (supersede store request.proposalId)) row = _ :=
              @insertProposal_mirror _ _ _ (asked.row
                (latestVersion store request.proposalId + 1)) fits registered
            rw [inserted, sqliteCall, show createProposal store _ = _ from
              @createProposal_open store asked refused]
            refine iff_of_true ?_ ⟨rfl, fun _ => rfl⟩
            cases insertProposal (supersede store request.proposalId)
              (asked.row (latestVersion store request.proposalId + 1)) <;> rfl
        | false =>
            have unregistered : Postgres.insertProposal deployment.server
                (mirror deployment.tenant
                  (supersede store request.proposalId)) row =
                .error (.raised .integrityError) := by
              simp only [Postgres.insertProposal, fits, registered,
                Bool.not_true, Bool.not_false, Bool.true_or, if_true,
                Bool.false_eq_true, if_false]
            rw [unregistered, sqliteCall]
            cases taken : store.keyTaken request.attemptKey with
            | true =>
                rw [show createProposal store _ = _ from
                  @createProposal_taken store asked refused taken]
                exact iff_of_true rfl ⟨rfl, fun fresh => by cases fresh⟩
            | false =>
                obtain ⟨_, created, -⟩ :=
                  @createProposal_created store asked refused taken
                rw [show createProposal store _ = _ from created]
                refine iff_of_false (fun same => ?_)
                  (fun fine => by cases fine.2 rfl)
                cases congrArg Prod.fst same

theorem revokeHeld_mirror (request : LeaseRequest) (now : Int)
    (tenant : String) :
    (if request.workflowRevisionId != "legacy" then
        (mirror tenant store).leases.updateWhere
          (Postgres.holdsStep tenant request.workflowRevisionId request.stepId)
          (fun row => { row with revokedAt := some now }) (fun _ => by rfl)
      else (mirror tenant store).leases) =
      (revokeHeld store.leases request now).image (leasesUnder tenant) := by
  unfold revokeHeld
  split
  · refine Table.updateWhere_image (leasesUnder tenant) _ _ ?_ (fun _ => rfl)
    intro row
    simp only [Postgres.holdsStep, leasesUnder, Lease.under, Lease.active,
      beq_self_eq_true, Bool.true_and]
  · rfl

theorem revokeHeld_held (request : LeaseRequest) (now : Int) :
    (revokeHeld store.leases request now).rows.any (heldFor request) =
      (!(request.workflowRevisionId != "legacy") &&
        store.leases.rows.any (heldFor request)) := by
  unfold revokeHeld
  split
  · rename_i dynamic
    rw [dynamic, Bool.not_true, Bool.false_and, List.any_eq_false]
    intro row member
    simp only [Table.updateWhere, List.mem_map] at member
    obtain ⟨old, -, rfl⟩ := member
    split
    · simp [heldFor, Lease.active]
    · rename_i free
      exact free
  · rename_i legacy
    simp [legacy]

theorem mirror_revokeHeld_iff (request : LeaseRequest) (now : Int)
    (tenant : String) :
    mirror tenant store = mirror tenant
        { store with leases := revokeHeld store.leases request now } ↔
      ¬ ((request.workflowRevisionId != "legacy") = true ∧
        store.leases.rows.any (heldFor request) = true) := by
  unfold revokeHeld
  split
  · rename_i dynamic
    simp only [dynamic, true_and, Bool.not_eq_true, List.any_eq_false, mirror,
      Postgres.Store.mk.injEq, Table.ext_iff, Table.image, Table.updateWhere,
      List.map_map, List.map_inj_left]
    refine forall₂_congr fun row _ => ?_
    have condition : (row.workflowRevisionId == request.workflowRevisionId &&
        row.stepId == request.stepId && row.active) = heldFor request row := rfl
    simp only [Function.comp_apply, condition]
    cases held : heldFor request row with
    | false => simp
    | true =>
        refine iff_of_false (fun same => ?_) (by simp)
        have revoked := congrArg Lease.revokedAt same
        simp only [heldFor, Lease.active, Bool.and_eq_true,
          Option.isNone_iff_eq_none] at held
        simp [leasesUnder, Lease.under, held.2.2] at revoked
  · rename_i legacy
    simp [legacy]

section Insertion

variable {server : Postgres.Server} {leases : Table Lease Lease.key}
  {row : Lease}

theorem insertLease_unfit (unfit : server.leaseFits row = false) :
    Postgres.insertLease server leases row = .error .dataError := by
  simp [Postgres.insertLease, unfit]

theorem insertLease_refused (fits : server.leaseFits row = true)
    (refused : server.leaseRegistered row = false ∨
      leases.rows.any (Postgres.holdsStep row.tenantId row.workflowRevisionId
        row.stepId) = true ∨ leases.insert? row = none) :
    Postgres.insertLease server leases row =
      .error (.raised .integrityError) := by
  rcases refused with unregistered | held | taken
  · simp [Postgres.insertLease, fits, unregistered]
  · simp [Postgres.insertLease, fits, held]
  · simp [Postgres.insertLease, fits, taken]

theorem insertLease_inserted (fits : server.leaseFits row = true)
    (registered : server.leaseRegistered row = true)
    (free : leases.rows.any (Postgres.holdsStep row.tenantId
      row.workflowRevisionId row.stepId) = false)
    {later : Table Lease Lease.key} (inserted : leases.insert? row = some later) :
    Postgres.insertLease server leases row = .ok later := by
  simp [Postgres.insertLease, fits, registered, free, inserted]

end Insertion

theorem issueLease_agree_iff (request : LeaseRequest) (now : Int)
    (named : Bool) :
    ((Postgres.issueLease deployment.server (mirror deployment.tenant store)
          deployment.tenant request now).1.map fun _ => ActionAnswer.issued,
        (Postgres.issueLease deployment.server
          (mirror deployment.tenant store) deployment.tenant request now).2) =
      mirrored deployment.tenant
        ((deployment.sqliteCall store (.issueLease request now named)).1.map
            deployment.asPostgres,
          (deployment.sqliteCall store (.issueLease request now named)).2) ↔
    ¬ deployment.StatementsPart store (.issueLease request now named) := by
  let asked := { request with tenantId := deployment.tenantId named }
  let row := Postgres.leaseRow request deployment.tenant
  let revoked := revokeHeld store.leases request now
  have sqInserted : ∀ leases, revoked.insert? asked.row = some leases →
      issueLease store asked now = (.ok (), { store with leases }) := by
    intro leases inserted
    unfold issueLease
    dsimp only
    split
    · rename_i others same
      cases same.symm.trans inserted
      rfl
    · rename_i refused
      cases refused.symm.trans inserted
  have sqRefused : revoked.insert? asked.row = none →
      issueLease store asked now =
        (.error .integrityError, { store with leases := revoked }) := by
    intro refused
    unfold issueLease
    dsimp only
    split
    · rename_i leases inserted
      cases refused.symm.trans inserted
    · rfl
  have pgInserted : ∀ leases, Postgres.insertLease deployment.server
        (revoked.image (leasesUnder deployment.tenant)) row = .ok leases →
      Postgres.issueLease deployment.server (mirror deployment.tenant store)
        deployment.tenant request now =
        (.ok (), { mirror deployment.tenant store with leases }) := by
    intro leases inserted
    simp only [Postgres.issueLease, transaction, revokeHeld_mirror]
    rw [show Postgres.insertLease _ _ _ = _ from inserted]
    rfl
  have pgRefused : ∀ error, Postgres.insertLease deployment.server
        (revoked.image (leasesUnder deployment.tenant)) row = .error error →
      Postgres.issueLease deployment.server (mirror deployment.tenant store)
        deployment.tenant request now =
        (.error error, mirror deployment.tenant store) := by
    intro error refused
    simp only [Postgres.issueLease, transaction, revokeHeld_mirror]
    rw [show Postgres.insertLease _ _ _ = _ from refused]
    rfl
  have held : (revoked.image (leasesUnder deployment.tenant)).rows.any
      (Postgres.holdsStep row.tenantId row.workflowRevisionId row.stepId) =
        (!(request.workflowRevisionId != "legacy") &&
          store.leases.rows.any (heldFor request)) := by
    rw [← revokeHeld_held request now]
    simp only [Table.image, List.any_map]
    congr 1
    funext lease
    simp only [Function.comp_apply, Postgres.holdsStep, leasesUnder,
      Lease.under, row, Postgres.leaseRow, LeaseRequest.row, heldFor,
      Lease.active, beq_self_eq_true, Bool.true_and]
  have inserts : (revoked.image (leasesUnder deployment.tenant)).insert? row =
      (revoked.insert? asked.row).map fun leases =>
        leases.image (leasesUnder deployment.tenant) :=
    Table.insert?_image (leasesUnder deployment.tenant) revoked asked.row
  rw [sqliteCall]
  simp only [StatementsPart]
  cases fits : deployment.server.leaseFits row with
  | false =>
      rw [pgRefused _ (insertLease_unfit fits)]
      refine iff_of_false (fun same => ?_) (by simp)
      exact raised_ne_dataError _ _ (congrArg Prod.fst same).symm
  | true =>
      cases inserted : revoked.insert? asked.row with
      | none =>
          have taken : store.leases.find? request.leaseHash ≠ none :=
            mt find?_revokeHeld_eq_none_iff.mpr
              (Table.insert?_eq_none_iff.mp inserted)
          rw [pgRefused _ (insertLease_refused fits
            (.inr (.inr (by rw [inserts, inserted]; rfl)))),
            show issueLease store _ now = _ from sqRefused inserted]
          simp only [taken, ne_eq, not_false_eq_true, true_and, false_and,
            false_or, Bool.true_eq_false]
          refine Iff.trans ?_
            (mirror_revokeHeld_iff request now deployment.tenant)
          exact ⟨fun same => congrArg Prod.snd same,
            fun same => Prod.ext rfl same⟩
      | some leases =>
          have free : store.leases.find? request.leaseHash = none :=
            find?_revokeHeld_eq_none_iff.mp
              (Table.insert?_eq_some_iff.mp inserted).1
          rw [show issueLease store _ now = _ from sqInserted leases inserted]
          by_cases refused : deployment.server.leaseRegistered row = false ∨
              (request.workflowRevisionId != "legacy") = false ∧
                store.leases.rows.any (heldFor request) = true
          · have heldOr : deployment.server.leaseRegistered row = false ∨
                (revoked.image (leasesUnder deployment.tenant)).rows.any
                  (Postgres.holdsStep row.tenantId row.workflowRevisionId
                    row.stepId) = true ∨
                (revoked.image (leasesUnder deployment.tenant)).insert? row =
                  none := by
              rw [held]
              simpa using refused.imp_right Or.inl
            rw [pgRefused _ (insertLease_refused fits heldOr)]
            refine iff_of_false (fun same => ?_)
              (fun apart => apart (.inr (.inl ⟨free, refused⟩)))
            cases congrArg Prod.fst same
          · have registered : deployment.server.leaseRegistered row = true := by
              simpa using fun unregistered => refused (.inl unregistered)
            have unheld : (revoked.image (leasesUnder
                deployment.tenant)).rows.any (Postgres.holdsStep row.tenantId
                  row.workflowRevisionId row.stepId) = false := by
              rw [held, Bool.and_eq_false_iff, Bool.not_eq_false']
              by_contra both
              rw [not_or, Bool.not_eq_true, Bool.not_eq_false] at both
              exact refused (.inr both)
            rw [pgInserted _ (insertLease_inserted fits registered unheld
              (by rw [inserts, inserted]; rfl))]
            refine iff_of_true rfl ?_
            simp only [free, ne_eq, not_true_eq_false, false_and, true_and,
              or_false, Bool.true_eq_false, false_or]
            exact refused

end Deployment

end AcpTask.Action
