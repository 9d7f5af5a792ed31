import AcpTask.Action.Mirror

namespace AcpTask.Action

open Library

/-! The sweep of stalled executions in both databases.  Which rows are stalled
is decided by a `SELECT` each writes its own way; what then becomes of a row is
the same. -/

/-- The `GROUP BY` of the SQLite selection promises no order. -/
def stalledInOrder (order : List Proposal → List Proposal)
    (store : ActionStore) (now : Int) (limit : Nat) : List Proposal :=
  (order (store.proposals.rows.filter fun row => row.status == .executing &&
    Decidable.decide (sweepDeadline store row < now))).take limit

def sweepInOrder (order : List Proposal → List Proposal)
    (store : ActionStore) (now : Int) (limit : Nat) : Swept × ActionStore :=
  (stalledInOrder order store now limit).foldl (sweepRow now) ({}, store)

def sweptRow (now : Int) (row : Proposal) : Proposal :=
  if row.dispatchedAt.isNone then
    { row with status := .approved, executionStartedAt := none }
  else
    { row with
      status := .executionUnknown
      executionFinishedAt := some now
      failureReason := some
        (truncate "dispatch lease expired without an observed outcome") }

theorem sweptRow_key (now : Int) (row : Proposal) :
    (sweptRow now row).key = row.key := by
  unfold sweptRow
  split <;> rfl

theorem sweptRow_status_ne (now : Int) (row : Proposal) :
    (sweptRow now row).status ≠ .executing := by
  unfold sweptRow
  split <;> simp

def sweptOf (picked : List Proposal) : Swept where
  recovered := (picked.filter fun row => row.dispatchedAt.isNone).map
    Proposal.proposalId
  unknown := (picked.filter fun row => row.dispatchedAt.isSome).map
    Proposal.proposalId

def Picked (store : ActionStore) (row : Proposal) : Prop :=
  ∃ stored ∈ store.proposals, stored.key = row.key ∧
    stored.status = .executing ∧ stored.dispatchedAt = row.dispatchedAt

def sweptStore (store : ActionStore) (now : Int)
    (keys : List (String × Nat)) : ActionStore :=
  { store with
    proposals := store.proposals.updateWhere
      (fun row => Decidable.decide (row.key ∈ keys)) (sweptRow now)
      (sweptRow_key now) }

section Fold

variable {store : ActionStore} {now : Int}

theorem mem_sweptStore {keys : List (String × Nat)} {row : Proposal} :
    row ∈ (sweptStore store now keys).proposals ↔
      ∃ old ∈ store.proposals,
        (if old.key ∈ keys then sweptRow now old else old) = row := by
  simp only [sweptStore, Table.mem_updateWhere, decide_eq_true_eq]

theorem Picked.later {row other : Proposal} (current : Picked store other)
    (apart : other.key ≠ row.key) :
    Picked (sweptStore store now [row.key]) other := by
  obtain ⟨stored, member, key, status, dispatched⟩ := current
  refine ⟨stored, mem_sweptStore.mpr ⟨stored, member, if_neg ?_⟩, key, status,
    dispatched⟩
  simpa [key] using apart

theorem guardedUpdate_swept {stored : Proposal}
    (member : stored ∈ store.proposals) {guard : Proposal → Bool}
    (holds : guard stored = true) {assign : Proposal → Proposal}
    (keepsKey : ∀ row, (assign row).key = row.key)
    (same : assign stored = sweptRow now stored) :
    guardedUpdate store stored.key guard assign keepsKey =
      (true, sweptStore store now [stored.key]) := by
  have updated := Table.updateOne_of_found
    (Table.find?_eq_some_iff.mpr ⟨member, rfl⟩) holds same keepsKey
    (sweptRow_key now)
  refine Prod.ext (congrArg Prod.fst updated :) ?_
  simp only [sweptStore, List.mem_singleton]
  exact congrArg (fun result : Bool × Table Proposal Proposal.key =>
    { store with proposals := result.2 }) updated

theorem sweepRow_picked {row : Proposal} (current : Picked store row)
    (swept : Swept) :
    sweepRow now (swept, store) row =
      (⟨swept.recovered ++ (sweptOf [row]).recovered,
        swept.unknown ++ (sweptOf [row]).unknown⟩,
        sweptStore store now [row.key]) := by
  obtain ⟨stored, member, key, status, dispatched⟩ := current
  unfold sweepRow
  cases sent : row.dispatchedAt with
  | none =>
      have waiting : preDispatch stored = true := by
        simp [preDispatch, status, dispatched, sent]
      have recovered : recoverPreDispatchClaim store row.proposalId
          row.version = (true, sweptStore store now [stored.key]) := by
        rw [recoverPreDispatchClaim,
          ← show stored.key = (row.proposalId, row.version) from key]
        apply guardedUpdate_swept member waiting
        simp [sweptRow, dispatched, sent]
      simp [recovered, key, sweptOf, sent]
  | some =>
      have running : (fun row : Proposal => row.status == .executing) stored =
          true := by
        simp [status]
      have failed : failExecution store row.proposalId row.version
          "dispatch lease expired without an observed outcome" now true =
            (true, sweptStore store now [stored.key]) := by
        rw [failExecution,
          ← show stored.key = (row.proposalId, row.version) from key]
        apply guardedUpdate_swept member running
        simp [sweptRow, dispatched, sent]
      simp [failed, key, sweptOf, sent]

theorem sweptStore_append (store : ActionStore) (now : Int)
    {key : String × Nat} {keys : List (String × Nat)} (fresh : key ∉ keys) :
    sweptStore (sweptStore store now [key]) now keys =
      sweptStore store now (key :: keys) := by
  simp only [sweptStore, ActionStore.mk.injEq, and_true]
  apply Table.ext
  simp only [Table.updateWhere, List.map_map]
  apply List.map_congr_left
  intro row _
  by_cases hit : row.key = key
  · simp [hit, sweptRow_key, fresh]
  · simp [hit]

theorem foldl_sweepRow_picked {store : ActionStore} {now : Int}
    {picked : List Proposal} (distinct : (picked.map Proposal.key).Nodup)
    (current : ∀ row ∈ picked, Picked store row) (swept : Swept) :
    picked.foldl (sweepRow now) (swept, store) =
      (⟨swept.recovered ++ (sweptOf picked).recovered,
        swept.unknown ++ (sweptOf picked).unknown⟩,
        sweptStore store now (picked.map Proposal.key)) := by
  induction picked generalizing store swept with
  | nil =>
      have unchanged : sweptStore store now [] = store := by
        simp [sweptStore, Table.updateWhere]
      simp [sweptOf, unchanged]
  | cons row _ induction =>
      rw [List.map_cons, List.nodup_cons] at distinct
      obtain ⟨fresh, later⟩ := distinct
      rw [List.foldl_cons, sweepRow_picked (current row List.mem_cons_self),
        induction later (fun other member =>
          (current other (List.mem_cons_of_mem row member)).later
            (fun same => fresh (List.mem_map.mpr ⟨other, member, same⟩))),
        sweptStore_append store now fresh, List.map_cons]
      cases sent : row.dispatchedAt <;> simp [sweptOf, sent]

end Fold

section Selections

theorem stalledInOrder_nodup {order : List Proposal → List Proposal}
    (permutes : ∀ rows, (order rows).Perm rows) (store : ActionStore)
    (now : Int) (limit : Nat) :
    ((stalledInOrder order store now limit).map Proposal.key).Nodup := by
  have stalled := store.proposals.primaryKey.sublist
    ((List.filter_sublist (p := fun row => row.status == .executing &&
      Decidable.decide (sweepDeadline store row < now))).map Proposal.key)
  exact ((((permutes _).map Proposal.key).nodup_iff).mpr stalled).sublist
    ((List.take_sublist limit _).map Proposal.key)

theorem stalledInOrder_picked {order : List Proposal → List Proposal}
    (permutes : ∀ rows, (order rows).Perm rows) {store : ActionStore}
    {now : Int} {limit : Nat} {row : Proposal}
    (member : row ∈ stalledInOrder order store now limit) :
    Picked store row := by
  have stalled := (permutes _).mem_iff.mp (List.mem_of_mem_take member)
  obtain ⟨stored, reasons⟩ := List.mem_filter.mp stalled
  simp only [Bool.and_eq_true, beq_iff_eq] at reasons
  exact ⟨row, stored, rfl, reasons.1, rfl⟩

variable {server : Postgres.Server} {tenant : String} {store : ActionStore}
  {now : Int} {limit : Nat}

theorem exists_of_mem_stalled {row : Proposal}
    (member : row ∈ Postgres.stalledExecutions server (mirror tenant store)
      tenant now limit) :
    ∃ stored ∈ store.proposals, stored.under tenant = row ∧
      stored.status = .executing := by
  have stalled := (server.orderByProposalId_perm _).mem_iff.mp
    (List.mem_of_mem_take member)
  obtain ⟨mirroredRow, reasons⟩ := List.mem_filter.mp stalled
  obtain ⟨stored, storedMember, rfl⟩ := List.mem_map.mp mirroredRow
  simp only [Bool.and_eq_true, beq_iff_eq] at reasons
  exact ⟨stored, storedMember, rfl, reasons.1.2⟩

theorem stalledExecutions_nodup :
    ((Postgres.stalledExecutions server (mirror tenant store) tenant now
      limit).map Proposal.key).Nodup := by
  have keys : ((mirror tenant store).proposals.rows.map Proposal.key).Nodup := by
    simp only [mirror, Table.image, List.map_map]
    exact store.proposals.primaryKey
  refine (List.Nodup.sublist ((List.take_sublist limit _).map Proposal.key) ?_)
  refine (((server.orderByProposalId_perm _).map Proposal.key).nodup_iff).mpr ?_
  exact keys.sublist (List.filter_sublist.map Proposal.key)

theorem stalledExecutions_picked {row : Proposal}
    (member : row ∈ Postgres.stalledExecutions server (mirror tenant store)
      tenant now limit) : Picked store row := by
  obtain ⟨stored, storedMember, rfl, status⟩ := exists_of_mem_stalled member
  exact ⟨stored, storedMember, rfl, status, rfl⟩

end Selections

section Mirror

variable {tenant : String} {store : ActionStore}

theorem recoverPreDispatchClaim_mirror (proposalId : String)
    (version : Nat) :
    Postgres.recoverPreDispatchClaim (mirror tenant store) tenant proposalId
        version =
      mirrored tenant (recoverPreDispatchClaim store proposalId version) :=
  (updateProposal_mirror_iff _ _).mpr fun _ _ => ⟨rfl, fun _ => rfl⟩

theorem failExecution_mirror (proposalId : String) (version : Nat)
    (reason : String) (now : Int) (unknown : Bool) :
    Postgres.failExecution (mirror tenant store) tenant proposalId version
        reason now unknown =
      mirrored tenant
        (failExecution store proposalId version reason now unknown) := by
  refine (updateProposal_mirror_iff _ _).mpr fun row _ => ⟨?_, fun _ => rfl⟩
  simp only [Proposal.under, List.contains_cons, List.contains_nil,
    Bool.or_false]

theorem sweepRow_mirror (now : Int) (swept : Swept) (row : Proposal) :
    Postgres.sweepRow tenant now (swept, mirror tenant store) row =
      mirrored tenant (sweepRow now (swept, store) row) := by
  unfold Postgres.sweepRow sweepRow
  split
  · rw [recoverPreDispatchClaim_mirror]
    rfl
  · rw [failExecution_mirror]
    rfl

theorem foldl_sweepRow_mirror (now : Int) (picked : List Proposal)
    (swept : Swept) :
    picked.foldl (Postgres.sweepRow tenant now) (swept, mirror tenant store) =
      mirrored tenant (picked.foldl (sweepRow now) (swept, store)) := by
  induction picked generalizing store swept with
  | nil => rfl
  | cons _ _ induction =>
      rw [List.foldl_cons, List.foldl_cons, sweepRow_mirror]
      exact induction _

/-- Two selections of executions answer alike and lead to the same rows when the
ids they pick are listed alike and they pick the same versions. -/
def SamePicks (first second : List Proposal) : Prop :=
  sweptOf first = sweptOf second ∧
    ∀ key, key ∈ first.map Proposal.key ↔ key ∈ second.map Proposal.key

theorem mirror_sweptStore_eq_iff {now : Int} {first second : List Proposal}
    (firstPicked : ∀ row ∈ first, Picked store row)
    (secondPicked : ∀ row ∈ second, Picked store row) :
    mirror tenant (sweptStore store now (first.map Proposal.key)) =
        mirror tenant (sweptStore store now (second.map Proposal.key)) ↔
      ∀ key, key ∈ first.map Proposal.key ↔ key ∈ second.map Proposal.key := by
  constructor
  · intro same
    have rows := congrArg (fun store => store.proposals.rows) same
    simp only [mirror, Table.image, sweptStore, Table.updateWhere,
      List.map_map] at rows
    rw [List.map_inj_left] at rows
    have contained : ∀ {picked others : List Proposal},
        (∀ row ∈ picked, Picked store row) →
        (∀ row ∈ store.proposals.rows,
          ((if Decidable.decide (row.key ∈ picked.map Proposal.key) then
              sweptRow now row else row).under tenant).status =
            ((if Decidable.decide (row.key ∈ others.map Proposal.key) then
              sweptRow now row else row).under tenant).status) →
        ∀ key ∈ picked.map Proposal.key, key ∈ others.map Proposal.key := by
      intro picked others current statuses key member
      obtain ⟨row, rowMember, rfl⟩ := List.mem_map.mp member
      obtain ⟨stored, storedMember, sameKey, status, -⟩ := current row rowMember
      rw [← sameKey] at member ⊢
      by_contra absent
      have changed := statuses stored storedMember
      simp only [member, absent, decide_true, decide_false, if_true,
        Bool.false_eq_true, if_false, Proposal.under, status] at changed
      exact sweptRow_status_ne now stored changed
    intro key
    exact ⟨contained firstPicked (fun row member =>
        congrArg Proposal.status (rows row member)) key,
      contained secondPicked (fun row member =>
        congrArg Proposal.status (rows row member).symm) key⟩
  · intro same
    simp only [sweptStore, same]

theorem sweep_mirror_iff {order : List Proposal → List Proposal}
    (permutes : ∀ rows, (order rows).Perm rows) {server : Postgres.Server}
    {now : Int} {limit : Nat} :
    Postgres.sweepStalledExecutions server (mirror tenant store) tenant now
        limit = mirrored tenant (sweepInOrder order store now limit) ↔
      SamePicks
        (Postgres.stalledExecutions server (mirror tenant store) tenant now
          limit)
        (stalledInOrder order store now limit) := by
  rw [Postgres.sweepStalledExecutions, sweepInOrder, foldl_sweepRow_mirror,
    foldl_sweepRow_picked stalledExecutions_nodup
      (fun _ => stalledExecutions_picked),
    foldl_sweepRow_picked (stalledInOrder_nodup permutes store now limit)
      (fun _ => stalledInOrder_picked permutes)]
  simp only [mirrored, Prod.mk.injEq, List.nil_append, SamePicks]
  exact and_congr Iff.rfl (mirror_sweptStore_eq_iff
    (fun _ => stalledExecutions_picked)
    (fun _ => stalledInOrder_picked permutes))

end Mirror

end AcpTask.Action
