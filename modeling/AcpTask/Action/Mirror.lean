import AcpTask.Action.Creation
import AcpTask.Action.Leases
import AcpTask.Action.Postgres

namespace AcpTask.Action

open Library

/-! The Postgres tables that correspond to the SQLite ones of a single tenant:
the same rows, each under the tenant's name. -/

def Proposal.under (tenant : String) (row : Proposal) : Proposal :=
  { row with tenantId := tenant }

def Lease.under (tenant : String) (row : Lease) : Lease :=
  { row with tenantId := tenant }

@[simp] theorem Proposal.under_tenantId (tenant : String) (row : Proposal) :
    (row.under tenant).tenantId = tenant := rfl

@[simp] theorem Lease.under_tenantId (tenant : String) (row : Lease) :
    (row.under tenant).tenantId = tenant := rfl

def proposalsUnder (tenant : String) :
    RowMap Proposal.key Proposal.tenantKey where
  row := Proposal.under tenant
  key := fun key => (tenant, key)
  keys_injective := fun _ _ same => congrArg Prod.snd same
  keyOf_row := fun _ => rfl

def leasesUnder (tenant : String) : RowMap Lease.key Lease.key where
  row := Lease.under tenant
  key := fun key => key
  keys_injective := fun _ _ same => same
  keyOf_row := fun _ => rfl

def mirror (tenant : String) (store : ActionStore) : Postgres.Store where
  proposals := store.proposals.image (proposalsUnder tenant)
  leases := store.leases.image (leasesUnder tenant)

section Reads

variable (tenant : String) (store : ActionStore)

theorem any_mirror (test : Proposal → Bool) :
    (mirror tenant store).proposals.rows.any test =
      store.proposals.rows.any fun row => test (row.under tenant) := by
  simp only [mirror, Table.image, proposalsUnder, List.any_map]
  rfl

theorem unresolved_mirror (proposalId : String) :
    Postgres.unresolved (mirror tenant store) tenant proposalId =
      store.unresolved proposalId := by
  simp only [Postgres.unresolved, any_mirror, ActionStore.unresolved,
    Postgres.ofProposal, Proposal.under, beq_self_eq_true, Bool.true_and]
  rfl

theorem keyTaken_mirror (idempotencyKey : String) :
    Postgres.keyTaken (mirror tenant store) tenant idempotencyKey =
      store.keyTaken idempotencyKey := by
  simp only [Postgres.keyTaken, any_mirror, ActionStore.keyTaken,
    Proposal.under, beq_self_eq_true, Bool.true_and]

theorem latestVersion_mirror (proposalId : String) :
    Postgres.latestVersion (mirror tenant store) tenant proposalId =
      latestVersion store proposalId := by
  simp only [Postgres.latestVersion, latestVersion, mirror, Table.image,
    proposalsUnder, List.filter_map, List.map_map]
  congr 1
  simp only [Function.comp_def, Postgres.ofProposal, Proposal.under,
    beq_self_eq_true, Bool.true_and]

theorem find?_mirror (proposalId : String) (version : Nat) :
    (mirror tenant store).proposals.find? (tenant, proposalId, version) =
      (store.proposals.find? (proposalId, version)).map
        (Proposal.under tenant) :=
  Table.find?_image (proposalsUnder tenant) store.proposals
    (proposalId, version)

theorem find?_mirror_lease (hash : String) :
    (mirror tenant store).leases.find? hash =
      (store.leases.find? hash).map (Lease.under tenant) :=
  Table.find?_image (leasesUnder tenant) store.leases hash

theorem getByIdempotencyKey_mirror (idempotencyKey : String) :
    Postgres.getByIdempotencyKey (mirror tenant store) tenant idempotencyKey =
      (store.proposals.rows.find? fun row =>
        row.idempotencyKey == idempotencyKey).map (Proposal.under tenant) := by
  simp only [Postgres.getByIdempotencyKey, mirror, Table.image,
    proposalsUnder, List.find?_map, Function.comp_def, Proposal.under,
    beq_self_eq_true, Bool.true_and]

end Reads

section Writes

variable {tenant : String} {store : ActionStore}

theorem supersede_mirror (proposalId : String) :
    Postgres.supersede (mirror tenant store) tenant proposalId =
      mirror tenant (supersede store proposalId) := by
  simp only [Postgres.supersede, supersede, mirror, Postgres.Store.mk.injEq,
    and_true]
  refine Table.updateWhere_image (proposalsUnder tenant) _ _ ?_ (fun _ => rfl)
  intro row
  simp only [Postgres.ofProposal, proposalsUnder, Proposal.under,
    beq_self_eq_true, Bool.true_and]
  rfl

theorem insertProposal_mirror {server : Postgres.Server} {row : Proposal}
    (fits : server.proposalFits (row.under tenant) = true)
    (registered : server.proposalRegistered (row.under tenant) = true) :
    Postgres.insertProposal server (mirror tenant store) (row.under tenant) =
      match insertProposal store row with
      | .ok created => .ok (mirror tenant created)
      | .error error => .error (.raised error) := by
  have taken := keyTaken_mirror tenant store row.idempotencyKey
  have inserted :=
    Table.insert?_image (proposalsUnder tenant) store.proposals row
  simp only [ActionStore.keyTaken] at taken
  simp only [Postgres.insertProposal, insertProposal, fits, registered,
    Bool.not_true, Bool.false_eq_true, if_false, Bool.false_or,
    Proposal.under_tenantId]
  rw [show (row.under tenant).idempotencyKey = row.idempotencyKey from rfl,
    taken]
  split
  · rfl
  · rw [show (mirror tenant store).proposals.insert? (row.under tenant) =
      _ from inserted]
    cases store.proposals.insert? row <;> rfl

/-- What a call of the SQLite repository answers, beside the Postgres store that
corresponds to the one it leaves. -/
def mirrored {Answer : Type} (tenant : String)
    (result : Answer × ActionStore) : Answer × Postgres.Store :=
  (result.1, mirror tenant result.2)

theorem updateProposal_mirror_iff {proposalId : String} {version : Nat}
    {guard pgGuard : Proposal → Bool} {assign pgAssign : Proposal → Proposal}
    (keepsKey : ∀ row, (assign row).key = row.key)
    (keepsTenantKey : ∀ row, (pgAssign row).tenantKey = row.tenantKey) :
    Postgres.updateProposal (mirror tenant store) tenant proposalId version
        pgGuard pgAssign keepsTenantKey =
      mirrored tenant (guardedUpdate store (proposalId, version) guard assign
        keepsKey) ↔
    ∀ row, store.proposals.find? (proposalId, version) = some row →
      pgGuard (row.under tenant) = guard row ∧
      (guard row = true →
        pgAssign (row.under tenant) = (assign row).under tenant) := by
  refine Iff.trans ?_
    (Table.updateOne_image_iff (proposalsUnder tenant) keepsKey keepsTenantKey)
  constructor
  · intro same
    exact ⟨congrArg Prod.fst same,
      congrArg (fun result => result.2.proposals) same⟩
  · rintro ⟨flag, rows⟩
    exact Prod.ext flag (congrArg (fun proposals =>
      Postgres.Store.mk proposals (mirror tenant store).leases) rows)

theorem returning_mirror_iff {proposalId : String} {version : Nat}
    {guard pgGuard : Proposal → Bool} {assign pgAssign : Proposal → Proposal}
    (keepsKey : ∀ row, (assign row).key = row.key)
    (keepsTenantKey : ∀ row, (pgAssign row).tenantKey = row.tenantKey) :
    ((((mirror tenant store).proposals.find?
          (tenant, proposalId, version)).filter pgGuard).map pgAssign =
        (((store.proposals.find? (proposalId, version)).filter guard).map
          assign).map (Proposal.under tenant) ∧
      (Postgres.updateProposal (mirror tenant store) tenant proposalId version
          pgGuard pgAssign keepsTenantKey).2 =
        mirror tenant (guardedUpdate store (proposalId, version) guard assign
          keepsKey).2) ↔
    ∀ row, store.proposals.find? (proposalId, version) = some row →
      pgGuard (row.under tenant) = guard row ∧
      (guard row = true →
        pgAssign (row.under tenant) = (assign row).under tenant) := by
  refine Iff.trans ?_ (updateProposal_mirror_iff keepsKey keepsTenantKey)
  constructor
  · rintro ⟨sameRow, sameStore⟩
    refine Prod.ext ?_ sameStore
    have flags := congrArg Option.isSome sameRow
    rw [Option.isSome_map, Option.isSome_map, Option.isSome_map] at flags
    exact flags
  · intro same
    refine ⟨?_, congrArg Prod.snd same⟩
    have rows := (updateProposal_mirror_iff keepsKey keepsTenantKey).mp same
    rw [find?_mirror]
    cases found : store.proposals.find? (proposalId, version) with
    | none => rfl
    | some row =>
        obtain ⟨sameGuard, sameAssign⟩ := rows row found
        rw [Option.map_some, Option.filter_some, Option.filter_some, sameGuard]
        split
        · rename_i holds
          exact congrArg some (sameAssign holds)
        · rfl

theorem updateLease_mirror_iff {hash : String} {guard pgGuard : Lease → Bool}
    {assign pgAssign : Lease → Lease}
    (keepsKey : ∀ row, (assign row).key = row.key)
    (keepsImageKey : ∀ row, (pgAssign row).key = row.key) :
    (((mirror tenant store).leases.updateOne hash pgGuard pgAssign
          keepsImageKey).1,
        { mirror tenant store with
          leases := ((mirror tenant store).leases.updateOne hash pgGuard
            pgAssign keepsImageKey).2 }) =
      mirrored tenant ((store.leases.updateOne hash guard assign keepsKey).1,
        { store with
          leases := (store.leases.updateOne hash guard assign keepsKey).2 }) ↔
    ∀ row, store.leases.find? hash = some row →
      pgGuard (row.under tenant) = guard row ∧
      (guard row = true →
        pgAssign (row.under tenant) = (assign row).under tenant) := by
  refine Iff.trans ?_
    (Table.updateOne_image_iff (leasesUnder tenant) keepsKey keepsImageKey)
  constructor
  · intro same
    exact ⟨(congrArg Prod.fst same :),
      (congrArg (fun result => result.2.leases) same :)⟩
  · rintro ⟨flag, rows⟩
    exact Prod.ext flag
      (congrArg (Postgres.Store.mk (mirror tenant store).proposals) rows)

end Writes

end AcpTask.Action
