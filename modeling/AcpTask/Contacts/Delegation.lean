import AcpTask.Consent.Ledger
import AcpTask.Contacts.Authorized

namespace AcpTask.Contacts

open Consent (Actor)
open Library

/-! The permission editor: who may open and close a dimension of a branch, and
what that opens below. -/

structure PermissionTable extends Permissions where
  primaryKey : (rows.map Permission.permissionId).Nodup

inductive PermissionError where
  | contacts (error : ContactsError)
  | permissionDenied (dimension : Dimension) (message : Option String)
  | humanDecisionRequired (message : String)
  | administratorRequired (message : String)
  deriving DecidableEq

def Dimension.name : Dimension → String
  | .view => "view"
  | .edit => "edit"
  | .administer => "administer"
  | .campaignUse => "campaign_use"

def Permission.decides (tenantId branchId principalId : String)
    (dimension : Dimension) (row : Permission) : Bool :=
  row.tenantId == tenantId && row.branchId == branchId &&
    row.principalId == principalId && row.dimension == dimension

def requireAdministrator (actor : Option Actor) :
    Except PermissionError Actor :=
  match actor.filter fun actor => actor.kind == .human with
  | none => .error (.humanDecisionRequired
      "a permission change requires a human decision")
  | some actor =>
      if actor.holds [Consent.administer] then .ok actor
      else .error (.administratorRequired
        "granting or restricting authority requires an administrator")

def requireAuthorizedHuman (actor : Option Actor) (message : String) :
    Except PermissionError Actor :=
  match actor.filter Actor.mayGrant with
  | none => .error (.humanDecisionRequired message)
  | some actor => .ok actor

def Permission.withEffect (tenantId permissionId : String)
    (effect : PermissionEffect) (row : Permission) : Permission :=
  if row.tenantId == tenantId && row.permissionId == permissionId then
    { row with effect }
  else row

theorem map_withEffect {Key : Type} {key : Permission → Key}
    (keeps : ∀ row effect, key { row with effect } = key row)
    (tenantId permissionId : String) (effect : PermissionEffect)
    (rows : List Permission) :
    (rows.map (Permission.withEffect tenantId permissionId effect)).map key =
      rows.map key := by
  rw [List.map_map]
  apply List.map_congr_left
  intro row _
  rw [Function.comp_apply, Permission.withEffect]
  split
  · exact keeps row effect
  · rfl

namespace PermissionTable

/-- `update … set effect where permission_id`. -/
def updateEffect (table : PermissionTable) (tenantId permissionId : String)
    (effect : PermissionEffect) : PermissionTable where
  rows := table.rows.map (Permission.withEffect tenantId permissionId effect)
  unique := by
    rw [map_withEffect fun _ _ => by rfl]
    exact table.unique
  primaryKey := by
    rw [map_withEffect fun _ _ => by rfl]
    exact table.primaryKey

def insert? (table : PermissionTable) (row : Permission) :
    Option PermissionTable :=
  if fresh : ((table.rows ++ [row]).map fun row =>
      (row.tenantId, row.branchId, row.principalId, row.dimension)).Nodup ∧
        ((table.rows ++ [row]).map Permission.permissionId).Nodup then
    some ⟨⟨table.rows ++ [row], fresh.1⟩, fresh.2⟩
  else none

def delete (table : PermissionTable) (tenantId branchId principalId : String)
    (dimension : Dimension) : PermissionTable where
  rows := table.rows.filter fun row =>
    !row.decides tenantId branchId principalId dimension
  unique := table.unique.sublist (List.filter_sublist.map _)
  primaryKey := table.primaryKey.sublist (List.filter_sublist.map _)

/-- `_decide`. -/
def decideEffect (table : PermissionTable) (branches : Branches)
    (tenantId branchId principalId : String) (dimension : Dimension)
    (effect : PermissionEffect) (actor : Option Actor)
    (permissionId : String) : Except PermissionError PermissionTable := do
  require (tenantId != "") (.contacts .tenantScopeRequired)
  require (principalId != "")
    (.contacts (.valueError "a permission needs a principal"))
  let _ ← requireAdministrator actor
  match branches.fetchBranch tenantId branchId with
  | none => .error (.contacts .branchNotFound)
  | some _ =>
      match table.rows.find?
          (Permission.decides tenantId branchId principalId dimension) with
      | some existing =>
          pure (table.updateEffect tenantId existing.permissionId effect)
      | none =>
          match table.insert? ⟨permissionId, tenantId, branchId, principalId,
              dimension, effect⟩ with
          | some later => pure later
          | none => .error (.contacts .refused)

def revoke (table : PermissionTable) (tenantId branchId principalId : String)
    (dimension : Dimension) (actor : Option Actor) :
    Except PermissionError (Bool × PermissionTable) := do
  require (tenantId != "") (.contacts .tenantScopeRequired)
  let _ ← requireAdministrator actor
  pure (table.rows.any (Permission.decides tenantId branchId principalId
    dimension), table.delete tenantId branchId principalId dimension)

/-- `effective`, for a principal that may be nobody. -/
def effectiveOf (table : PermissionTable) (branches : Branches)
    (tenantId : String) (actor : Actor) (branchId : String) :
    Except PermissionError (Dimension → Bool) :=
  match table.effective branches tenantId (actor.principalId.getD "")
      branchId with
  | .ok effective => .ok effective
  | .error error => .error (.contacts error)

def setBranchPermission (table : PermissionTable) (branches : Branches)
    (tenantId : String) (actor : Option Actor) (branchId principalId : String)
    (dimension : Dimension) (effect : PermissionEffect)
    (permissionId : String) : Except PermissionError PermissionTable := do
  require (tenantId != "") (.contacts .tenantScopeRequired)
  let human ← requireAuthorizedHuman actor
    "a permission change requires a human decision"
  let effective ← table.effectiveOf branches tenantId human branchId
  require (effective .administer) (.permissionDenied .administer none)
  require (effect != .grant || effective dimension)
    (.permissionDenied dimension (some ("cannot grant " ++ dimension.name ++
      " here: this principal does not hold it")))
  table.decideEffect branches tenantId branchId principalId dimension effect
    actor permissionId

def revokeBranchPermission (table : PermissionTable) (branches : Branches)
    (tenantId : String) (actor : Option Actor) (branchId principalId : String)
    (dimension : Dimension) :
    Except PermissionError (Bool × PermissionTable) := do
  require (tenantId != "") (.contacts .tenantScopeRequired)
  let human ← requireAuthorizedHuman actor
    "a permission change requires a human decision"
  let effective ← table.effectiveOf branches tenantId human branchId
  require (effective .administer) (.permissionDenied .administer none)
  table.revoke tenantId branchId principalId dimension actor

end PermissionTable

inductive PermissionMove where
  | set (effect : PermissionEffect) (permissionId : String)
  | revoke

def PermissionTable.move (table : PermissionTable) (branches : Branches)
    (tenantId : String) (actor : Option Actor) (branchId principalId : String)
    (dimension : Dimension) :
    PermissionMove → Except PermissionError PermissionTable
  | .set effect permissionId =>
      table.setBranchPermission branches tenantId actor branchId principalId
        dimension effect permissionId
  | .revoke =>
      (table.revokeBranchPermission branches tenantId actor branchId
        principalId dimension).map Prod.snd

def Holds (permissions : Permissions) (branches : Branches)
    (tenantId principalId branchId : String) (dimension : Dimension) : Prop :=
  permissions.holds branches tenantId principalId branchId dimension = .ok true

/-- On every branch the grantee holds afterwards no more than it held before or
the actor holds. -/
def NoEscalation (before after : Permissions) (branches : Branches)
    (tenantId actorId principalId : String) : Prop :=
  ∀ branchId dimension,
    Holds after branches tenantId principalId branchId dimension →
      Holds before branches tenantId principalId branchId dimension ∨
        Holds before branches tenantId actorId branchId dimension

namespace Branches

variable {branches : Branches} {tenantId : String}

theorem ancestorsFrom_eq (placed : branches.Placed) {steps more : Nat}
    {seen before : List String} {branch : Branch}
    (member : branch ∈ branches.rows) (tenant : branch.tenantId = tenantId)
    (enough : branch.depth ≤ steps) (also : branch.depth ≤ more)
    (below : ∀ other ∈ branches.rows, other.branchId ∈ seen →
      branch.depth ≤ other.depth)
    (under : ∀ other ∈ branches.rows, other.branchId ∈ before →
      branch.depth ≤ other.depth) :
    branches.ancestorsFrom tenantId steps seen branch.parentBranchId =
      branches.ancestorsFrom tenantId more before branch.parentBranchId := by
  induction steps generalizing branch seen before more with
  | zero =>
      have floor := (branches.legal.checked branch member).depth
      rw [(branches.legal.checked branch member).root.mpr (by omega),
        ancestorsFrom, ancestorsFrom]
  | succ _ induction =>
      cases named : branch.parentBranchId with
      | none => rw [ancestorsFrom, ancestorsFrom]
      | some parentId =>
          obtain ⟨parent, isParent, family⟩ := exists_parent member
            (by rw [named]; exact Option.some_ne_none _)
          have same := isParent.2.2
          rw [named, Option.some.injEq] at same
          have deeper := placed.depth isParent
          have floor := (branches.legal.checked parent isParent.1).depth
          have found : branches.fetchBranch tenantId parentId = some parent :=
            fetchBranch_eq_some.mpr ⟨isParent.1, family.trans tenant, same.symm⟩
          have fresh : ∀ {ids : List String}, (∀ other ∈ branches.rows,
              other.branchId ∈ ids → branch.depth ≤ other.depth) →
                parentId ∉ ids := by
            intro ids least again
            rw [same] at again
            have bound := least parent isParent.1 again
            omega
          have next : ∀ {ids : List String}, (∀ other ∈ branches.rows,
              other.branchId ∈ ids → branch.depth ≤ other.depth) →
                ∀ other ∈ branches.rows, other.branchId ∈ parentId :: ids →
                  parent.depth ≤ other.depth := by
            intro ids least other inside earlier
            rcases List.mem_cons.mp earlier with here | old
            · rw [same] at here
              rw [eq_of_branchId inside isParent.1 here]
            · have bound := least other inside old
              omega
          cases more with
          | zero => omega
          | succ =>
              simp only [ancestorsFrom, if_neg (fresh below),
                if_neg (fresh under), found]
              exact congrArg (parent :: ·) (induction isParent.1
                (family.trans tenant) (by omega) (by omega) (next below)
                (next under))

theorem lineage_root {branch : Branch} (top : branch.parentBranchId = none) :
    branches.lineage tenantId branch = [branch] := by
  rw [lineage, top, ancestorsFrom]

theorem lineage_child (placed : branches.Placed) {parent branch : Branch}
    (isParent : branches.IsParent parent branch)
    (tenant : branch.tenantId = tenantId) :
    branches.lineage tenantId branch =
      branch :: branches.lineage tenantId parent := by
  have family := isParent.tenant.trans tenant
  have deeper := placed.depth isParent
  have short := depth_lt_length placed isParent.2.1
  have found : branches.fetchBranch tenantId parent.branchId = some parent :=
    fetchBranch_eq_some.mpr ⟨isParent.1, family, rfl⟩
  rw [lineage, lineage]
  cases size : branches.rows.length with
  | zero =>
      have floor := (branches.legal.checked parent isParent.1).depth
      omega
  | succ steps =>
      rw [isParent.2.2]
      simp only [ancestorsFrom, List.not_mem_nil, if_false, found]
      rw [ancestorsFrom_eq placed isParent.1 family (by omega)
        (show parent.depth ≤ (steps + 1 : Nat) by omega)]
      · intro other inside earlier
        rw [eq_of_branchId inside isParent.1 (List.mem_singleton.mp earlier)]
      · intro other _ earlier
        cases earlier

theorem depth_le_of_mem_lineage (placed : branches.Placed) {branch : Branch}
    (member : branch ∈ branches.rows) (tenant : branch.tenantId = tenantId) :
    ∀ other ∈ branches.lineage tenantId branch,
      other ∈ branches.rows ∧ other.tenantId = tenantId ∧
        other.depth ≤ branch.depth := by
  obtain ⟨_, inside, top, reaches⟩ := placed.tree.exists_root member
  induction reaches with
  | refl =>
      rw [lineage_root]
      · intro other here
        rw [List.mem_singleton.mp here]
        exact ⟨inside, tenant, le_rfl⟩
      · by_contra named
        obtain ⟨parent, isParent, _⟩ := exists_parent inside named
        exact top parent isParent
  | tail _ isParent induction =>
      rw [lineage_child placed isParent tenant]
      have above := induction isParent.1 (isParent.tenant.trans tenant)
      have deeper := placed.depth isParent
      intro other here
      rcases List.mem_cons.mp here with rfl | higher
      · exact ⟨member, tenant, le_rfl⟩
      · obtain ⟨stored, related, _⟩ := above other higher
        exact ⟨stored, related, by omega⟩

theorem lineage_split (placed : branches.Placed) {branch edited : Branch}
    {nearer above : List Branch} (member : branch ∈ branches.rows)
    (tenant : branch.tenantId = tenantId)
    (split : branches.lineage tenantId branch = nearer ++ edited :: above) :
    branches.lineage tenantId edited = edited :: above := by
  induction nearer generalizing branch with
  | nil =>
      have same : branch = edited := (List.cons.inj split).1
      rw [← same] at split ⊢
      exact split
  | cons _ nearer induction =>
      cases named : branch.parentBranchId with
      | none =>
          rw [lineage_root named] at split
          have empty := (List.cons.inj split).2
          cases nearer <;> cases empty
      | some =>
          obtain ⟨_, isParent, _⟩ := exists_parent member
            (by rw [named]; exact Option.some_ne_none _)
          rw [lineage_child placed isParent tenant] at split
          exact induction isParent.1 (isParent.tenant.trans tenant)
            (List.cons.inj split).2

end Branches

namespace Permissions

variable {branches : Branches} {permissions : Permissions}
  {tenantId principalId : String} {dimension : Dimension}

def own (permissions : Permissions) (tenantId principalId : String)
    (dimension : Dimension) (branch : Branch) : Option PermissionEffect :=
  decisionAt (permissions.rows.filter fun row =>
    row.tenantId == tenantId && row.principalId == principalId &&
      [branch.branchId].contains row.branchId) branch.branchId dimension

theorem own_eq_some_iff {branch : Branch} {effect : PermissionEffect} :
    permissions.own tenantId principalId dimension branch = some effect ↔
      ∃ row ∈ permissions.deciding tenantId principalId dimension,
        row.branchId = branch.branchId ∧ row.effect = effect :=
  decisionAt_eq_some_iff (List.mem_singleton.mpr rfl)

theorem holds_iff {branchId : String} :
    Holds permissions branches tenantId principalId branchId dimension ↔
      tenantId ≠ "" ∧ principalId ≠ "" ∧ ∃ branch,
        branches.fetchBranch tenantId branchId = some branch ∧
          inherited (permissions.own tenantId principalId dimension)
            (branches.lineage tenantId branch) = some .grant := by
  unfold Holds holds effective
  by_cases named : tenantId = ""
  · simp [requireTenant, named, bind, Except.bind]
  by_cases given : principalId = ""
  · simp [requireTenant, named, given, bind, Except.bind, pure, Except.pure]
  cases found : branches.fetchBranch tenantId branchId with
  | none =>
      simp [requireTenant, named, given, bind, Except.bind, pure, Except.pure,
        Branches.ancestry_of_absent named found]
  | some branch =>
      have decisions : (branches.lineage tenantId branch).findSome?
          (fun branch' => decisionAt (permissions.rows.filter fun row =>
            row.tenantId == tenantId && row.principalId == principalId &&
              ((branches.lineage tenantId branch).reverse.map
                Branch.branchId).contains row.branchId) branch'.branchId
              dimension) =
          inherited (permissions.own tenantId principalId dimension)
            (branches.lineage tenantId branch) := by
        refine inherited_congr fun other inside => ?_
        ext effect
        rw [decisionAt_eq_some_iff, own_eq_some_iff]
        exact List.mem_map.mpr ⟨other, List.mem_reverse.mpr inside, rfl⟩
      simp only [requireTenant, if_neg named, if_neg given, bind, Except.bind,
        pure, Except.pure, Branches.ancestry_of_found named found,
        List.reverse_reverse, decisions, Except.ok.injEq, beq_iff_eq]
      constructor
      · exact fun grants => ⟨named, given, branch, rfl, grants⟩
      · rintro ⟨-, -, _, same, grants⟩
        cases same
        exact grants

end Permissions

namespace PermissionTable

variable {table later : PermissionTable} {branches : Branches}
  {tenantId branchId principalId permissionId : String}
  {dimension : Dimension} {effect : PermissionEffect} {actor : Option Actor}

theorem decides_iff {row : Permission} :
    row.decides tenantId branchId principalId dimension = true ↔
      row.tenantId = tenantId ∧ row.branchId = branchId ∧
        row.principalId = principalId ∧ row.dimension = dimension := by
  simp only [Permission.decides, Bool.and_eq_true, beq_iff_eq, and_assoc]

theorem decides_unique {row other : Permission} (member : row ∈ table.rows)
    (also : other ∈ table.rows)
    (decides : row.decides tenantId branchId principalId dimension = true)
    (too : other.decides tenantId branchId principalId dimension = true) :
    row = other := by
  obtain ⟨rfl, rfl, rfl, rfl⟩ := decides_iff.mp decides
  obtain ⟨tenant, branch, principal, dimensions⟩ := decides_iff.mp too
  refine List.inj_on_of_nodup_map table.unique member also ?_
  simp only [tenant, branch, principal, dimensions]

structure Decided (table later : PermissionTable)
    (tenantId branchId principalId : String) (dimension : Dimension)
    (effect : Option PermissionEffect) : Prop where
  others : ∀ row, row.decides tenantId branchId principalId dimension =
    false → (row ∈ later.rows ↔ row ∈ table.rows)
  decides : ∀ chosen ∈ effect, ∃ row ∈ later.rows,
    row.decides tenantId branchId principalId dimension = true
  effects : ∀ row ∈ later.rows,
    row.decides tenantId branchId principalId dimension = true →
      effect = some row.effect

theorem decided_updateEffect {existing : Permission}
    (member : existing ∈ table.rows)
    (decides : existing.decides tenantId branchId principalId dimension =
      true) (effect : PermissionEffect) :
    Decided table (table.updateEffect tenantId existing.permissionId effect)
      tenantId branchId principalId dimension (some effect) := by
  have tenant := (decides_iff.mp decides).1
  have hit : Permission.withEffect tenantId existing.permissionId effect
      existing = { existing with effect } := by
    rw [Permission.withEffect, tenant]
    simp
  have miss : ∀ row ∈ table.rows, row ≠ existing →
      Permission.withEffect tenantId existing.permissionId effect row =
        row := by
    intro row stored apart
    rw [Permission.withEffect, if_neg]
    intro same
    rw [Bool.and_eq_true, beq_iff_eq, beq_iff_eq] at same
    exact apart (List.inj_on_of_nodup_map table.primaryKey stored member same.2)
  constructor
  · intro row undecided
    rw [updateEffect, List.mem_map]
    constructor
    · rintro ⟨old, stored, rfl⟩
      by_cases same : old = existing
      · rw [same, hit] at undecided
        rw [show Permission.decides tenantId branchId principalId dimension
          { existing with effect } = true from decides] at undecided
        cases undecided
      · rw [miss old stored same]
        exact stored
    · intro stored
      refine ⟨row, stored, miss row stored ?_⟩
      rintro rfl
      rw [decides] at undecided
      cases undecided
  · intro _ _
    exact ⟨{ existing with effect }, hit ▸ List.mem_map_of_mem member, decides⟩
  · intro row inside too
    obtain ⟨old, stored, rfl⟩ := List.mem_map.mp inside
    by_cases same : old = existing
    · rw [same, hit]
    · rw [miss old stored same] at too
      exact absurd (decides_unique stored member too decides) same

theorem decided_insert
    (absent : ∀ row ∈ table.rows,
      row.decides tenantId branchId principalId dimension = false)
    (inserted : table.insert? ⟨permissionId, tenantId, branchId, principalId,
      dimension, effect⟩ = some later) :
    Decided table later tenantId branchId principalId dimension
      (some effect) := by
  unfold insert? at inserted
  split at inserted
  · cases inserted
    have decides : Permission.decides tenantId branchId principalId dimension
        ⟨permissionId, tenantId, branchId, principalId, dimension, effect⟩ =
          true := by
      rw [decides_iff]
      exact ⟨rfl, rfl, rfl, rfl⟩
    constructor
    · intro row undecided
      rw [List.mem_append, List.mem_singleton, or_iff_left]
      rintro rfl
      rw [decides] at undecided
      cases undecided
    · intro _ _
      exact ⟨_, List.mem_append_right _ List.mem_cons_self, decides⟩
    · intro row inside too
      rcases List.mem_append.mp inside with old | new
      · rw [absent row old] at too
        cases too
      · rw [List.mem_singleton.mp new]
  · cases inserted

theorem decided_delete (table : PermissionTable)
    (tenantId branchId principalId : String) (dimension : Dimension) :
    Decided table (table.delete tenantId branchId principalId dimension)
      tenantId branchId principalId dimension none := by
  constructor
  · intro row undecided
    rw [delete, List.mem_filter, undecided]
    exact and_iff_left rfl
  · intro _ none
    cases none
  · intro row inside decides
    rw [delete, List.mem_filter, decides] at inside
    cases inside.2

theorem decided_decideEffect
    (done : table.decideEffect branches tenantId branchId principalId dimension
      effect actor permissionId = .ok later) :
    Decided table later tenantId branchId principalId dimension
      (some effect) := by
  simp only [decideEffect, bind_eq_ok, require_eq_ok] at done
  obtain ⟨_, _, _, _, _, _, rest⟩ := done
  split at rest
  · cases rest
  · split at rest
    · rename_i existing found
      cases rest
      exact decided_updateEffect (List.mem_of_find?_eq_some found)
        (List.find?_some found) effect
    · rename_i absent
      split at rest
      · rename_i inserted
        cases rest
        refine decided_insert (fun row stored => ?_) inserted
        have undecided := List.find?_eq_none.mp absent row stored
        exact Bool.eq_false_iff.mpr undecided
      · cases rest

variable {chosen : Option PermissionEffect} {branch : Branch}

theorem Decided.own_elsewhere (decided : Decided table later tenantId branchId
    principalId dimension chosen) {granteeId : String} {asked : Dimension}
    (apart : granteeId ≠ principalId ∨ asked ≠ dimension ∨
      branch.branchId ≠ branchId) :
    later.own tenantId granteeId asked branch =
      table.own tenantId granteeId asked branch := by
  ext effect
  rw [Permissions.own_eq_some_iff, Permissions.own_eq_some_iff]
  refine exists_congr fun row => ?_
  rw [Permissions.mem_deciding, Permissions.mem_deciding]
  have kept (principal : row.principalId = granteeId)
      (dimensions : row.dimension = asked)
      (same : row.branchId = branch.branchId) :
      row ∈ later.rows ↔ row ∈ table.rows := by
    refine decided.others row ?_
    rw [Bool.eq_false_iff, ne_eq, decides_iff]
    rintro ⟨_, named, granted, also⟩
    rcases apart with other | other | other
    · exact other (principal.symm.trans granted)
    · exact other (dimensions.symm.trans also)
    · exact other (same.symm.trans named)
  constructor
  · rintro ⟨⟨inside, tenant, principal, dimensions⟩, same, effects⟩
    exact ⟨⟨(kept principal dimensions same).mp inside, tenant, principal,
      dimensions⟩, same, effects⟩
  · rintro ⟨⟨inside, tenant, principal, dimensions⟩, same, effects⟩
    exact ⟨⟨(kept principal dimensions same).mpr inside, tenant, principal,
      dimensions⟩, same, effects⟩

theorem Decided.own_edited (decided : Decided table later tenantId branchId
    principalId dimension chosen) (same : branch.branchId = branchId) :
    later.own tenantId principalId dimension branch = chosen := by
  have effects : ∀ row ∈ later.deciding tenantId principalId dimension,
      row.branchId = branch.branchId → chosen = some row.effect := by
    intro row inside named
    obtain ⟨stored, tenant, principal, dimensions⟩ :=
      Permissions.mem_deciding.mp inside
    exact decided.effects row stored (decides_iff.mpr
      ⟨tenant, named.trans same, principal, dimensions⟩)
  ext effect
  rw [Permissions.own_eq_some_iff]
  constructor
  · rintro ⟨row, inside, named, rfl⟩
    exact effects row inside named
  · intro chooses
    obtain ⟨row, stored, decides⟩ := decided.decides effect chooses
    obtain ⟨tenant, named, principal, dimensions⟩ := decides_iff.mp decides
    have inside : row ∈ later.deciding tenantId principalId dimension :=
      Permissions.mem_deciding.mpr ⟨stored, tenant, principal, dimensions⟩
    have chose := effects row inside (named.trans same.symm)
    rw [chooses, Option.some.injEq] at chose
    exact ⟨row, inside, named.trans same.symm, chose.symm⟩

end PermissionTable

def PermissionMove.decision : PermissionMove → Option PermissionEffect
  | .set effect _ => some effect
  | .revoke => none

/-- A move opens the dimension where it grants it, and where it withdraws a
decision under a parent on which the grantee holds it. -/
def PermissionMove.Opens (table : PermissionTable) (branches : Branches)
    (tenantId branchId principalId : String) (dimension : Dimension) :
    PermissionMove → Prop
  | .set effect _ => effect = .grant
  | .revoke => ∃ branch ∈ branches.fetchBranch tenantId branchId, ∃ parent,
      branches.IsParent parent branch ∧ Holds table.toPermissions branches
        tenantId principalId parent.branchId dimension

/-- On every branch that takes its decision from the edited one, the grantee
holds the dimension already or the actor holds it. -/
def WithinActor (table : PermissionTable) (branches : Branches)
    (tenantId actorId branchId principalId : String) (dimension : Dimension) :
    Prop :=
  ∀ edited ∈ branches.fetchBranch tenantId branchId, ∀ branch ∈ branches.rows,
    branch.tenantId = tenantId →
    TakesFrom (table.own tenantId principalId dimension) edited
      (branches.lineage tenantId branch) →
    Holds table.toPermissions branches tenantId principalId branch.branchId
        dimension ∨
      Holds table.toPermissions branches tenantId actorId branch.branchId
        dimension

namespace PermissionTable

variable {table later : PermissionTable} {branches : Branches}
  {tenantId branchId principalId : String} {dimension : Dimension}
  {actor : Option Actor} {move : PermissionMove} {branch edited : Branch}

theorem move_ok (done : table.move branches tenantId actor branchId principalId
    dimension move = .ok later) :
    tenantId ≠ "" ∧ (move ≠ .revoke → principalId ≠ "") ∧
      Decided table later tenantId branchId principalId dimension
        move.decision := by
  cases move with
  | set =>
      simp only [PermissionTable.move, setBranchPermission, bind_eq_ok,
        require_eq_ok] at done
      obtain ⟨_, named, _, _, _, _, _, _, _, _, done⟩ := done
      refine ⟨by simpa using named, fun _ => ?_, decided_decideEffect done⟩
      simp only [decideEffect, bind_eq_ok, require_eq_ok] at done
      obtain ⟨_, _, _, given, _⟩ := done
      simpa using given
  | revoke =>
      simp only [PermissionTable.move, Except.map] at done
      split at done
      · cases done
      · rename_i result revoked
        cases done
        simp only [revokeBranchPermission, revoke, bind_eq_ok, require_eq_ok]
          at revoked
        obtain ⟨_, named, _, _, _, _, _, _, _, _, _, _, same⟩ := revoked
        cases same
        exact ⟨by simpa using named, fun other => absurd rfl other,
          decided_delete table tenantId branchId principalId dimension⟩

section Placed

variable (placed : branches.Placed)
  (done : table.move branches tenantId actor branchId principalId dimension move = .ok later)

include placed done

theorem holds_takesFrom
    (found : branches.fetchBranch tenantId branchId = some edited)
    (member : branch ∈ branches.rows) (tenant : branch.tenantId = tenantId)
    (takes : TakesFrom (table.own tenantId principalId dimension) edited
      (branches.lineage tenantId branch)) :
    Holds later.toPermissions branches tenantId principalId branch.branchId
        dimension ↔
      move.Opens table branches tenantId branchId principalId dimension := by
  obtain ⟨named, given, decided⟩ := move_ok done
  obtain ⟨inside, family, id⟩ := Branches.fetchBranch_eq_some.mp found
  obtain ⟨nearer, above, split, undecided⟩ := takes
  have upwards := Branches.lineage_split placed member tenant split
  have stored : ∀ other ∈ nearer, other ∈ branches.rows := by
    intro other near
    refine (Branches.depth_le_of_mem_lineage placed member tenant other ?_).1
    rw [split]
    exact List.mem_append_left _ near
  have inherits : inherited (later.own tenantId principalId dimension)
      (branches.lineage tenantId branch) = move.decision.or
        (inherited (later.own tenantId principalId dimension) above) := by
    rw [split, inherited_edited (fun node near apart =>
      decided.own_elsewhere (.inr (.inr fun same => apart
        (Branches.eq_of_branchId (stored node near) inside
          (same.trans id.symm))))) undecided, decided.own_edited id]
  have present : branches.fetchBranch tenantId branch.branchId = some branch :=
    Branches.fetchBranch_eq_some.mpr ⟨member, tenant, rfl⟩
  rw [Permissions.holds_iff]
  simp only [present, Option.some.injEq, exists_eq_left', inherits]
  cases move with
  | set =>
      have nonempty := given (fun same => by cases same)
      simp only [PermissionMove.decision, PermissionMove.Opens,
        Option.some_or, Option.some.injEq]
      exact ⟨fun holds => holds.2.2, fun grants => ⟨named, nonempty, grants⟩⟩
  | revoke =>
      simp only [PermissionMove.decision, PermissionMove.Opens, Option.none_or,
        found, Option.mem_def, Option.some.injEq, exists_eq_left']
      cases top : edited.parentBranchId with
      | none =>
          rw [Branches.lineage_root top] at upwards
          have empty := (List.cons.inj upwards).2
          rw [← empty]
          constructor
          · rintro ⟨_, _, grants⟩
            cases grants
          · rintro ⟨parent, isParent, _⟩
            rw [isParent.2.2] at top
            cases top
      | some =>
          obtain ⟨parent, isParent, _⟩ := Branches.exists_parent inside
            (by rw [top]; exact Option.some_ne_none _)
          rw [Branches.lineage_child placed isParent family] at upwards
          have higher := (List.cons.inj upwards).2
          have related := isParent.tenant.trans family
          have kept : inherited (later.own tenantId principalId dimension)
              above = inherited (table.own tenantId principalId dimension)
                above := by
            apply inherited_congr
            intro node near
            rw [← higher] at near
            obtain ⟨known, -, shallow⟩ :=
              Branches.depth_le_of_mem_lineage placed isParent.1 related node
                near
            refine decided.own_elsewhere (.inr (.inr fun same => ?_))
            have equal := Branches.eq_of_branchId known inside
              (same.trans id.symm)
            have deeper := placed.depth isParent
            rw [equal] at shallow
            omega
          have located : branches.fetchBranch tenantId parent.branchId =
              some parent :=
            Branches.fetchBranch_eq_some.mpr ⟨isParent.1, related, rfl⟩
          rw [kept, ← higher]
          constructor
          · rintro ⟨_, nonempty, grants⟩
            refine ⟨parent, isParent, Permissions.holds_iff.mpr
              ⟨named, nonempty, parent, located, grants⟩⟩
          · rintro ⟨_, also, holds⟩
            rw [placed.tree.parent_unique also isParent] at holds
            obtain ⟨_, nonempty, _, again, grants⟩ :=
              Permissions.holds_iff.mp holds
            cases located.symm.trans again
            exact ⟨named, nonempty, grants⟩

theorem holds_elsewhere {askedId : String} {asked : Dimension}
    (holds : Holds later.toPermissions branches tenantId principalId askedId
      asked) :
    Holds table.toPermissions branches tenantId principalId askedId asked ∨
      asked = dimension ∧ ∃ edited ∈ branches.fetchBranch tenantId branchId,
        ∃ branch ∈ branches.rows, branch.branchId = askedId ∧
          branch.tenantId = tenantId ∧
          TakesFrom (table.own tenantId principalId dimension) edited
            (branches.lineage tenantId branch) := by
  obtain ⟨named, _, decided⟩ := move_ok done
  obtain ⟨_, nonempty, branch, found, grants⟩ := Permissions.holds_iff.mp holds
  obtain ⟨member, tenant, rfl⟩ := Branches.fetchBranch_eq_some.mp found
  have rows := Branches.depth_le_of_mem_lineage placed member tenant
  by_cases same : asked = dimension
  · subst same
    cases present : branches.fetchBranch tenantId branchId with
    | none =>
        refine .inl (Permissions.holds_iff.mpr
          ⟨named, nonempty, branch, found, ?_⟩)
        rw [← grants]
        refine (inherited_congr fun node near => ?_).symm
        obtain ⟨stored, related, _⟩ := rows node near
        refine decided.own_elsewhere (.inr (.inr fun id => ?_))
        rw [Branches.fetchBranch_eq_some.mpr ⟨stored, related, id⟩] at present
        cases present
    | some edited =>
        obtain ⟨inside, _, id⟩ := Branches.fetchBranch_eq_some.mp present
        have cases := @inherited_or_takesFrom _ _
          (table.own tenantId principalId asked)
          (later.own tenantId principalId asked) edited
          (branches.lineage tenantId branch) _ fun node near apart =>
            decided.own_elsewhere (.inr (.inr fun same => apart
              (Branches.eq_of_branchId (rows node near).1 inside
                (same.trans id.symm))))
        rcases cases with kept | takes
        · rw [kept] at grants
          exact .inl (Permissions.holds_iff.mpr
            ⟨named, nonempty, branch, found, grants⟩)
        · exact .inr ⟨rfl, edited, rfl, branch, member, rfl, tenant, takes⟩
  · refine .inl (Permissions.holds_iff.mpr ⟨named, nonempty, branch, found, ?_⟩)
    rw [← grants]
    exact (inherited_congr fun node _ =>
      decided.own_elsewhere (.inr (.inl same))).symm

end Placed

/-- After a move of the editor a grantee holds on every branch no more than it
held or the actor holds, exactly where the move opens nothing or the branches
that take their decision from the edited one are within that. -/
theorem noEscalation_iff (placed : branches.Placed) (table : PermissionTable)
    {later : PermissionTable} (tenantId branchId principalId : String)
    (actor : Actor) (dimension : Dimension) (move : PermissionMove)
    (done : table.move branches tenantId (some actor) branchId principalId
      dimension move = .ok later) :
    NoEscalation table.toPermissions later.toPermissions branches tenantId
        (actor.principalId.getD "") principalId ↔
      (move.Opens table branches tenantId branchId principalId dimension →
        WithinActor table branches tenantId (actor.principalId.getD "")
          branchId principalId dimension) := by
  constructor
  · intro contained opens edited found branch member tenant takes
    exact contained branch.branchId dimension ((holds_takesFrom placed done
      found member tenant takes).mpr opens)
  · intro within askedId asked holds
    rcases holds_elsewhere placed done holds with
      kept | ⟨rfl, edited, found, branch, member, rfl, tenant, takes⟩
    · exact .inl kept
    · have opens := (holds_takesFrom placed done found member tenant takes).mp
        holds
      exact within opens edited found branch member tenant takes

def financeCalls : List BranchCall :=
  [.createBranch "org:acme" "acme" .organization none none "branch:1" none,
    .createBranch "org:acme" "finance" .folder (some "branch:1") none
      "branch:2" none]

def finance : Branches :=
  run (branchStep asciiLibrary) Branches.empty financeCalls

def ann : Actor := ⟨.human, some "principal:ann", [Consent.administer]⟩

def annRows : List Permission := [
  ⟨"perm:1", "org:acme", "branch:1", "principal:ann", .administer, .grant⟩,
  ⟨"perm:2", "org:acme", "branch:1", "principal:ann", .view, .grant⟩,
  ⟨"perm:3", "org:acme", "branch:2", "principal:ann", .view, .restrict⟩,
  ⟨"perm:4", "org:acme", "branch:1", "principal:bob", .campaignUse, .grant⟩,
  ⟨"perm:5", "org:acme", "branch:2", "principal:bob", .campaignUse, .restrict⟩]

def annTable : PermissionTable := ⟨⟨annRows, by decide⟩, by decide⟩

theorem reaches_rows {table : PermissionTable}
    {moved : Except PermissionError PermissionTable}
    (rows : moved.toOption.map (fun later => later.rows) = some table.rows) :
    ∃ later, moved = .ok later ∧ later.toPermissions = table.toPermissions := by
  cases moved with
  | error => cases rows
  | ok later =>
      refine ⟨later, rfl, ?_⟩
      have same : later.rows = table.rows := Option.some.inj rows
      obtain ⟨⟨laterRows, _⟩, _⟩ := later
      obtain ⟨⟨tableRows, _⟩, _⟩ := table
      cases same
      rfl

def seen : PermissionTable :=
  ⟨⟨annRows ++ [⟨"perm:6", "org:acme", "branch:1", "principal:bob", .view,
    .grant⟩], by decide⟩, by decide⟩

def unrestricted : PermissionTable := ⟨⟨annRows.take 4, by decide⟩, by decide⟩

/-- A grant on the directory opens the folder that the administrator does not
see, and a restriction that is withdrawn opens what the administrator does not
hold. -/
theorem escalation_below :
    (∃ later, annTable.move finance "org:acme" (some ann) "branch:1"
        "principal:bob" .view (.set .grant "perm:6") = .ok later ∧
      ¬ NoEscalation annTable.toPermissions later.toPermissions finance
        "org:acme" "principal:ann" "principal:bob") ∧
    ∃ later, annTable.move finance "org:acme" (some ann) "branch:2"
        "principal:bob" .campaignUse .revoke = .ok later ∧
      ¬ NoEscalation annTable.toPermissions later.toPermissions finance
        "org:acme" "principal:ann" "principal:bob" := by
  constructor
  · obtain ⟨later, done, same⟩ := @reaches_rows seen
      (annTable.move finance "org:acme" (some ann) "branch:1" "principal:bob"
        .view (.set .grant "perm:6")) (by decide +kernel)
    refine ⟨later, done, fun contained => ?_⟩
    rw [same] at contained
    have opened := contained "branch:2" .view
    unfold Holds at opened
    exact absurd opened (by decide +kernel)
  · obtain ⟨later, done, same⟩ := @reaches_rows unrestricted
      (annTable.move finance "org:acme" (some ann) "branch:2" "principal:bob"
        .campaignUse .revoke) (by decide +kernel)
    refine ⟨later, done, fun contained => ?_⟩
    rw [same] at contained
    have opened := contained "branch:2" .campaignUse
    unfold Holds at opened
    exact absurd opened (by decide +kernel)

def administered : PermissionTable :=
  ⟨⟨annRows ++ [⟨"perm:6", "org:acme", "branch:1", "principal:bob",
    .administer, .grant⟩], by decide⟩, by decide⟩

theorem noEscalation_iff_administer :
    ∃ later, annTable.move finance "org:acme" (some ann) "branch:1"
        "principal:bob" .administer (.set .grant "perm:6") = .ok later ∧
      NoEscalation annTable.toPermissions later.toPermissions finance
        "org:acme" "principal:ann" "principal:bob" := by
  obtain ⟨later, done, _⟩ := @reaches_rows administered
    (annTable.move finance "org:acme" (some ann) "branch:1" "principal:bob"
      .administer (.set .grant "perm:6")) (by decide +kernel)
  refine ⟨later, done, (noEscalation_iff
    (Branches.placed_run asciiLibrary financeCalls) annTable "org:acme"
    "branch:1" "principal:bob" ann .administer _ done).mpr ?_⟩
  intro opens edited found branch member tenant takes
  have held : ∀ branch ∈ finance.rows, annTable.holds finance "org:acme"
      "principal:ann" branch.branchId .administer = .ok true := by
    decide +kernel
  exact .inr (held branch member)

end PermissionTable

end AcpTask.Contacts
