import AcpTask.Contacts.Nearest
import AcpTask.Contacts.Ownership

namespace AcpTask.Contacts

open Library

namespace Permissions

variable {branches : Branches} {tenantId : String}

def decided (branches : Branches) (tenantId : String)
    (rows : List Permission) : List (Text × PermissionEffect) :=
  rows.filterMap fun row => (branches.fetchBranch tenantId
    row.branchId).map fun root => (root.path, row.effect)

def reached (branches : Branches) (tenantId : String)
    (rows : List Permission) : List (String × Text) :=
  rows.flatMap fun row => ((branches.fetchBranch tenantId
    row.branchId).map fun root =>
      (root :: branches.fetchDescendants tenantId root.path).map fun branch =>
        (branch.branchId, branch.path)).getD []

theorem foldl_gather (named : tenantId ≠ "") (rows : List Permission)
    (gathered : Gathered) :
    rows.foldl (gather branches tenantId) gathered = {
      decisions := Items.assignAll gathered.decisions
        (decided branches tenantId rows)
      candidates := Items.assignAll gathered.candidates
        (reached branches tenantId rows) } := by
  induction rows generalizing gathered with
  | nil => rfl
  | cons row _ induction =>
      rw [List.foldl_cons, induction]
      unfold gather Branches.subtree requireTenant
      rw [if_neg named]
      cases found : branches.fetchBranch tenantId row.branchId with
      | none => simp [decided, reached, found, bind, Except.bind]
      | some =>
          simp [decided, reached, found, bind, Except.bind, pure, Except.pure,
            Items.assignAll, List.foldl_append, List.foldl_map]

theorem mem_decided {rows : List Permission}
    {item : Text × PermissionEffect} :
    item ∈ decided branches tenantId rows ↔
      ∃ row ∈ rows, ∃ root, branches.fetchBranch tenantId row.branchId =
        some root ∧ item = (root.path, row.effect) := by
  rw [decided, List.mem_filterMap]
  refine exists_congr fun row => and_congr_right fun _ => ?_
  rw [Option.map_eq_some_iff]
  exact exists_congr fun root => and_congr_right fun _ => eq_comm

theorem mem_reached {rows : List Permission} (placed : branches.Placed)
    {item : String × Text} :
    item ∈ reached branches tenantId rows ↔
      ∃ row ∈ rows, ∃ root, branches.fetchBranch tenantId row.branchId =
        some root ∧ ∃ branch, (branch = root ∨ branches.Below root branch) ∧
          item = (branch.branchId, branch.path) := by
  rw [reached, List.mem_flatMap]
  refine exists_congr fun row => and_congr_right fun _ => ?_
  cases found : branches.fetchBranch tenantId row.branchId with
  | none => simp
  | some root =>
      obtain ⟨member, tenant, _⟩ := Branches.fetchBranch_eq_some.mp found
      rw [Option.map_some, Option.getD_some, List.mem_map]
      constructor
      · rintro ⟨branch, inside, rfl⟩
        refine ⟨root, rfl, branch, ?_, rfl⟩
        rcases List.mem_cons.mp inside with same | below
        · exact .inl same
        · exact .inr ((placed.mem_fetchDescendants member tenantId
            tenant).mp below)
      · rintro ⟨_, same, branch, inside, rfl⟩
        cases same
        refine ⟨branch, List.mem_cons.mpr ?_, rfl⟩
        exact inside.imp id (placed.mem_fetchDescendants member tenantId
          tenant).mpr

def deciding (permissions : Permissions) (tenantId principalId : String)
    (dimension : Dimension) : List Permission :=
  permissions.rows.filter fun row =>
    row.tenantId == tenantId && row.principalId == principalId &&
      row.dimension == dimension

variable {permissions : Permissions} {principalId : String}
  {dimension : Dimension}

theorem mem_deciding {row : Permission} :
    row ∈ permissions.deciding tenantId principalId dimension ↔
      row ∈ permissions.rows ∧ row.tenantId = tenantId ∧
        row.principalId = principalId ∧ row.dimension = dimension := by
  rw [deciding, List.mem_filter, Bool.and_eq_true, Bool.and_eq_true,
    beq_iff_eq, beq_iff_eq, beq_iff_eq, and_assoc]

theorem eq_of_deciding {row other : Permission}
    (member : row ∈ permissions.deciding tenantId principalId dimension)
    (also : other ∈ permissions.deciding tenantId principalId dimension)
    (same : row.branchId = other.branchId) : row = other := by
  obtain ⟨inside, tenant, principal, dimensions⟩ := mem_deciding.mp member
  obtain ⟨within, tenants, principals, others⟩ := mem_deciding.mp also
  refine List.inj_on_of_nodup_map permissions.unique inside within ?_
  simp [tenant, tenants, principal, principals, dimensions, others, same]

theorem gathered_spec (placed : branches.Placed) (permissions : Permissions)
    (named : tenantId ≠ "") (principalId : String) (dimension : Dimension) :
    let gathered := (permissions.deciding tenantId principalId
      dimension).foldl (gather branches tenantId) {}
    (gathered.decisions.map Prod.fst).Nodup ∧
      (∀ item, item ∈ gathered.decisions ↔ item ∈ decided branches tenantId
        (permissions.deciding tenantId principalId dimension)) ∧
      ∀ item, item ∈ gathered.candidates ↔ item ∈ reached branches tenantId
        (permissions.deciding tenantId principalId dimension) := by
  have agreeDecided : ∀ first ∈ decided branches tenantId
      (permissions.deciding tenantId principalId dimension),
      ∀ second ∈ decided branches tenantId
        (permissions.deciding tenantId principalId dimension),
        first.1 = second.1 → first = second := by
    intro first member second also same
    obtain ⟨row, deciding, root, found, rfl⟩ := mem_decided.mp member
    obtain ⟨other, decides, _, known, rfl⟩ := mem_decided.mp also
    obtain ⟨inside, tenant, id⟩ := Branches.fetchBranch_eq_some.mp found
    obtain ⟨within, family, other⟩ := Branches.fetchBranch_eq_some.mp known
    have equal := placed.tree.distinct inside within
      (tenant.trans family.symm) same
    subst equal
    rw [eq_of_deciding deciding decides (id.symm.trans other)]
  have agreeReached : ∀ first ∈ reached branches tenantId
      (permissions.deciding tenantId principalId dimension),
      ∀ second ∈ reached branches tenantId
        (permissions.deciding tenantId principalId dimension),
        first.1 = second.1 → first = second := by
    have rows : ∀ {row root branch}, branches.fetchBranch tenantId row =
        some root → (branch = root ∨ branches.Below root branch) →
          branch ∈ branches.rows := by
      intro row root branch found inside
      rcases inside with rfl | below
      · exact (Branches.fetchBranch_eq_some.mp found).1
      · cases below with
        | single isParent | tail _ isParent => exact isParent.2.1
    intro first member second also same
    obtain ⟨_, _, _, found, _, inside, rfl⟩ := (mem_reached placed).mp member
    obtain ⟨_, _, _, known, _, within, rfl⟩ := (mem_reached placed).mp also
    rw [Branches.eq_of_branchId (rows found inside) (rows known within) same]
  simp only [foldl_gather named]
  obtain ⟨distinct, decisions⟩ :=
    @Items.assignAll_spec _ _ _ [] _ List.nodup_nil agreeDecided
  obtain ⟨_, candidates⟩ :=
    @Items.assignAll_spec _ _ _ [] _ List.nodup_nil agreeReached
  refine ⟨distinct, fun item => ?_, fun item => ?_⟩
  · exact (decisions item).trans (or_iff_right List.not_mem_nil)
  · exact (candidates item).trans (or_iff_right List.not_mem_nil)

theorem decisionAt_eq_some_iff {branchId : String} {effect : PermissionEffect}
    {ids : List String} (asked : branchId ∈ ids) :
    decisionAt (permissions.rows.filter fun row =>
        row.tenantId == tenantId && row.principalId == principalId &&
          ids.contains row.branchId) branchId dimension = some effect ↔
      ∃ row ∈ permissions.deciding tenantId principalId dimension,
        row.branchId = branchId ∧ row.effect = effect := by
  have members : ∀ row, row ∈ (permissions.rows.filter fun row =>
      row.tenantId == tenantId && row.principalId == principalId &&
        ids.contains row.branchId).filter (fun row =>
          row.branchId == branchId && row.dimension == dimension) ↔
      row ∈ permissions.deciding tenantId principalId dimension ∧
        row.branchId = branchId := by
    intro row
    simp only [List.mem_filter, mem_deciding, Bool.and_eq_true, beq_iff_eq,
      List.contains_iff_mem]
    constructor
    · rintro ⟨⟨inside, ⟨tenant, principal⟩, _⟩, same, dimensions⟩
      exact ⟨⟨inside, tenant, principal, dimensions⟩, same⟩
    · rintro ⟨⟨inside, tenant, principal, dimensions⟩, rfl⟩
      exact ⟨⟨inside, ⟨tenant, principal⟩, asked⟩, rfl, dimensions⟩
  rw [decisionAt, Option.map_eq_some_iff]
  constructor
  · rintro ⟨row, last, effects⟩
    obtain ⟨deciding, same⟩ := (members row).mp (List.mem_of_getLast? last)
    exact ⟨row, deciding, same, effects⟩
  · rintro ⟨row, deciding, same, effects⟩
    have inside := (members row).mpr ⟨deciding, same⟩
    obtain ⟨last, found⟩ := Option.ne_none_iff_exists'.mp
      (mt List.getLast?_eq_none_iff.mp (List.ne_nil_of_mem inside))
    obtain ⟨decides, also⟩ := (members last).mp (List.mem_of_getLast? found)
    refine ⟨last, found, ?_⟩
    rw [eq_of_deciding decides deciding (also.trans same.symm)]
    exact effects

theorem decisionAt_eq_get? (placed : branches.Placed)
    (permissions : Permissions) {items : List (Text × PermissionEffect)}
    (distinct : (items.map Prod.fst).Nodup)
    (decisions : ∀ item, item ∈ items ↔ item ∈ decided branches tenantId
      (permissions.deciding tenantId principalId dimension)) {branch : Branch}
    (member : branch ∈ branches.rows) (tenant : branch.tenantId = tenantId)
    {ids : List String} (asked : branch.branchId ∈ ids) :
    decisionAt (permissions.rows.filter fun row =>
        row.tenantId == tenantId && row.principalId == principalId &&
          ids.contains row.branchId) branch.branchId dimension =
      Items.get? items branch.path := by
  ext effect
  rw [decisionAt_eq_some_iff asked, Items.get?_eq_some_iff distinct,
    decisions, mem_decided]
  refine exists_congr fun row => and_congr_right fun _ => ?_
  constructor
  · rintro ⟨same, rfl⟩
    refine ⟨branch, ?_, rfl⟩
    rw [same]
    exact Branches.fetchBranch_eq_some.mpr ⟨member, tenant, rfl⟩
  · rintro ⟨_, found, same⟩
    obtain ⟨inside, family, id⟩ := Branches.fetchBranch_eq_some.mp found
    obtain ⟨path, effects⟩ := Prod.mk.inj same
    rw [placed.tree.distinct member inside (tenant.trans family.symm) path]
    exact ⟨id.symm, effects.symm⟩

end Permissions

namespace Branches

variable {branches : Branches} {tenantId : String}

theorem mem_of_mem_ancestorsFrom {steps : Nat} {seen : List String}
    {parentBranchId : Option String} {branch : Branch}
    (member : branch ∈ branches.ancestorsFrom tenantId steps seen
      parentBranchId) :
    branch ∈ branches.rows ∧ branch.tenantId = tenantId := by
  induction steps generalizing seen parentBranchId with
  | zero => cases parentBranchId <;> cases member
  | succ steps induction =>
      cases parentBranchId with
      | none => cases member
      | some parentId =>
          simp only [ancestorsFrom] at member
          split at member
          · cases member
          · split at member
            · cases member
            · rename_i parent found
              rcases List.mem_cons.mp member with rfl | above
              · obtain ⟨inside, tenant, _⟩ := fetchBranch_eq_some.mp found
                exact ⟨inside, tenant⟩
              · exact induction above

def lineage (branches : Branches) (tenantId : String) (branch : Branch) :
    List Branch :=
  branch :: branches.ancestorsFrom tenantId branches.rows.length []
    branch.parentBranchId

theorem ancestry_of_found (named : tenantId ≠ "") {branchId : String}
    {branch : Branch}
    (found : branches.fetchBranch tenantId branchId = some branch) :
    branches.ancestry tenantId branchId =
      .ok (branches.lineage tenantId branch).reverse := by
  simp [ancestry, ancestors, requireTenant, if_neg named, found, bind,
    Except.bind, pure, Except.pure, lineage]

theorem ancestry_of_absent (named : tenantId ≠ "") {branchId : String}
    (absent : branches.fetchBranch tenantId branchId = none) :
    branches.ancestry tenantId branchId = .ok [] := by
  simp [ancestry, requireTenant, if_neg named, absent, bind, Except.bind,
    pure, Except.pure]

end Branches

namespace Permissions

variable {branches : Branches} {tenantId principalId : String}

theorem findSome_congr {Item Found : Type} {first second : Item → Option Found}
    {items : List Item} (same : ∀ item ∈ items, first item = second item) :
    items.findSome? first = items.findSome? second := by
  induction items with
  | nil => rfl
  | cons item _ induction =>
      rw [List.findSome?_cons, List.findSome?_cons,
        same item List.mem_cons_self,
        induction fun other member => same other (.tail _ member)]

theorem holds_of_found (placed : branches.Placed) (permissions : Permissions)
    (named : tenantId ≠ "") (given : principalId ≠ "") {branchId : String}
    {branch : Branch}
    (found : branches.fetchBranch tenantId branchId = some branch)
    {dimension : Dimension} {items : List (Text × PermissionEffect)}
    (distinct : (items.map Prod.fst).Nodup)
    (decisions : ∀ item, item ∈ items ↔ item ∈ decided branches tenantId
      (permissions.deciding tenantId principalId dimension)) :
    permissions.holds branches tenantId principalId branchId dimension =
      .ok (nearestDecision branch.path items == some .grant) := by
  obtain ⟨member, tenant, _⟩ := Branches.fetchBranch_eq_some.mp found
  have known : branches.Known tenantId items := by
    intro item inside
    obtain ⟨_, _, root, located, rfl⟩ :=
      mem_decided.mp ((decisions item).mp inside)
    obtain ⟨within, family, _⟩ := Branches.fetchBranch_eq_some.mp located
    exact ⟨root, within, family, rfl⟩
  have nearest := Branches.findSome_ancestorsFrom placed distinct known
    branches.rows.length [] member tenant
    (Int.le_of_lt (Branches.depth_lt_length placed member))
    fun _ _ seen => by cases seen
  have same : ∀ other ∈ branches.lineage tenantId branch,
      decisionAt (permissions.rows.filter fun row =>
        row.tenantId == tenantId && row.principalId == principalId &&
          ((branches.lineage tenantId branch).reverse.map
            Branch.branchId).contains row.branchId) other.branchId dimension =
        Items.get? items other.path := by
    intro other inside
    have both : other ∈ branches.rows ∧ other.tenantId = tenantId := by
      rcases List.mem_cons.mp inside with rfl | above
      · exact ⟨member, tenant⟩
      · exact Branches.mem_of_mem_ancestorsFrom above
    exact decisionAt_eq_get? placed permissions distinct decisions both.1
      both.2 (List.mem_map.mpr ⟨other, List.mem_reverse.mpr inside, rfl⟩)
  have whole := (findSome_congr same).trans nearest
  rw [← whole]
  simp only [holds, effective, requireTenant, if_neg named, if_neg given,
    Branches.ancestry_of_found named found, bind, Except.bind, pure,
    Except.pure, List.reverse_reverse]

theorem authorizedBranches_isOk (permissions : Permissions)
    (branches : Branches) (named : tenantId ≠ "") (principalId : String)
    (dimension : Dimension) :
    ∃ ids, permissions.authorizedBranches branches tenantId principalId
      dimension = .ok ids := by
  by_cases given : principalId = ""
  · exact ⟨[], by simp [authorizedBranches, requireTenant, named, given, bind,
      Except.bind, pure, Except.pure]⟩
  · simp only [authorizedBranches, requireTenant, if_neg named,
      if_neg given, bind, Except.bind, pure, Except.pure]
    exact ⟨_, rfl⟩

theorem mem_ids_iff (placed : branches.Placed) {permissions : Permissions}
    {dimension : Dimension} {ids : List String}
    (listed : permissions.authorizedBranches branches tenantId principalId
      dimension = .ok ids) (branchId : String) :
    branchId ∈ ids ↔ permissions.holds branches tenantId principalId branchId
      dimension = .ok true := by
  by_cases named : tenantId = ""
  · simp [authorizedBranches, requireTenant, named, bind, Except.bind] at listed
  by_cases given : principalId = ""
  · simp only [authorizedBranches, requireTenant, if_neg named,
      if_pos given, bind, Except.bind, pure, Except.pure,
      Except.ok.injEq] at listed
    subst listed
    simp [holds, effective, requireTenant, named, given, bind, Except.bind,
      pure, Except.pure]
  obtain ⟨distinct, decisions, candidates⟩ :=
    gathered_spec placed permissions named principalId dimension
  have members : branchId ∈ ids ↔
      ∃ path, (branchId, path) ∈ ((permissions.deciding tenantId principalId
        dimension).foldl (gather branches tenantId) {}).candidates ∧
        nearestDecision path ((permissions.deciding tenantId principalId
          dimension).foldl (gather branches tenantId) {}).decisions =
            some .grant := by
    simp only [authorizedBranches, requireTenant, if_neg named, if_neg given,
      bind, Except.bind, pure, Except.pure, Except.ok.injEq] at listed
    rw [← listed]
    simp [deciding, List.mem_mergeSort]
  rw [members]
  generalize (permissions.deciding tenantId principalId dimension).foldl
    (gather branches tenantId) {} = gathered at distinct decisions candidates
  constructor
  · rintro ⟨_, candidate, granted⟩
    obtain ⟨_, _, root, found, branch, inside, same⟩ :=
      (mem_reached placed).mp ((candidates _).mp candidate)
    obtain ⟨member, tenant, _⟩ := Branches.fetchBranch_eq_some.mp found
    obtain ⟨id, rfl⟩ := Prod.mk.inj same
    have located : branches.fetchBranch tenantId branchId = some branch := by
      refine Branches.fetchBranch_eq_some.mpr ⟨?_, ?_, id.symm⟩
      · rcases inside with rfl | below
        · exact member
        · cases below with
          | single isParent | tail _ isParent => exact isParent.2.1
      · rcases inside with rfl | below
        · exact tenant
        · exact (placed.tree.related_of_transGen below).symm.trans tenant
    rw [holds_of_found placed permissions named given located distinct
      decisions, granted]
    rfl
  · intro held
    cases found : branches.fetchBranch tenantId branchId with
    | none =>
        simp [holds, effective, requireTenant, named, given,
          Branches.ancestry_of_absent named found, bind, Except.bind, pure,
          Except.pure] at held
    | some branch =>
        obtain ⟨member, tenant, rfl⟩ := Branches.fetchBranch_eq_some.mp found
        rw [holds_of_found placed permissions named given found distinct
          decisions, Except.ok.injEq, beq_iff_eq] at held
        obtain ⟨_, decision, reaches, _⟩ :=
          (nearestDecision_eq_some_iff distinct).mp held
        obtain ⟨row, deciding, root, located, same⟩ :=
          mem_decided.mp ((decisions _).mp decision)
        obtain ⟨inside, family, _⟩ := Branches.fetchBranch_eq_some.mp located
        obtain ⟨rfl, _⟩ := Prod.mk.inj same
        refine ⟨branch.path, (candidates _).mpr ((mem_reached placed).mpr
          ⟨row, deciding, root, located, branch, ?_, rfl⟩), held⟩
        exact (placed.reaches_iff inside member
          (family.trans tenant.symm)).mp reaches

/-- A branch is listed for a principal exactly when the principal holds the
dimension on it. -/
theorem mem_authorizedBranches_iff (placed : branches.Placed)
    (permissions : Permissions) (tenantId principalId branchId : String)
    (dimension : Dimension) :
    (∃ ids, permissions.authorizedBranches branches tenantId principalId
        dimension = .ok ids ∧ branchId ∈ ids) ↔
      permissions.holds branches tenantId principalId branchId dimension =
        .ok true := by
  by_cases named : tenantId = ""
  · simp [authorizedBranches, holds, effective, requireTenant, named, bind,
      Except.bind]
  obtain ⟨ids, listed⟩ := authorizedBranches_isOk permissions branches named
    principalId dimension
  rw [← mem_ids_iff placed listed branchId, listed]
  constructor
  · rintro ⟨_, same, member⟩
    cases same
    exact member
  · exact fun member => ⟨ids, rfl, member⟩

def annView : Permissions where
  rows := [
    ⟨"perm:1", "org:acme", "branch:2", "principal:ann", .view, .grant⟩,
    ⟨"perm:2", "org:acme", "branch:3", "principal:ann", .view, .restrict⟩]
  unique := by decide

theorem mem_authorizedBranches_iff_folder :
    (∃ ids, annView.authorizedBranches (run (branchStep asciiLibrary)
        Branches.empty betweenOwners) "org:acme" "principal:ann" .view =
          .ok ids ∧ "branch:3" ∈ ids) ↔
      annView.holds (run (branchStep asciiLibrary) Branches.empty
        betweenOwners) "org:acme" "principal:ann" "branch:3" .view = .ok true :=
  mem_authorizedBranches_iff
    (Branches.placed_run asciiLibrary betweenOwners) annView "org:acme"
    "principal:ann" "branch:3" .view

end Permissions

end AcpTask.Contacts
