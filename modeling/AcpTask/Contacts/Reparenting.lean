import AcpTask.Contacts.Hierarchy

namespace AcpTask.Contacts

open Data Library

namespace Branches

variable {branches later : Branches}

theorem rows_of_store {rows : List Branch}
    (stored : store rows = .ok later) : later.rows = rows := by
  unfold store at stored
  split at stored
  · cases stored
    rfl
  · cases stored

theorem rows_of_insert {row : Branch}
    (inserted : branches.insert row = .ok later) :
    later.rows = branches.rows ++ [row] := by
  obtain ⟨_, _, stored⟩ := bind_eq_ok.mp inserted
  exact rows_of_store stored

theorem rows_of_reparent {old new : Branch}
    (reparented : branches.reparent old new = .ok later) :
    later.rows = branches.rows.map fun row =>
      if row.tenantId = old.tenantId ∧ row.branchId = old.branchId then new
      else row := by
  obtain ⟨_, _, stored⟩ := bind_eq_ok.mp reparented
  exact rows_of_store stored

variable {tenantId : String}

theorem fetchParent_eq_ok {parentBranchId : Option String}
    {parent : Option Branch}
    (fetched : branches.fetchParent tenantId parentBranchId = .ok parent) :
    ∀ above ∈ parent, above ∈ branches.rows ∧ above.tenantId = tenantId := by
  rintro above same
  cases same
  cases parentBranchId with
  | none => cases fetched
  | some parentId =>
      simp only [fetchParent] at fetched
      split at fetched
      · rename_i other found
        cases fetched
        obtain ⟨member, tenant, _⟩ := fetchBranch_eq_some.mp found
        exact ⟨member, tenant⟩
      · cases fetched

structure Created (branches later : Branches) (row : Branch)
    (parent : Option Branch) : Prop where
  rows : later.rows = branches.rows ++ [row]
  known : ∀ above ∈ parent, above ∈ branches.rows
  parentBranchId : row.parentBranchId = parent.map Branch.branchId
  path : row.path = childPath parent row.slug
  depth : row.depth = childDepth parent
  owner : ∀ above ∈ parent, row.ownerPrincipalId = above.ownerPrincipalId

theorem createBranch_ok {library : StandardLibrary} {name : String}
    {kind : BranchKind} {parentBranchId slug : Option String}
    {branchId : String} {ownerPrincipalId : Option String} {row : Branch}
    (created : branches.createBranch library tenantId name kind
      parentBranchId slug branchId ownerPrincipalId = .ok (row, later)) :
    ∃ parent, Created branches later row parent := by
  obtain ⟨_, _, rest⟩ := bind_eq_ok.mp created
  obtain ⟨parent, fetched, rest⟩ := bind_eq_ok.mp rest
  obtain ⟨_, _, rest⟩ := bind_eq_ok.mp rest
  obtain ⟨_, _, rest⟩ := bind_eq_ok.mp rest
  obtain ⟨_, inserted, rest⟩ := bind_eq_ok.mp rest
  cases rest
  refine ⟨parent, rows_of_insert inserted,
    fun above same => (fetchParent_eq_ok fetched above same).1, rfl, rfl, rfl,
    ?_⟩
  rintro above same
  cases same
  rfl

namespace Created

variable {row : Branch} {parent : Option Branch}

theorem edge (made : Created branches later row parent)
    {upper lower : Branch} (isParent : later.IsParent upper lower) :
    branches.IsParent upper lower ∨ (lower = row ∧ parent = some upper) := by
  obtain ⟨above, below, named⟩ := isParent
  have memberships := above
  rw [made.rows, List.mem_append, List.mem_singleton] at above below
  have inside : row ∈ later.rows := by
    rw [made.rows]
    exact List.mem_append_right _ List.mem_cons_self
  rcases below with old | rfl
  · left
    -- the reference of an old branch resolves among the old ones
    obtain ⟨other, edge, _⟩ := exists_parent old
      (by rw [named]; exact Option.some_ne_none _)
    have same := edge.2.2
    rw [named, Option.some.injEq] at same
    have known : other ∈ later.rows := by
      rw [made.rows]
      exact List.mem_append_left _ edge.1
    rw [eq_of_branchId memberships known same]
    exact edge
  · right
    refine ⟨rfl, ?_⟩
    rw [made.parentBranchId, Option.map_eq_some_iff] at named
    obtain ⟨other, found, same⟩ := named
    have known : other ∈ later.rows := by
      rw [made.rows]
      exact List.mem_append_left _ (made.known other found)
    rw [found, eq_of_branchId known memberships same]

theorem placed (made : Created branches later row parent)
    (before : branches.Placed) : later.Placed where
  path {upper lower} isParent := by
    rcases made.edge isParent with old | ⟨rfl, rfl⟩
    · exact before.path old
    · exact made.path
  depth {upper lower} isParent := by
    rcases made.edge isParent with old | ⟨rfl, rfl⟩
    · exact before.depth old
    · exact made.depth
  root {branch} member top := by
    rw [made.rows, List.mem_append, List.mem_singleton] at member
    rcases member with old | rfl
    · exact before.root old top
    · rw [made.parentBranchId, Option.map_eq_none_iff] at top
      rw [made.path, top]
      rfl

end Created

def rewrite (branches : Branches) (branch moved row : Branch) : Branch :=
  if row.branchId = branch.branchId then moved
  else if row ∈ branches.fetchDescendants branch.tenantId branch.path then
    carried branch moved row
  else row

structure Moved (branches later : Branches) (branch moved : Branch)
    (parent : Option Branch) : Prop where
  member : branch ∈ branches.rows
  known : ∀ above ∈ parent, above ∈ branches.rows ∧
    above.branchId ≠ branch.branchId ∧
    within above.path branch.path = false
  becomes : moved = { branch with
    parentBranchId := parent.map Branch.branchId
    parentKind := parent.map Branch.kind
    path := childPath parent branch.slug
    depth := childDepth parent }
  rows : later.rows = branches.rows.map (branches.rewrite branch moved)

theorem rows_of_carry {branch moved : Branch} {descendants : List Branch}
    (distinct : (descendants.map Branch.branchId).Nodup)
    (updates : descendants.foldlM (fun branches row =>
      branches.update tenantId row.branchId fun _ =>
        carried branch moved row) branches = .ok later) :
    later.rows = branches.rows.map fun row =>
      ((descendants.find? fun other => row.tenantId == tenantId &&
        row.branchId == other.branchId).map (carried branch moved)).getD
          row := by
  induction descendants generalizing branches with
  | nil =>
      cases updates
      simp
  | cons first rest induction =>
      rw [List.foldlM_cons] at updates
      obtain ⟨_, updated, others⟩ := bind_eq_ok.mp updates
      rw [List.map_cons, List.nodup_cons] at distinct
      rw [induction distinct.2 others, rows_of_store updated, List.map_map]
      apply List.map_congr_left
      intro row _
      simp only [Function.comp]
      by_cases here : row.tenantId = tenantId ∧ row.branchId = first.branchId
      · have absent : (rest.find? fun other =>
            (carried branch moved first).tenantId == tenantId &&
              (carried branch moved first).branchId == other.branchId) =
            none := by
          refine List.find?_eq_none.mpr fun other member fits => ?_
          rw [Bool.and_eq_true, beq_iff_eq, beq_iff_eq] at fits
          exact distinct.1 (List.mem_map.mpr ⟨other, member, fits.2.symm⟩)
        rw [if_pos here, absent, List.find?_cons_of_pos (by simp [here])]
        rfl
      · rw [if_neg here, List.find?_cons_of_neg]
        rw [Bool.and_eq_true, beq_iff_eq, beq_iff_eq]
        exact here

theorem mem_of_mem_fetchDescendants {path : Text} {row : Branch}
    (member : row ∈ branches.fetchDescendants tenantId path) :
    row ∈ branches.rows ∧ row.tenantId = tenantId := by
  obtain ⟨inside, fits⟩ := List.mem_filter.mp member
  rw [Bool.and_eq_true, beq_iff_eq] at fits
  exact ⟨inside, fits.1⟩

theorem rows_of_move {middle : Branches} {branch moved : Branch}
    (before : branches.Placed) (member : branch ∈ branches.rows)
    (tenant : moved.tenantId = branch.tenantId)
    (same : moved.branchId = branch.branchId)
    (reparented : branches.reparent branch moved = .ok middle)
    (updates : (branches.fetchDescendants branch.tenantId
      branch.path).foldlM (fun branches row =>
        branches.update branch.tenantId row.branchId fun _ =>
          carried branch moved row) middle = .ok later) :
    later.rows = branches.rows.map (branches.rewrite branch moved) := by
  have distinct : ((branches.fetchDescendants branch.tenantId
      branch.path).map Branch.branchId).Nodup :=
    branches.legal.primaryKey.sublist (List.filter_sublist.map _)
  rw [rows_of_carry distinct updates, rows_of_reparent reparented, List.map_map]
  apply List.map_congr_left
  intro row inside
  simp only [Function.comp, rewrite]
  by_cases here : row.branchId = branch.branchId
  · obtain rfl := eq_of_branchId inside member here
    rw [if_pos ⟨rfl, rfl⟩, if_pos rfl]
    have absent : ((branches.fetchDescendants row.tenantId row.path).find?
        fun other => moved.tenantId == row.tenantId &&
          moved.branchId == other.branchId) = none := by
      refine List.find?_eq_none.mpr fun other below fits => ?_
      rw [Bool.and_eq_true, beq_iff_eq, beq_iff_eq, same] at fits
      obtain ⟨known, _⟩ := mem_of_mem_fetchDescendants below
      obtain rfl := eq_of_branchId inside known fits.2
      exact before.tree.acyclic row
        ((before.mem_fetchDescendants inside row.tenantId rfl).mp below)
    rw [absent]
    rfl
  · rw [if_neg (fun both => here both.2), if_neg here]
    by_cases below : row ∈ branches.fetchDescendants branch.tenantId branch.path
    · have found : ((branches.fetchDescendants branch.tenantId
          branch.path).find? fun other =>
            row.tenantId == branch.tenantId &&
              row.branchId == other.branchId) = some row := by
        obtain ⟨_, tenants⟩ := mem_of_mem_fetchDescendants below
        cases search : (branches.fetchDescendants branch.tenantId
            branch.path).find? fun other =>
              row.tenantId == branch.tenantId &&
                row.branchId == other.branchId with
        | none =>
            have absent := List.find?_eq_none.mp search row below
            simp [tenants] at absent
        | some =>
            have fits := List.find?_some search
            rw [Bool.and_eq_true, beq_iff_eq, beq_iff_eq] at fits
            obtain ⟨known, _⟩ := mem_of_mem_fetchDescendants
              (List.mem_of_find?_eq_some search)
            rw [eq_of_branchId inside known fits.2]
      rw [found, if_pos below]
      rfl
    · have absent : ((branches.fetchDescendants branch.tenantId
          branch.path).find? fun other =>
            row.tenantId == branch.tenantId &&
              row.branchId == other.branchId) = none := by
        refine List.find?_eq_none.mpr fun other inner fits => ?_
        rw [Bool.and_eq_true, beq_iff_eq, beq_iff_eq] at fits
        obtain ⟨known, _⟩ := mem_of_mem_fetchDescendants inner
        rw [eq_of_branchId inside known fits.2] at below
        exact below inner
      rw [absent, if_neg below]
      rfl

theorem moveBranch_ok {branchId : String} {newParentBranchId : Option String}
    {moved : Branch} (before : branches.Placed)
    (success : branches.moveBranch tenantId branchId newParentBranchId =
      .ok (moved, later)) :
    ∃ branch parent,
      branches.fetchBranch tenantId branchId = some branch ∧
      branches.fetchParent tenantId newParentBranchId = .ok parent ∧
      Moved branches later branch moved parent := by
  obtain ⟨_, _, rest⟩ := bind_eq_ok.mp success
  obtain ⟨branch, fetched, rest⟩ := bind_eq_ok.mp rest
  obtain ⟨parent, named, rest⟩ := bind_eq_ok.mp rest
  obtain ⟨_, acyclic, rest⟩ := bind_eq_ok.mp rest
  obtain ⟨_, _, rest⟩ := bind_eq_ok.mp rest
  obtain ⟨_, _, rest⟩ := bind_eq_ok.mp rest
  obtain ⟨middle, reparented, rest⟩ := bind_eq_ok.mp rest
  obtain ⟨final, updates, rest⟩ := bind_eq_ok.mp rest
  cases rest
  have found : branches.fetchBranch tenantId branchId = some branch := by
    cases search : branches.fetchBranch tenantId branchId with
    | none =>
        rw [search] at fetched
        cases fetched
    | some =>
        rw [search] at fetched
        cases fetched
        rfl
  obtain ⟨member, rfl, _⟩ := fetchBranch_eq_some.mp found
  refine ⟨branch, parent, found, named, member, ?_, rfl,
    rows_of_move before member rfl rfl reparented updates⟩
  rintro above same
  refine ⟨(fetchParent_eq_ok named above same).1, ?_⟩
  cases same
  unfold checkAcyclic at acyclic
  split at acyclic
  · cases acyclic
  · rename_i apart
    simpa using apart

namespace Moved

variable {branch moved : Branch} {parent : Option Branch}

def Inside (branches : Branches) (branch row : Branch) : Prop :=
  row = branch ∨ branches.Below branch row

variable {row : Branch}

theorem Inside.length (before : branches.Placed)
    (inside : Inside branches branch row) :
    branch.path.length ≤ row.path.length := by
  rcases inside with rfl | below
  · exact Nat.le_refl _
  · have begins := (before.tree.prefix_of_transGen below).length_le
    rw [List.length_append] at begins
    omega

section Made

variable (made : Moved branches later branch moved parent)

include made

theorem rewrite_inside (before : branches.Placed)
    (inside : Inside branches branch row) :
    (branches.rewrite branch moved row).path =
        moved.path ++ row.path.drop branch.path.length ∧
      (branches.rewrite branch moved row).depth =
        row.depth - branch.depth + moved.depth ∧
      (branches.rewrite branch moved row).slug = row.slug := by
  unfold rewrite
  rcases inside with rfl | below
  · rw [if_pos rfl, List.drop_length, List.append_nil, Int.sub_self,
      Int.zero_add]
    refine ⟨rfl, rfl, ?_⟩
    rw [made.becomes]
  · have apart : row.branchId ≠ branch.branchId := by
      intro same
      have member : row ∈ branches.rows := by
        cases below with
        | single isParent | tail _ isParent => exact isParent.2.1
      rw [eq_of_branchId member made.member same] at below
      exact before.tree.acyclic branch below
    rw [if_neg apart, if_pos ((before.mem_fetchDescendants made.member
      branch.tenantId rfl).mpr below)]
    exact ⟨rfl, rfl, rfl⟩

theorem rewrite_outside (before : branches.Placed)
    (member : row ∈ branches.rows) (outside : ¬ Inside branches branch row) :
    branches.rewrite branch moved row = row := by
  unfold rewrite
  rw [if_neg, if_neg]
  · exact fun inner => outside (.inr ((before.mem_fetchDescendants
      made.member branch.tenantId rfl).mp inner))
  · exact fun same => outside (.inl (eq_of_branchId member made.member same))

theorem rewrite_branchId (row : Branch) :
    (branches.rewrite branch moved row).branchId = row.branchId := by
  unfold rewrite
  split
  · rename_i same
    rw [same, made.becomes]
  · split <;> rfl

theorem rewrite_owner (member : row ∈ branches.rows) :
    (branches.rewrite branch moved row).ownerPrincipalId =
      row.ownerPrincipalId := by
  unfold rewrite
  split
  · rename_i same
    rw [eq_of_branchId member made.member same, made.becomes]
  · split <;> rfl

theorem parent_outside (before : branches.Placed) {above : Branch}
    (named : parent = some above) :
    ¬ Inside branches branch above := by
  obtain ⟨_, apart, without⟩ := made.known above named
  rintro (rfl | below)
  · exact apart rfl
  · have begins := before.tree.prefix_of_transGen below
    rw [within, List.isPrefixOf_iff_prefix.mpr begins] at without
    cases without

theorem mem_rows :
    row ∈ later.rows ↔
      ∃ old ∈ branches.rows, branches.rewrite branch moved old = row := by
  rw [made.rows, List.mem_map]

end Made

theorem rewrite_branch (branches : Branches) (branch moved : Branch) :
    branches.rewrite branch moved branch = moved := by
  rw [rewrite, if_pos rfl]

theorem rewrite_parentBranchId (made : Moved branches later branch moved parent)
    (member : row ∈ branches.rows) (apart : row ≠ branch) :
    (branches.rewrite branch moved row).parentBranchId =
      row.parentBranchId := by
  unfold rewrite
  split
  · rename_i same
    exact absurd (eq_of_branchId member made.member same) apart
  · split <;> rfl

theorem edge (made : Moved branches later branch moved parent)
    (before : branches.Placed) {upper lower : Branch}
    (isParent : later.IsParent upper lower) :
    (parent = some upper ∧ lower = moved) ∨
      ∃ above below, branches.IsParent above below ∧ below ≠ branch ∧
        branches.rewrite branch moved above = upper ∧
        branches.rewrite branch moved below = lower := by
  obtain ⟨up, low, named⟩ := isParent
  obtain ⟨above, aboveMember, rfl⟩ := made.mem_rows.mp up
  obtain ⟨below, belowMember, rfl⟩ := made.mem_rows.mp low
  by_cases same : below = branch
  · left
    subst same
    rw [made.rewrite_branchId, rewrite_branch, made.becomes] at named
    rw [rewrite_branch]
    obtain ⟨other, found, equal⟩ := Option.map_eq_some_iff.mp named
    have known := (made.known other found).1
    have unchanged := made.rewrite_outside before known
      (made.parent_outside before found)
    rw [eq_of_branchId known aboveMember equal] at found unchanged
    rw [unchanged]
    exact ⟨found, rfl⟩
  · right
    rw [made.rewrite_parentBranchId belowMember same,
      made.rewrite_branchId] at named
    exact ⟨above, below, ⟨aboveMember, belowMember, named⟩, same, rfl, rfl⟩

theorem inside_iff (before : branches.Placed) {above below : Branch}
    (isParent : branches.IsParent above below) (apart : below ≠ branch) :
    Inside branches branch below ↔ Inside branches branch above := by
  constructor
  · rintro (same | inner)
    · exact absurd same apart
    · cases inner with
      | single direct => exact .inl (before.tree.parent_unique isParent direct)
      | tail inner last =>
          rw [before.tree.parent_unique isParent last]
          exact .inr inner
  · rintro (rfl | inner)
    · exact .inr (.single isParent)
    · exact .inr (inner.tail isParent)

theorem placed (made : Moved branches later branch moved parent)
    (before : branches.Placed) : later.Placed where
  path {upper lower} isParent := by
    rcases made.edge before isParent with
      ⟨rfl, rfl⟩ | ⟨above, below, old, apart, rfl, rfl⟩
    · rw [made.becomes]
      rfl
    · have same := inside_iff before old apart
      by_cases inside : Inside branches branch above
      · obtain ⟨upperPath, _⟩ := made.rewrite_inside before inside
        obtain ⟨lowerPath, _, slug⟩ :=
          made.rewrite_inside before (same.mpr inside)
        rw [upperPath, lowerPath, slug, before.path old,
          List.drop_append_of_le_length (inside.length before),
          List.append_assoc]
      · rw [made.rewrite_outside before old.1 inside,
          made.rewrite_outside before old.2.1 (mt same.mp inside)]
        exact before.path old
  depth {upper lower} isParent := by
    rcases made.edge before isParent with
      ⟨rfl, rfl⟩ | ⟨above, below, old, apart, rfl, rfl⟩
    · rw [made.becomes]
      rfl
    · have same := inside_iff before old apart
      by_cases inside : Inside branches branch above
      · obtain ⟨_, upperDepth, _⟩ := made.rewrite_inside before inside
        obtain ⟨_, lowerDepth, _⟩ :=
          made.rewrite_inside before (same.mpr inside)
        rw [upperDepth, lowerDepth, before.depth old]
        omega
      · rw [made.rewrite_outside before old.1 inside,
          made.rewrite_outside before old.2.1 (mt same.mp inside)]
        exact before.depth old
  root {row} member top := by
    obtain ⟨old, inside, rfl⟩ := made.mem_rows.mp member
    by_cases same : old = branch
    · subst same
      rw [rewrite_branch] at top ⊢
      rw [made.becomes, Option.map_eq_none_iff] at top
      rw [made.becomes, top]
      rfl
    · rw [made.rewrite_parentBranchId inside same] at top
      have outside : ¬ Inside branches branch old := by
        rintro (equal | below)
        · exact same equal
        · cases below with
          | single isParent | tail _ isParent =>
              rw [isParent.2.2] at top
              cases top
      rw [made.rewrite_outside before inside outside]
      exact before.root inside top

end Moved

end Branches

end AcpTask.Contacts
