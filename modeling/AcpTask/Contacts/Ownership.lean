import AcpTask.Contacts.Reparenting

namespace AcpTask.Contacts

open Data Library

namespace Branches

variable {branches : Branches}

def Alike (branches : Branches) : Prop :=
  ∀ {parent child}, branches.IsParent parent child →
    child.ownerPrincipalId = parent.ownerPrincipalId

theorem Alike.root (alike : branches.Alike) {root branch : Branch}
    (reaches : Relation.ReflTransGen branches.IsParent root branch) :
    branch.ownerPrincipalId = root.ownerPrincipalId := by
  induction reaches with
  | refl => rfl
  | tail _ isParent induction => exact (alike isParent).trans induction

theorem treeInvariant_iff (placed : branches.Placed) :
    branches.TreeInvariant ↔ branches.Alike := by
  constructor
  · intro invariant parent child isParent
    obtain ⟨root, member, top, reaches⟩ := placed.tree.exists_root isParent.1
    have unnamed : root.parentBranchId = none := by
      by_contra named
      obtain ⟨above, edge, _⟩ := exists_parent member named
      exact top above edge
    rw [invariant.owner member unnamed reaches,
      invariant.owner member unnamed (reaches.tail isParent)]
  · intro alike
    exact {
      toPlaced := placed
      parent := exists_parent
      acyclic := placed.tree.acyclic
      subtree := fun member _ => placed.mem_fetchDescendants member _ rfl
      owner := fun _ _ reaches => alike.root reaches }

theorem Created.alike {later : Branches} {row : Branch}
    {parent : Option Branch} (made : Created branches later row parent)
    (alike : branches.Alike) : later.Alike := by
  intro upper lower isParent
  rcases made.edge isParent with old | ⟨rfl, named⟩
  · exact alike old
  · exact made.owner upper named

theorem Moved.alike_iff {later : Branches} {branch moved : Branch}
    {parent : Option Branch}
    (made : Moved branches later branch moved parent)
    (before : branches.Placed) (alike : branches.Alike) :
    later.Alike ↔
      ∀ above ∈ parent, branch.ownerPrincipalId = above.ownerPrincipalId := by
  constructor
  · intro after above named
    have known := (made.known above named).1
    have stays := made.rewrite_outside before known
      (made.parent_outside before named)
    have isParent : later.IsParent above moved := by
      refine ⟨made.mem_rows.mpr ⟨above, known, stays⟩,
        made.mem_rows.mpr ⟨branch, made.member,
          rewrite_branch branches branch moved⟩, ?_⟩
      rw [made.becomes, named]
      rfl
    have same := after isParent
    rw [made.becomes] at same
    exact same
  · intro owners upper lower isParent
    rcases made.edge before isParent with
      ⟨named, rfl⟩ | ⟨above, below, old, _, rfl, rfl⟩
    · rw [made.becomes]
      exact owners upper named
    · rw [made.rewrite_owner old.1, made.rewrite_owner old.2.1]
      exact alike old

def KeepsOwner (branches : Branches) : BranchCall → Prop
  | .createBranch .. => True
  | .moveBranch tenantId branchId newParentBranchId =>
      (branches.moveBranch tenantId branchId newParentBranchId).isOk = true →
        ∀ branch ∈ branches.fetchBranch tenantId branchId,
          ∀ parentId ∈ newParentBranchId,
            ∀ parent ∈ branches.fetchBranch tenantId parentId,
              branch.ownerPrincipalId = parent.ownerPrincipalId

variable (library : StandardLibrary)

theorem branchStep_cases (before : branches.Placed) (call : BranchCall) :
    (branchStep library branches call = branches ∧
        branches.KeepsOwner call) ∨
      (∃ row parent, Created branches (branchStep library branches call) row
        parent ∧ branches.KeepsOwner call) ∨
      ∃ branch moved parent,
        Moved branches (branchStep library branches call) branch moved parent ∧
        (branches.KeepsOwner call ↔ ∀ above ∈ parent,
          branch.ownerPrincipalId = above.ownerPrincipalId) := by
  cases outcome : branches.call library call with
  | error error =>
      left
      constructor
      · simp [branchStep, transaction, outcome]
      · cases call with
        | createBranch => trivial
        | moveBranch tenantId branchId newParentBranchId =>
            intro success
            rw [show branches.moveBranch tenantId branchId newParentBranchId =
              .error error from outcome] at success
            cases success
  | ok result =>
      obtain ⟨row, later⟩ := result
      right
      have becomes : branchStep library branches call = later := by
        simp [branchStep, transaction, outcome]
      rw [becomes]
      cases call with
      | createBranch =>
          obtain ⟨parent, made⟩ := createBranch_ok outcome
          exact .inl ⟨row, parent, made, trivial⟩
      | moveBranch tenantId branchId newParentBranchId =>
          obtain ⟨branch, parent, found, fetched, made⟩ :=
            moveBranch_ok before outcome
          refine .inr ⟨branch, row, parent, made, ?_⟩
          have success : (branches.moveBranch tenantId branchId
              newParentBranchId).isOk = true := by
            rw [show branches.moveBranch tenantId branchId
              newParentBranchId = .ok (row, later) from outcome]
            rfl
          simp only [KeepsOwner, success, found, true_implies,
            Option.mem_def, Option.some.injEq, forall_eq']
          cases newParentBranchId with
          | none =>
              cases fetched
              simp
          | some parentId =>
              simp only [fetchParent] at fetched
              split at fetched
              · rename_i above known
                cases fetched
                simp [known]
              · cases fetched

theorem placed_step (before : branches.Placed) (call : BranchCall) :
    (branchStep library branches call).Placed := by
  rcases branchStep_cases library before call with
    ⟨same, _⟩ | ⟨row, parent, made, _⟩ | ⟨branch, moved, parent, made, _⟩
  · rw [same]
    exact before
  · exact made.placed before
  · exact made.placed before

theorem alike_step_iff (before : branches.Placed) (alike : branches.Alike)
    (call : BranchCall) :
    (branchStep library branches call).Alike ↔ branches.KeepsOwner call := by
  rcases branchStep_cases library before call with
    ⟨same, keeps⟩ | ⟨row, parent, made, keeps⟩ |
      ⟨branch, moved, parent, made, keeps⟩
  · rw [same]
    exact iff_of_true alike keeps
  · exact iff_of_true (made.alike alike) keeps
  · rw [keeps]
    exact made.alike_iff before alike

theorem placed_empty : empty.Placed where
  path isParent := absurd isParent.1 List.not_mem_nil
  depth isParent := absurd isParent.1 List.not_mem_nil
  root member := absurd member List.not_mem_nil

theorem placed_run (calls : List BranchCall) :
    (run (branchStep library) empty calls).Placed :=
  run_invariant (branchStep library) Placed
    (fun _ call before => placed_step library before call) placed_empty calls

/-- The tree is in order after every call exactly when every move is to a
parent with the same owner. -/
theorem treeInvariant_run_iff (library : StandardLibrary)
    (calls : List BranchCall) :
    (∀ earlier later, calls = earlier ++ later →
      (run (branchStep library) empty earlier).TreeInvariant) ↔
        Along (branchStep library) KeepsOwner empty calls := by
  refine Along.forall_prefix_iff (fun branches => branches.Placed)
    TreeInvariant (fun _ call before => placed_step library before call) ?_
    placed_empty ((treeInvariant_iff placed_empty).mpr fun isParent =>
      absurd isParent.1 List.not_mem_nil) calls
  intro branches call before invariant
  rw [treeInvariant_iff (placed_step library before call)]
  exact alike_step_iff library before
    ((treeInvariant_iff before).mp invariant) call

end Branches

def asciiLibrary : StandardLibrary where
  str _ := ""
  int _ := none
  nfkd := id
  combining _ := false
  lower := id
  isSpace character := character == ' '
  instant _ _ := none

def betweenOwners : List BranchCall :=
  [.createBranch "org:acme" "ann" .organization none none "branch:1"
      (some "principal:ann"),
    .createBranch "org:acme" "bob" .organization none none "branch:2"
      (some "principal:bob"),
    .createBranch "org:acme" "sales" .folder (some "branch:1") none
      "branch:3" none,
    .moveBranch "org:acme" "branch:3" (some "branch:2")]

/-- The folder below the root of one principal is still another's. -/
theorem owner_left_behind :
    ¬ ∀ (library : StandardLibrary) (calls earlier later : List BranchCall),
      calls = earlier ++ later →
        (run (branchStep library) Branches.empty earlier).TreeInvariant := by
  intro holds
  have invariant := holds asciiLibrary betweenOwners betweenOwners [] rfl
  have rows : (run (branchStep asciiLibrary) Branches.empty
      betweenOwners).rows.map (fun row =>
        (row.branchId, row.parentBranchId, row.ownerPrincipalId)) =
      [("branch:1", none, some "principal:ann"),
        ("branch:2", none, some "principal:bob"),
        ("branch:3", some "branch:2", some "principal:ann")] := by
    decide +kernel
  generalize run (branchStep asciiLibrary) Branches.empty betweenOwners =
    branches at invariant rows
  have row : ∀ facts ∈ branches.rows.map (fun row =>
      (row.branchId, row.parentBranchId, row.ownerPrincipalId)),
        ∃ row ∈ branches.rows,
          (row.branchId, row.parentBranchId, row.ownerPrincipalId) = facts :=
    fun facts member => List.mem_map.mp member
  rw [rows] at row
  obtain ⟨_, rootMember, rootFacts⟩ :=
    row ("branch:2", none, some "principal:bob") (by decide)
  obtain ⟨_, folderMember, folderFacts⟩ :=
    row ("branch:3", some "branch:2", some "principal:ann") (by decide)
  simp only [Prod.mk.injEq] at rootFacts folderFacts
  have same := invariant.owner rootMember rootFacts.2.1
    (.single ⟨rootMember, folderMember, by
      rw [folderFacts.2.1, rootFacts.1]⟩)
  rw [rootFacts.2.2, folderFacts.2.2] at same
  exact absurd same (by decide)

end AcpTask.Contacts
