import AcpTask.Contacts.Branches
import AcpTask.Library.PathTree

namespace AcpTask.Contacts

open Library

namespace Branches

def IsParent (branches : Branches) (parent child : Branch) : Prop :=
  parent ∈ branches.rows ∧ child ∈ branches.rows ∧
    child.parentBranchId = some parent.branchId

def Below (branches : Branches) : Branch → Branch → Prop :=
  Relation.TransGen branches.IsParent

structure Placed (branches : Branches) : Prop where
  path : ∀ {parent child}, branches.IsParent parent child →
    child.path = parent.path ++ '/' :: child.slug.text
  depth : ∀ {parent child}, branches.IsParent parent child →
    child.depth = parent.depth + 1
  root : ∀ {branch}, branch ∈ branches.rows → branch.parentBranchId = none →
    branch.path = '/' :: branch.slug.text

structure TreeInvariant (branches : Branches) : Prop
    extends Placed branches where
  parent : ∀ {branch}, branch ∈ branches.rows →
    branch.parentBranchId ≠ none →
      ∃ parent, branches.IsParent parent branch ∧
        parent.tenantId = branch.tenantId
  acyclic : ∀ branch, ¬ branches.Below branch branch
  subtree : ∀ {branch other}, branch ∈ branches.rows →
    other ∈ branches.rows →
      (other ∈ branches.fetchDescendants branch.tenantId branch.path ↔
        branches.Below branch other)
  owner : ∀ {root branch}, root ∈ branches.rows →
    root.parentBranchId = none →
    Relation.ReflTransGen branches.IsParent root branch →
      branch.ownerPrincipalId = root.ownerPrincipalId

variable {branches : Branches}

theorem eq_of_branchId {branch other : Branch}
    (member : branch ∈ branches.rows) (also : other ∈ branches.rows)
    (same : branch.branchId = other.branchId) : branch = other :=
  List.inj_on_of_nodup_map branches.legal.primaryKey member also same

theorem fetchBranch_eq_some {tenantId branchId : String} {branch : Branch} :
    branches.fetchBranch tenantId branchId = some branch ↔
      branch ∈ branches.rows ∧ branch.tenantId = tenantId ∧
        branch.branchId = branchId := by
  constructor
  · intro found
    have fits := List.find?_some found
    rw [Bool.and_eq_true, beq_iff_eq, beq_iff_eq] at fits
    exact ⟨List.mem_of_find?_eq_some found, fits⟩
  · rintro ⟨member, rfl, rfl⟩
    cases found : branches.fetchBranch branch.tenantId branch.branchId with
    | none =>
        have absent := List.find?_eq_none.mp found branch member
        simp at absent
    | some =>
        have fits := List.find?_some found
        rw [Bool.and_eq_true, beq_iff_eq, beq_iff_eq] at fits
        rw [eq_of_branchId (List.mem_of_find?_eq_some found) member fits.2]

theorem exists_parent {branch : Branch} (member : branch ∈ branches.rows)
    (placed : branch.parentBranchId ≠ none) :
    ∃ parent, branches.IsParent parent branch ∧
      parent.tenantId = branch.tenantId := by
  obtain ⟨parentId, named⟩ := Option.ne_none_iff_exists'.mp placed
  have both := (branches.legal.checked branch member).both
  rw [named, Option.isNone_some] at both
  obtain ⟨kind, known⟩ := Option.isSome_iff_exists.mp
    (Option.isNone_eq_false_iff.mp both.symm)
  obtain ⟨parent, found, rfl, tenant, _⟩ :=
    branches.legal.parents branch member parentId named kind known
  exact ⟨parent, ⟨found, member, named⟩, tenant⟩

theorem IsParent.tenant {parent child : Branch}
    (isParent : branches.IsParent parent child) :
    parent.tenantId = child.tenantId := by
  obtain ⟨member, below, named⟩ := isParent
  obtain ⟨_, ⟨found, _, same⟩, tenant⟩ := exists_parent below
    (by rw [named]; exact Option.some_ne_none _)
  rw [named, Option.some.injEq] at same
  rw [eq_of_branchId member found same]
  exact tenant

theorem slash_not_mem (slug : Slug) : '/' ∉ slug.text := by
  intro member
  exact absurd (slug.plain '/' member) (by decide)

theorem Placed.tree (placed : branches.Placed) :
    PathTree (· ∈ branches.rows) branches.IsParent Branch.tenantId '/'
      (fun branch => branch.slug.text) Branch.path where
  above isParent := isParent.1
  related isParent := isParent.tenant
  child isParent := placed.path isParent
  root {branch} member top := by
    refine placed.root member ?_
    by_contra named
    obtain ⟨parent, isParent, _⟩ := exists_parent member named
    exact top parent isParent
  plain _ := slash_not_mem _
  distinct {left right} member also tenant path :=
    List.inj_on_of_nodup_map branches.legal.paths member also
      (Prod.ext tenant path)

theorem slug_literal (slug : Slug) :
    ∀ character ∈ '/' :: slug.text, character ∉ LikeToken.special := by
  rw [List.forall_mem_cons]
  refine ⟨by decide, fun character member special => ?_⟩
  have plain := slug.plain character member
  simp only [LikeToken.special, List.mem_cons, List.not_mem_nil,
    or_false] at special
  rcases special with rfl | rfl | rfl <;> exact absurd plain (by decide)

theorem Placed.literal (placed : branches.Placed) {branch : Branch}
    (member : branch ∈ branches.rows) :
    ∀ character ∈ branch.path, character ∉ LikeToken.special := by
  obtain ⟨root, inside, top, reaches⟩ := placed.tree.exists_root member
  induction reaches with
  | refl =>
      rw [placed.tree.root inside top]
      exact slug_literal root.slug
  | tail _ isParent induction =>
      rw [placed.path isParent, List.forall_mem_append]
      exact ⟨induction isParent.1, slug_literal _⟩

theorem Placed.mem_fetchDescendants (placed : branches.Placed)
    {branch other : Branch} (member : branch ∈ branches.rows)
    (tenantId : String) (same : branch.tenantId = tenantId) :
    other ∈ branches.fetchDescendants tenantId branch.path ↔
      branches.Below branch other := by
  subst same
  have literal : ∀ character ∈ branch.path ++ ['/'],
      character ∉ LikeToken.special := by
    rw [List.forall_mem_append]
    exact ⟨placed.literal member, by simp [LikeToken.special]⟩
  have split : branch.path ++ ['/', '%'] = (branch.path ++ ['/']) ++ ['%'] := by
    rw [List.append_assoc]
    rfl
  rw [fetchDescendants, List.mem_filter, Bool.and_eq_true, beq_iff_eq, split,
    like_prefix_iff literal]
  constructor
  · rintro ⟨inside, tenant, begins⟩
    exact placed.tree.transGen_of_prefix member inside tenant.symm begins
  · intro below
    refine ⟨?_, (placed.tree.related_of_transGen below).symm,
      placed.tree.prefix_of_transGen below⟩
    cases below with
    | single isParent | tail _ isParent => exact isParent.2.1

end Branches

end AcpTask.Contacts
