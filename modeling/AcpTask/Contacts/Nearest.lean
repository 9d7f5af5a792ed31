import Mathlib.Data.List.Perm.Basic
import AcpTask.Contacts.Hierarchy
import AcpTask.Contacts.Permissions

namespace AcpTask.Contacts

open Library

def Reaches (decided path : Text) : Prop :=
  path = decided ∨ decided ++ ['/'] <+: path

theorem reaches_iff {decided path : Text} :
    (path == decided || within path decided) = true ↔ Reaches decided path := by
  rw [Bool.or_eq_true, beq_iff_eq, within, List.isPrefixOf_iff_prefix]
  rfl

theorem Reaches.prefix {decided path : Text} (reaches : Reaches decided path) :
    decided <+: path := by
  rcases reaches with rfl | begins
  · exact List.prefix_rfl
  · exact (List.prefix_append decided ['/']).trans begins

/-- What the loop of `_nearest_decision` has found. -/
def Nearest (path : Text) (items : List (Text × PermissionEffect))
    (best : Option PermissionEffect × Int) : Prop :=
  (best = (none, -1) ∧ ∀ item ∈ items, ¬ Reaches item.1 path) ∨
    ∃ item ∈ items, Reaches item.1 path ∧
      best = (some item.2, (item.1.length : Int)) ∧
      ∀ other ∈ items, Reaches other.1 path → other.1.length ≤ item.1.length

theorem nearest_foldl (path : Text) (items : List (Text × PermissionEffect)) :
    Nearest path items (items.foldl (nearer path) (none, -1)) := by
  induction items using List.reverseRecOn with
  | nil => exact .inl ⟨rfl, fun item member => by cases member⟩
  | append_singleton items last induction =>
      rw [List.foldl_concat]
      generalize items.foldl (nearer path) (none, -1) = best at induction
      unfold nearer
      by_cases reaches : Reaches last.1 path
      · rw [if_pos (reaches_iff.mpr reaches)]
        have here : last ∈ items ++ [last] :=
          List.mem_append_right _ List.mem_cons_self
        rcases induction with ⟨rfl, none⟩ | ⟨item, member, found, rfl, most⟩
        · rw [if_pos (by simp; omega)]
          refine .inr ⟨last, here, reaches, rfl, fun other inside also => ?_⟩
          rcases List.mem_append.mp inside with old | new
          · exact absurd also (none other old)
          · rw [List.mem_singleton.mp new]
        · split
          · rename_i longer
            have least : item.1.length ≤ last.1.length := by
              simp only [Bool.or_eq_true, decide_eq_true_eq,
                Bool.and_eq_true, beq_iff_eq] at longer
              omega
            refine .inr ⟨last, here, reaches, rfl, fun other inside also => ?_⟩
            rcases List.mem_append.mp inside with old | new
            · exact (most other old also).trans least
            · rw [List.mem_singleton.mp new]
          · rename_i shorter
            refine .inr ⟨item, List.mem_append_left _ member, found, rfl,
              fun other inside also => ?_⟩
            rcases List.mem_append.mp inside with old | new
            · exact most other old also
            · rw [List.mem_singleton.mp new]
              simp only [Bool.or_eq_true, decide_eq_true_eq, not_or] at shorter
              omega
      · rw [if_neg (mt reaches_iff.mp reaches)]
        rcases induction with ⟨rfl, none⟩ | ⟨item, member, found, rfl, most⟩
        · refine .inl ⟨rfl, fun other inside => ?_⟩
          rcases List.mem_append.mp inside with old | new
          · exact none other old
          · rw [List.mem_singleton.mp new]
            exact reaches
        · refine .inr ⟨item, List.mem_append_left _ member, found, rfl,
            fun other inside also => ?_⟩
          rcases List.mem_append.mp inside with old | new
          · exact most other old also
          · rw [List.mem_singleton.mp new] at also
            exact absurd also reaches

theorem nearestDecision_eq_some_iff {path : Text}
    {items : List (Text × PermissionEffect)}
    (distinct : (items.map Prod.fst).Nodup) {effect : PermissionEffect} :
    nearestDecision path items = some effect ↔
      ∃ decided, (decided, effect) ∈ items ∧ Reaches decided path ∧
        ∀ other ∈ items, Reaches other.1 path →
          other.1.length ≤ decided.length := by
  have found := nearest_foldl path items
  unfold nearestDecision
  generalize items.foldl (nearer path) (none, -1) = best at found
  rcases found with ⟨rfl, none⟩ | ⟨⟨decided, _⟩, member, reaches, rfl, most⟩
  · refine iff_of_false (fun same => by cases same) ?_
    rintro ⟨decided, member, reaches, _⟩
    exact none _ member reaches
  · rw [Option.some.injEq]
    constructor
    · rintro rfl
      exact ⟨decided, member, reaches, most⟩
    · rintro ⟨other, also, reach, longest⟩
      have length : other.length = decided.length :=
        Nat.le_antisymm (most _ also reach) (longest _ member reaches)
      have same : other = decided :=
        (List.prefix_of_prefix_length_le reach.prefix reaches.prefix
          (Nat.le_of_eq length)).eq_of_length length
      subst same
      exact congrArg Prod.snd
        (List.inj_on_of_nodup_map distinct member also rfl)

namespace Branches

variable {branches : Branches}

theorem Placed.reaches_iff (placed : branches.Placed) {above below : Branch}
    (member : above ∈ branches.rows) (also : below ∈ branches.rows)
    (tenant : above.tenantId = below.tenantId) :
    Reaches above.path below.path ↔
      below = above ∨ branches.Below above below := by
  have inner := placed.tree.prefix_iff member also tenant
  refine or_congr ⟨fun same => ?_, fun same => congrArg Branch.path same⟩ inner
  exact placed.tree.distinct also member tenant.symm same

def Known (branches : Branches) (tenantId : String)
    (items : List (Text × PermissionEffect)) : Prop :=
  ∀ item ∈ items, ∃ branch ∈ branches.rows,
    branch.tenantId = tenantId ∧ branch.path = item.1

variable {tenantId : String} {items : List (Text × PermissionEffect)}

variable {branch : Branch}

theorem nearest_own (distinct : (items.map Prod.fst).Nodup)
    {effect : PermissionEffect}
    (own : Items.get? items branch.path = some effect) :
    nearestDecision branch.path items = some effect := by
  rw [nearestDecision_eq_some_iff distinct]
  exact ⟨branch.path, (Items.get?_eq_some_iff distinct).mp own, .inl rfl,
    fun other _ reaches => reaches.prefix.length_le⟩

section Placed

variable (placed : branches.Placed)

include placed

theorem nearest_parent (distinct : (items.map Prod.fst).Nodup)
    (known : branches.Known tenantId items) {parent : Branch}
    (isParent : branches.IsParent parent branch)
    (tenant : branch.tenantId = tenantId)
    (own : Items.get? items branch.path = none) :
    nearestDecision branch.path items = nearestDecision parent.path items := by
  have reach : ∀ item ∈ items,
      (Reaches item.1 branch.path ↔ Reaches item.1 parent.path) := by
    intro item member
    obtain ⟨decided, inside, family, path⟩ := known item member
    have related := isParent.tenant
    rw [← path, placed.reaches_iff inside isParent.2.1
      (family.trans tenant.symm), placed.reaches_iff inside isParent.1
      (family.trans (tenant.symm.trans related.symm))]
    constructor
    · rintro (rfl | below)
      · have found := (Items.get?_eq_some_iff distinct).mpr
          (show (branch.path, item.2) ∈ items by rw [path]; exact member)
        rw [own] at found
        cases found
      · cases below with
        | single direct =>
            exact .inl (placed.tree.parent_unique isParent direct)
        | tail below last =>
            rw [placed.tree.parent_unique isParent last]
            exact .inr below
    · rintro (rfl | below)
      · exact .inr (.single isParent)
      · exact .inr (below.tail isParent)
  ext effect
  rw [nearestDecision_eq_some_iff distinct,
    nearestDecision_eq_some_iff distinct]
  refine exists_congr fun decided => and_congr_right fun member => ?_
  refine and_congr (reach _ member) (forall₂_congr fun other inside => ?_)
  rw [reach other inside]

theorem nearest_root (distinct : (items.map Prod.fst).Nodup)
    (known : branches.Known tenantId items) (member : branch ∈ branches.rows)
    (tenant : branch.tenantId = tenantId) (top : branch.parentBranchId = none)
    (own : Items.get? items branch.path = none) :
    nearestDecision branch.path items = none := by
  refine Option.eq_none_iff_forall_ne_some.mpr fun effect found => ?_
  obtain ⟨_, decided, reaches, _⟩ :=
    (nearestDecision_eq_some_iff distinct).mp found
  obtain ⟨_, inside, family, rfl⟩ := known _ decided
  rcases (placed.reaches_iff inside member
    (family.trans tenant.symm)).mp reaches with rfl | below
  · rw [(Items.get?_eq_some_iff distinct).mpr decided] at own
    cases own
  · cases below with
    | single isParent | tail _ isParent =>
        rw [isParent.2.2] at top
        cases top

theorem exists_depth (member : branch ∈ branches.rows) {depth : Nat}
    (deep : branch.depth = depth) {upper : Nat} (above : upper ≤ depth) :
    ∃ other ∈ branches.rows, other.depth = upper := by
  induction depth generalizing branch with
  | zero =>
      rw [Nat.le_zero.mp above]
      exact ⟨branch, member, deep⟩
  | succ depth induction =>
      rcases Nat.lt_or_eq_of_le above with less | rfl
      · have inner : branch.parentBranchId ≠ none := by
          intro top
          have zero := (branches.legal.checked branch member).root.mp top
          omega
        obtain ⟨_, isParent, _⟩ := exists_parent member inner
        have step := placed.depth isParent
        exact induction isParent.1 (by omega) (by omega)
      · exact ⟨branch, member, deep⟩

theorem depth_lt_length (member : branch ∈ branches.rows) :
    branch.depth < branches.rows.length := by
  obtain ⟨depth, deep⟩ := Int.eq_ofNat_of_zero_le
    (branches.legal.checked branch member).depth
  have nodup : ((List.range (depth + 1)).map Int.ofNat).Nodup :=
    List.nodup_range.map fun _ _ same => Int.ofNat.inj same
  have subset : (List.range (depth + 1)).map Int.ofNat ⊆
      branches.rows.map Branch.depth := by
    intro upper inside
    obtain ⟨_, bound, rfl⟩ := List.mem_map.mp inside
    obtain ⟨other, found, same⟩ := exists_depth placed member deep
      (Nat.lt_succ_iff.mp (List.mem_range.mp bound))
    exact List.mem_map.mpr ⟨other, found, same⟩
  have short := (List.subperm_of_subset nodup subset).length_le
  rw [List.length_map, List.length_map, List.length_range] at short
  omega

theorem findSome_ancestorsFrom (distinct : (items.map Prod.fst).Nodup)
    (known : branches.Known tenantId items) (steps : Nat) (seen : List String)
    (member : branch ∈ branches.rows) (tenant : branch.tenantId = tenantId)
    (enough : branch.depth ≤ steps)
    (below : ∀ other ∈ branches.rows, other.branchId ∈ seen →
      branch.depth ≤ other.depth) :
    (branch :: branches.ancestorsFrom tenantId steps seen
      branch.parentBranchId).findSome? (fun branch =>
        Items.get? items branch.path) = nearestDecision branch.path items := by
  induction steps generalizing branch seen with
  | zero =>
      have floor := (branches.legal.checked branch member).depth
      have top := (branches.legal.checked branch member).root.mpr (by omega)
      rw [top, ancestorsFrom, List.findSome?_cons, List.findSome?_nil]
      cases own : Items.get? items branch.path with
      | none =>
          exact (nearest_root placed distinct known member tenant top own).symm
      | some => exact (nearest_own distinct own).symm
  | succ _ induction =>
      rw [List.findSome?_cons]
      cases own : Items.get? items branch.path with
      | some => exact (nearest_own distinct own).symm
      | none =>
          cases named : branch.parentBranchId with
          | none =>
              rw [ancestorsFrom, List.findSome?_nil]
              exact (nearest_root placed distinct known member tenant named
                own).symm
          | some parentId =>
              obtain ⟨parent, isParent, family⟩ := exists_parent member
                (by rw [named]; exact Option.some_ne_none _)
              have same := isParent.2.2
              rw [named, Option.some.injEq] at same
              have deeper := placed.depth isParent
              have fresh : parentId ∉ seen := by
                intro again
                rw [same] at again
                have least := below parent isParent.1 again
                omega
              have found : branches.fetchBranch tenantId parentId =
                  some parent := fetchBranch_eq_some.mpr
                ⟨isParent.1, family.trans tenant, same.symm⟩
              simp only [ancestorsFrom, if_neg fresh, found]
              rw [nearest_parent placed distinct known isParent tenant own]
              refine induction (parentId :: seen) isParent.1
                (family.trans tenant) (by omega) ?_
              intro other inside earlier
              rcases List.mem_cons.mp earlier with here | before
              · rw [same] at here
                obtain rfl := eq_of_branchId inside isParent.1 here
                exact Int.le_refl _
              · have least := below other inside before
                omega

end Placed

end Branches

end AcpTask.Contacts
