import Mathlib.Order.Lattice

namespace AcpTask.Library

/-! The first of some items in a stable sort by falling rank, and when the
order they come in does not matter. -/

universe u v

variable {Item : Type u} {Rank : Type v} [LinearOrder Rank] (rank : Item → Rank)

def topRanked (items : List Item) : Option Item :=
  (items.mergeSort fun first second => decide (rank second ≤ rank first)).head?

def Highest (items : List Item) (item : Item) : Prop :=
  item ∈ items ∧ ∀ other ∈ items, rank other ≤ rank item

variable {rank}

theorem Highest.rank_eq {items : List Item} {first second : Item}
    (highest : Highest rank items first) (other : Highest rank items second) :
    rank first = rank second :=
  le_antisymm (other.2 first highest.1) (highest.2 second other.1)

theorem Highest.perm {items order : List Item} {item : Item}
    (highest : Highest rank items item) (perm : order.Perm items) :
    Highest rank order item :=
  ⟨perm.mem_iff.mpr highest.1, fun other member =>
    highest.2 other (perm.mem_iff.mp member)⟩

theorem falling_trans (first second third : Item)
    (left : decide (rank second ≤ rank first) = true)
    (right : decide (rank third ≤ rank second) = true) :
    decide (rank third ≤ rank first) = true :=
  decide_eq_true (le_trans (of_decide_eq_true right) (of_decide_eq_true left))

theorem falling_total (first second : Item) :
    (decide (rank second ≤ rank first) ||
      decide (rank first ≤ rank second)) = true := by
  rcases le_total (rank second) (rank first) with least | least <;> simp [least]

@[simp] theorem topRanked_nil : topRanked rank ([] : List Item) = none := by
  simp [topRanked]

theorem topRanked_highest {items : List Item} {item : Item}
    (top : topRanked rank items = some item) : Highest rank items item := by
  have sorted := List.pairwise_mergeSort (@falling_trans _ _ _ rank)
    falling_total items
  have same : ∀ other : Item, other ∈ items.mergeSort
      (fun first second => decide (rank second ≤ rank first)) ↔ other ∈ items :=
    fun _ => List.mem_mergeSort
  unfold topRanked at top
  generalize items.mergeSort _ = order at top sorted same
  cases order with
  | nil => cases top
  | cons =>
      cases top
      refine ⟨(same item).mp List.mem_cons_self, fun other member => ?_⟩
      rcases List.mem_cons.mp ((same other).mpr member) with equal | later
      · exact le_of_eq (congrArg rank equal)
      · exact of_decide_eq_true (List.rel_of_pairwise_cons sorted later)

theorem topRanked_cons {items : List Item} {item : Item}
    (highest : ∀ other ∈ items, rank other ≤ rank item) :
    topRanked rank (item :: items) = some item := by
  obtain ⟨before, _, sorted, rest, outranked⟩ :=
    List.mergeSort_cons (@falling_trans _ _ _ rank) falling_total item items
  cases before with
  | nil => rw [topRanked, sorted]; rfl
  | cons head =>
      have member : head ∈ items.mergeSort
          (fun first second => decide (rank second ≤ rank first)) := by
        rw [rest]
        exact List.mem_append_left _ List.mem_cons_self
      have refused := outranked head List.mem_cons_self
      simp [highest head (List.mem_mergeSort.mp member)] at refused

theorem topRanked_eq_none_iff {items : List Item} :
    topRanked rank items = none ↔ items = [] := by
  rw [topRanked, List.head?_eq_none_iff, ← List.length_eq_zero_iff,
    List.length_mergeSort, List.length_eq_zero_iff]

theorem topRanked_filter_perm_iff [DecidableEq Item] (keep : Item → Bool)
    (items : List Item) :
    (∀ order : List Item, order.Perm items →
        topRanked rank (order.filter keep) =
          topRanked rank (items.filter keep)) ↔
      ∀ first second, Highest rank (items.filter keep) first →
        Highest rank (items.filter keep) second → first = second := by
  constructor
  · intro steady first second highest other
    have leads : ∀ item, Highest rank (items.filter keep) item →
        topRanked rank (items.filter keep) = some item := by
      intro item leading
      obtain ⟨member, kept⟩ := List.mem_filter.mp leading.1
      have perm := List.perm_cons_erase member
      rw [← steady _ perm.symm, List.filter_cons_of_pos kept]
      apply topRanked_cons
      intro later held
      apply leading.2
      rw [(perm.filter keep).mem_iff, List.filter_cons_of_pos kept]
      exact List.mem_cons_of_mem item held
    exact Option.some.inj ((leads first highest).symm.trans
      (leads second other))
  · intro single order perm
    have kept := perm.filter keep
    cases top : topRanked rank (items.filter keep) with
    | none =>
        rw [topRanked_eq_none_iff] at top ⊢
        exact (top ▸ kept).eq_nil
    | some item =>
        cases other : topRanked rank (order.filter keep) with
        | none =>
            rw [topRanked_eq_none_iff] at other
            have empty := (other ▸ kept).nil_eq
            rw [← empty, topRanked_nil] at top
            cases top
        | some second =>
            exact congrArg some (single second item
              ((topRanked_highest other).perm kept.symm)
              (topRanked_highest top))

end AcpTask.Library
