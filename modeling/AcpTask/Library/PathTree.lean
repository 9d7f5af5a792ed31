import Mathlib.Data.List.Infix
import Mathlib.Logic.Relation

namespace AcpTask.Library

universe u v w

/-! Nodes that have a path each: their parent's, a separator, and a name of
their own.  Within a family no two of them share one. -/

structure PathTree {Node : Type u} {Symbol : Type v} {Family : Type w}
    (member : Node → Prop) (parent : Node → Node → Prop)
    (family : Node → Family) (separator : Symbol)
    (name path : Node → List Symbol) : Prop where
  above : ∀ {upper lower}, parent upper lower → member upper
  related : ∀ {upper lower}, parent upper lower → family upper = family lower
  child : ∀ {upper lower}, parent upper lower →
    path lower = path upper ++ separator :: name lower
  root : ∀ {node}, member node → (∀ upper, ¬ parent upper node) →
    path node = separator :: name node
  plain : ∀ {node}, member node → separator ∉ name node
  distinct : ∀ {left right}, member left → member right →
    family left = family right → path left = path right → left = right

namespace PathTree

variable {Node : Type u} {Symbol : Type v} {Family : Type w}
  {member : Node → Prop} {parent : Node → Node → Prop}
  {family : Node → Family} {separator : Symbol}
  {name path : Node → List Symbol}

variable {upper lower : Node}

section Tree

variable (tree : PathTree member parent family separator name path)

include tree

theorem longer (child : parent upper lower) :
    (path upper).length < (path lower).length := by
  rw [tree.child child, List.length_append, List.length_cons]
  omega

theorem parent_unique {other : Node} (child : parent upper lower)
    (also : parent other lower) :
    upper = other := by
  refine tree.distinct (tree.above child) (tree.above also)
    ((tree.related child).trans (tree.related also).symm) ?_
  have same := (tree.child child).symm.trans (tree.child also)
  exact List.append_cancel_right same

theorem prefix_of_transGen (below : Relation.TransGen parent upper lower) :
    path upper ++ [separator] <+: path lower := by
  induction below with
  | single child =>
      rw [tree.child child]
      exact ⟨name _, by rw [List.append_assoc]; rfl⟩
  | tail _ child induction =>
      rw [tree.child child]
      exact induction.trans (List.prefix_append _ _)

theorem acyclic (node : Node) : ¬ Relation.TransGen parent node node := by
  intro cycle
  have shorter := (tree.prefix_of_transGen cycle).length_le
  rw [List.length_append, List.length_singleton] at shorter
  omega

end Tree

theorem split_prefix {front back text : List Symbol}
    (plain : separator ∉ text)
    (begins : front ++ [separator] <+: back ++ separator :: text) :
    front = back ∨ front ++ [separator] <+: back := by
  rcases Nat.lt_trichotomy front.length back.length with
    shorter | same | longer
  · right
    refine List.prefix_of_prefix_length_le begins (List.prefix_append back _) ?_
    rw [List.length_append, List.length_singleton]
    omega
  · left
    have inner : front <+: back ++ separator :: text :=
      (List.prefix_append front [separator]).trans begins
    exact (List.prefix_of_prefix_length_le inner
      (List.prefix_append back _) (by omega)).eq_of_length same
  · exfalso
    have inner : front <+: back ++ separator :: text :=
      (List.prefix_append front [separator]).trans begins
    obtain ⟨more, rfl⟩ := List.prefix_of_prefix_length_le
      (List.prefix_append back _) inner (by omega)
    rw [List.append_assoc] at begins
    have rest := (List.prefix_append_right_inj back).mp begins
    cases more with
    | nil => simp at longer
    | cons =>
        rw [List.cons_append, List.cons_prefix_cons] at rest
        exact plain (rest.2.subset (List.mem_append_right _ List.mem_cons_self))

section Tree

variable (tree : PathTree member parent family separator name path)

include tree

theorem transGen_of_prefix (above : member upper) (below : member lower)
    (related : family upper = family lower)
    (begins : path upper ++ [separator] <+: path lower) :
    Relation.TransGen parent upper lower := by
  generalize size : (path lower).length = length
  induction length using Nat.strong_induction_on generalizing lower with
  | _ _ induction =>
      by_cases child : ∃ middle, parent middle lower
      · obtain ⟨middle, child⟩ := child
        rw [tree.child child] at begins
        rcases split_prefix (tree.plain below) begins with same | inner
        · rw [tree.distinct above (tree.above child)
            (related.trans (tree.related child).symm) same]
          exact .single child
        · have shorter := tree.longer child
          exact (induction _ (by omega) (tree.above child)
            (related.trans (tree.related child).symm) inner rfl).tail child
      · have top := tree.root below (not_exists.mp child)
        rw [top, ← List.nil_append (separator :: name lower)] at begins
        rcases split_prefix (tree.plain below) begins with same | inner
        · by_cases upmost : ∃ middle, parent middle upper
          · obtain ⟨_, upmost⟩ := upmost
            rw [tree.child upmost] at same
            simp at same
          · rw [tree.root above (not_exists.mp upmost)] at same
            cases same
        · simp at inner

theorem prefix_iff (above : member upper) (below : member lower)
    (related : family upper = family lower) :
    path upper ++ [separator] <+: path lower ↔
      Relation.TransGen parent upper lower :=
  ⟨tree.transGen_of_prefix above below related, tree.prefix_of_transGen⟩

theorem related_of_transGen (below : Relation.TransGen parent upper lower) :
    family upper = family lower := by
  induction below with
  | single child => exact tree.related child
  | tail _ child induction => exact induction.trans (tree.related child)

theorem exists_root {node : Node} (inside : member node) :
    ∃ root, member root ∧ (∀ upper, ¬ parent upper root) ∧
      Relation.ReflTransGen parent root node := by
  generalize size : (path node).length = length
  induction length using Nat.strong_induction_on generalizing node with
  | _ _ induction =>
      by_cases child : ∃ upper, parent upper node
      · obtain ⟨_, child⟩ := child
        have shorter := tree.longer child
        obtain ⟨root, member, top, reaches⟩ :=
          induction _ (by omega) (tree.above child) rfl
        exact ⟨root, member, top, reaches.tail child⟩
      · exact ⟨node, inside, not_exists.mp child, .refl⟩

end Tree

end PathTree

end AcpTask.Library

namespace AcpTask.Library

universe u v

variable {Node : Type u} {Decision : Type v} {own later : Node → Option Decision}
  {edited : Node} {nearer above chain : List Node}

def inherited (own : Node → Option Decision) (chain : List Node) :
    Option Decision :=
  chain.findSome? own

def TakesFrom (own : Node → Option Decision) (edited : Node)
    (chain : List Node) : Prop :=
  ∃ nearer above, chain = nearer ++ edited :: above ∧
    ∀ node ∈ nearer, node ≠ edited ∧ own node = none

theorem inherited_congr (same : ∀ node ∈ chain, later node = own node) :
    inherited later chain = inherited own chain := by
  unfold inherited
  induction chain with
  | nil => rfl
  | cons node _ induction =>
      rw [List.findSome?_cons, List.findSome?_cons,
        same node List.mem_cons_self,
        induction fun other member => same other (.tail _ member)]

theorem inherited_append (undecided : ∀ node ∈ nearer, own node = none) :
    inherited own (nearer ++ edited :: above) =
      (own edited).or (inherited own above) := by
  induction nearer with
  | nil =>
      rw [List.nil_append, inherited, List.findSome?_cons]
      cases own edited <;> rfl
  | cons node _ induction =>
      rw [List.cons_append, inherited, List.findSome?_cons,
        undecided node List.mem_cons_self]
      exact induction fun other member => undecided other (.tail _ member)

theorem inherited_edited
    (elsewhere : ∀ node ∈ nearer, node ≠ edited → later node = own node)
    (undecided : ∀ node ∈ nearer, node ≠ edited ∧ own node = none) :
    inherited later (nearer ++ edited :: above) =
      (later edited).or (inherited later above) := by
  apply inherited_append
  intro node member
  obtain ⟨apart, none⟩ := undecided node member
  rw [elsewhere node member apart]
  exact none

theorem inherited_or_takesFrom [DecidableEq Node]
    (elsewhere : ∀ node ∈ chain, node ≠ edited → later node = own node) :
    inherited later chain = inherited own chain ∨
      TakesFrom own edited chain := by
  induction chain with
  | nil => exact .inl rfl
  | cons node chain induction =>
      by_cases here : node = edited
      · subst here
        exact .inr ⟨[], chain, rfl, fun _ member => (by cases member)⟩
      · have same := elsewhere node List.mem_cons_self here
        rw [inherited, inherited, List.findSome?_cons, List.findSome?_cons,
          same]
        cases decides : own node with
        | some => exact .inl rfl
        | none =>
            rcases induction fun other member =>
                elsewhere other (.tail _ member) with
              kept | ⟨nearer, above, rfl, undecided⟩
            · exact .inl kept
            · exact .inr ⟨node :: nearer, above, rfl,
                List.forall_mem_cons.mpr ⟨⟨here, decides⟩, undecided⟩⟩

end AcpTask.Library
