import Mathlib.Tactic.DeriveCountable
import Mathlib.Data.Rat.Encodable
import Mathlib.Data.String.Basic
import Mathlib.Logic.Equiv.List
import AcpTask.Data.Value

namespace AcpTask.Data

/-! Documents are countable, so that some hash of them tells any two apart. -/

instance countableChar : Countable Char :=
  @Function.Injective.countable _ _ _ Char.toNat fun _ _ same =>
    Char.toNat_inj.mp same

instance countableString : Countable String :=
  @Function.Injective.countable _ _ _ String.toList fun _ _ same =>
    String.toList_inj.mp same

deriving instance Countable for PyFloat

inductive Mark where
  | none
  | bool (value : Bool)
  | int (value : Int)
  | float (value : PyFloat)
  | str (value : String)
  | object (className : String)
  | list
  | dict
  deriving Countable

inductive Tree where
  | leaf (mark : Mark)
  | pair (left right : Tree)
  deriving Countable

namespace Value

mutual
def tree : Value → Tree
  | .none => .leaf .none
  | .bool value => .leaf (.bool value)
  | .int value => .leaf (.int value)
  | .float value => .leaf (.float value)
  | .str value => .leaf (.str value)
  | .object className => .leaf (.object className)
  | .list items => .pair (.leaf .list) (treeItems items)
  | .dict items => .pair (.leaf .dict) (treePairs items)

def treeItems : List Value → Tree
  | [] => .leaf .none
  | item :: rest => .pair (tree item) (treeItems rest)

def treePairs : List (String × Value) → Tree
  | [] => .leaf .none
  | (key, item) :: rest =>
      .pair (.leaf (.str key)) (.pair (tree item) (treePairs rest))
end

mutual
theorem tree_inj : ∀ {first second : Value},
    tree first = tree second → first = second
  | .list items, second, same => by
      cases second <;> simp [tree] at same ⊢
      exact treeItems_inj same
  | .dict items, second, same => by
      cases second <;> simp [tree] at same ⊢
      exact treePairs_inj same
  | .none, second, same | .bool value, second, same
  | .int value, second, same | .float value, second, same
  | .str value, second, same | .object className, second, same =>
      by cases second <;> simp_all [tree]

theorem treeItems_inj : ∀ {first second : List Value},
    treeItems first = treeItems second → first = second
  | [], second, same => by cases second <;> simp_all [treeItems]
  | item :: rest, second, same => by
      cases second with
      | nil => simp [treeItems] at same
      | cons =>
          simp only [treeItems, Tree.pair.injEq] at same
          rw [tree_inj same.1, treeItems_inj same.2]

theorem treePairs_inj : ∀ {first second : List (String × Value)},
    treePairs first = treePairs second → first = second
  | [], second, same => by cases second <;> simp_all [treePairs]
  | (key, item) :: rest, second, same => by
      cases second with
      | nil => simp [treePairs] at same
      | cons =>
          simp only [treePairs, Tree.pair.injEq, Tree.leaf.injEq,
            Mark.str.injEq] at same
          rw [same.1, tree_inj same.2.1, treePairs_inj same.2.2]
end

instance : Countable Value :=
  @Function.Injective.countable _ _ _ tree fun _ _ same => tree_inj same

end Value

noncomputable def digest (Document : Type) [Countable Document] :
    Document → String :=
  fun document => String.ofList (List.replicate
    ((exists_injective_nat Document).choose document) '0')

theorem digest_injective (Document : Type) [Countable Document] :
    Function.Injective (digest Document) := by
  intro first second same
  have lengths := congrArg (fun text : String => text.toList.length) same
  simp only [digest, String.toList_ofList, List.length_replicate] at lengths
  exact (exists_injective_nat Document).choose_spec lengths

end AcpTask.Data
