import Mathlib.Data.List.Basic

namespace AcpTask.Library

universe u

variable {Letter : Type u} [DecidableEq Letter]

/-! The Levenshtein distance, and the pairs of words within one edit. -/

def editDistance : List Letter → List Letter → Nat
  | [], right => right.length
  | left, [] => left.length
  | first :: left, second :: right =>
      min (min (editDistance left (second :: right))
          (editDistance (first :: left) right) + 1)
        (editDistance left right + if first = second then 0 else 1)
  termination_by left right => left.length + right.length

theorem editDistance_eq_zero_iff {left right : List Letter} :
    editDistance left right = 0 ↔ left = right := by
  induction left generalizing right with
  | nil => simp [editDistance, eq_comm]
  | cons first left induction =>
      cases right with
      | nil => simp [editDistance]
      | cons second right =>
          by_cases same : first = second <;>
            simp [editDistance, same, induction]

def LeavesOneOut (longer shorter : List Letter) : Prop :=
  ∃ index < longer.length, longer.eraseIdx index = shorter

def Mismatches (count : Nat) (left right : List Letter) : Prop :=
  left.length = right.length ∧
    (left.zip right).countP (fun pair => pair.1 != pair.2) ≤ count

omit [DecidableEq Letter] in
theorem leavesOneOut_cons_iff {first second : Letter}
    {longer shorter : List Letter} :
    LeavesOneOut (first :: longer) (second :: shorter) ↔
      longer = second :: shorter ∨
        first = second ∧ LeavesOneOut longer shorter := by
  constructor
  · rintro ⟨_ | index, inside, erased⟩
    · exact .inl erased
    · rw [List.eraseIdx_cons_succ, List.cons.injEq] at erased
      exact .inr ⟨erased.1, index, Nat.lt_of_succ_lt_succ inside, erased.2⟩
  · rintro (rfl | ⟨rfl, index, inside, rfl⟩)
    · exact ⟨0, Nat.zero_lt_succ _, rfl⟩
    · exact ⟨index + 1, Nat.succ_lt_succ inside, rfl⟩

theorem mismatches_zero_iff {left right : List Letter} :
    Mismatches 0 left right ↔ left = right := by
  induction left generalizing right with
  | nil => cases right <;> simp [Mismatches]
  | cons first left induction =>
      cases right with
      | nil => simp [Mismatches]
      | cons second right =>
          rw [List.cons.injEq, ← induction]
          by_cases same : first = second <;> simp [Mismatches, same]

theorem mismatches_one_cons_iff {first second : Letter}
    {left right : List Letter} :
    Mismatches 1 (first :: left) (second :: right) ↔
      if first = second then Mismatches 1 left right else left = right := by
  split
  · simp [Mismatches, *]
  · rw [← mismatches_zero_iff]
    simp [Mismatches, *]

theorem editDistance_le_one_iff (left right : List Letter) :
    editDistance left right ≤ 1 ↔
      Mismatches 1 left right ∨ LeavesOneOut left right ∨
        LeavesOneOut right left := by
  induction left generalizing right with
  | nil => cases right <;> simp [editDistance, Mismatches, LeavesOneOut]
  | cons first left induction =>
      cases right with
      | nil => simp [editDistance, Mismatches, LeavesOneOut]
      | cons second right =>
          have here : editDistance (first :: left) (second :: right) ≤ 1 ↔
              left = second :: right ∨ first :: left = right ∨
                if first = second then editDistance left right ≤ 1
                else left = right := by
            simp only [editDistance, ← editDistance_eq_zero_iff]
            split <;> omega
          rw [here, mismatches_one_cons_iff, leavesOneOut_cons_iff,
            leavesOneOut_cons_iff, eq_comm (a := right)]
          by_cases same : first = second
          · simp only [same, if_true, induction, true_and]
            tauto
          · simp only [same, Ne.symm same, if_false, false_and, or_false]
            tauto

end AcpTask.Library
