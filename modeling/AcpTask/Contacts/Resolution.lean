import AcpTask.Library.EditDistance

namespace AcpTask.Contacts

open Library

variable {Letter : Type} [DecidableEq Letter]

/-- `_within_one_edit`, on the code points of two tokens. -/
def withinOneEdit (left right : List Letter) : Bool :=
  if 1 < ((left.length : Int) - right.length).natAbs then false
  else if left = right then true
  else if left.length = right.length then
    let differences := (left.zip right).countP fun pair => pair.1 != pair.2
    decide (differences ≤ 1)
  else
    let (longer, shorter) :=
      if right.length < left.length then (left, right) else (right, left)
    (List.range longer.length).any fun index =>
      longer.take index ++ longer.drop (index + 1) == shorter

theorem any_erased_iff {longer shorter : List Letter} :
    ((List.range longer.length).any fun index =>
        longer.take index ++ longer.drop (index + 1) == shorter) = true ↔
      LeavesOneOut longer shorter := by
  simp [LeavesOneOut, List.eraseIdx_eq_take_drop_succ]

omit [DecidableEq Letter] in
theorem length_of_leavesOneOut {longer shorter : List Letter}
    (leaves : LeavesOneOut longer shorter) :
    longer.length = shorter.length + 1 := by
  obtain ⟨_, inside, rfl⟩ := leaves
  rw [List.length_eraseIdx_of_lt inside]
  omega

/-- The comparison of two tokens decides whether their distance is at most
one. -/
theorem within_one_edit_iff (left right : List Letter) :
    withinOneEdit left right = true ↔ editDistance left right ≤ 1 := by
  have leftOut := @length_of_leavesOneOut _ left right
  have rightOut := @length_of_leavesOneOut _ right left
  unfold withinOneEdit
  split
  · rw [editDistance_le_one_iff]
    refine iff_of_false Bool.false_ne_true ?_
    rintro (⟨same, _⟩ | leaves | leaves)
    · omega
    · have longer := leftOut leaves
      omega
    · have longer := rightOut leaves
      omega
  split
  · rename_i same
    simp [editDistance_eq_zero_iff.mpr same]
  rw [editDistance_le_one_iff]
  split
  · rename_i same
    rw [decide_eq_true_eq, or_iff_left]
    · exact (and_iff_right same).symm
    · rintro (leaves | leaves)
      · have longer := leftOut leaves
        omega
      · have longer := rightOut leaves
        omega
  · rename_i apart
    rw [or_iff_right fun mismatches => apart mismatches.1]
    by_cases more : right.length < left.length
    · simp only [if_pos more]
      rw [any_erased_iff, or_iff_left]
      intro leaves
      have longer := rightOut leaves
      omega
    · simp only [if_neg more]
      rw [any_erased_iff, or_iff_right]
      intro leaves
      have longer := leftOut leaves
      omega

example : withinOneEdit "perez".toList "peres".toList = true ∧
    withinOneEdit "ana".toList "anita".toList = false := by decide +kernel

end AcpTask.Contacts
