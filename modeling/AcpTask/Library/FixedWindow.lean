import Mathlib.Algebra.Order.BigOperators.Group.List

namespace AcpTask.Library

/-! Fixed windows that open when something is asked for.  What is granted falls
in the open window, and the next one opens no earlier than the last one ends. -/

universe u v

structure Grant (Time : Type u) (Units : Type v) where
  instant : Time
  opened : Time
  units : Units

variable {Time : Type u} {Units : Type v}

def granted [AddMonoid Units] (test : Grant Time Units → Bool)
    (grants : List (Grant Time Units)) : Units :=
  ((grants.filter test).map Grant.units).sum

section Sums

variable [AddCommMonoid Units]

@[simp] theorem granted_nil (test : Grant Time Units → Bool) :
    granted test [] = 0 := rfl

theorem granted_cons (test : Grant Time Units → Bool)
    (grant : Grant Time Units) (grants : List (Grant Time Units)) :
    granted test (grant :: grants) =
      (if test grant then grant.units else 0) + granted test grants := by
  unfold granted
  rw [List.filter_cons]
  split
  · rw [List.map_cons, List.sum_cons]
  · rw [zero_add]

theorem granted_split (test other : Grant Time Units → Bool)
    (grants : List (Grant Time Units)) :
    granted test grants =
      granted (fun grant => test grant && other grant) grants +
        granted (fun grant => test grant && !other grant) grants := by
  induction grants with
  | nil => simp
  | cons grant _ induction =>
      rw [granted_cons, granted_cons, granted_cons, induction]
      cases test grant <;> cases other grant <;> simp [add_assoc, add_left_comm]

theorem granted_eq_zero {test : Grant Time Units → Bool}
    {grants : List (Grant Time Units)}
    (none : ∀ grant ∈ grants, test grant = false) : granted test grants = 0 := by
  unfold granted
  rw [List.filter_eq_nil_iff.mpr]
  · rfl
  · intro grant member
    rw [none grant member]
    exact Bool.false_ne_true

variable [PartialOrder Units] [IsOrderedAddMonoid Units]

theorem granted_mono {test other : Grant Time Units → Bool}
    {grants : List (Grant Time Units)}
    (nonnegative : ∀ grant ∈ grants, 0 ≤ grant.units)
    (weaker : ∀ grant ∈ grants, test grant = true → other grant = true) :
    granted test grants ≤ granted other grants := by
  induction grants with
  | nil => exact le_rfl
  | cons grant grants induction =>
      have rest := induction
        (fun later member => nonnegative later (List.mem_cons_of_mem _ member))
        (fun later member => weaker later (List.mem_cons_of_mem _ member))
      have here := weaker grant List.mem_cons_self
      have sign := nonnegative grant List.mem_cons_self
      rw [granted_cons, granted_cons]
      refine add_le_add ?_ rest
      split
      · rename_i passes
        rw [if_pos (here passes)]
      · split
        · exact sign
        · exact le_rfl

end Sums

section Windows

variable [LinearOrder Time] [Add Time] {span start : Time} {limit : Units}
  {grants : List (Grant Time Units)}

def during (start span : Time) (grant : Grant Time Units) : Bool :=
  decide (start ≤ grant.instant) && decide (grant.instant ≤ start + span)

theorem during_iff {grant : Grant Time Units} :
    during start span grant = true ↔
      start ≤ grant.instant ∧ grant.instant ≤ start + span := by
  simp [during]

variable [AddCommMonoid Units] [PartialOrder Units]

/-- Each grant falls in its window, two windows do not overlap, and none gives
more than the limit. -/
structure Windowed (span : Time) (limit : Units)
    (grants : List (Grant Time Units)) : Prop where
  nonnegative : ∀ grant ∈ grants, 0 ≤ grant.units
  inside : ∀ grant ∈ grants,
    grant.opened ≤ grant.instant ∧ grant.instant < grant.opened + span
  apart : ∀ first ∈ grants, ∀ second ∈ grants,
    first.opened < second.opened → first.opened + span ≤ second.opened
  bounded : ∀ opened,
    granted (fun grant => decide (grant.opened = opened)) grants ≤ limit

theorem Windowed.cons (windowed : Windowed span limit grants)
    {grant : Grant Time Units} (nonnegative : 0 ≤ grant.units)
    (inside : grant.opened ≤ grant.instant ∧
      grant.instant < grant.opened + span)
    (latest : ∀ other ∈ grants, other.opened ≤ grant.opened)
    (apart : ∀ other ∈ grants, other.opened < grant.opened →
      other.opened + span ≤ grant.opened)
    (room : grant.units +
      granted (fun other => decide (other.opened = grant.opened)) grants ≤
        limit) : Windowed span limit (grant :: grants) where
  nonnegative := List.forall_mem_cons.mpr ⟨nonnegative, windowed.nonnegative⟩
  inside := List.forall_mem_cons.mpr ⟨inside, windowed.inside⟩
  apart first firstMember second secondMember before := by
    rcases List.mem_cons.mp firstMember with rfl | firstOld
    · rcases List.mem_cons.mp secondMember with rfl | secondOld
      · exact absurd before (lt_irrefl _)
      · exact absurd (before.trans_le (latest second secondOld)) (lt_irrefl _)
    · rcases List.mem_cons.mp secondMember with rfl | secondOld
      · exact apart first firstOld before
      · exact windowed.apart first firstOld second secondOld before
  bounded opened := by
    rw [granted_cons]
    by_cases same : grant.opened = opened
    · subst same
      rw [if_pos (decide_eq_true rfl)]
      exact room
    · rw [if_neg (by simpa using same), zero_add]
      exact windowed.bounded opened

theorem Windowed.window (windowed : Windowed span limit grants)
    {grant : Grant Time Units} (member : grant ∈ grants)
    [IsOrderedAddMonoid Units] :
    granted (fun other => decide (grant.opened ≤ other.instant) &&
      decide (other.instant < grant.opened + span)) grants ≤ limit := by
  refine (granted_mono windowed.nonnegative ?_).trans
    (windowed.bounded grant.opened)
  intro other listed falls
  simp only [Bool.and_eq_true, decide_eq_true_eq] at falls ⊢
  obtain ⟨starts, ends⟩ := windowed.inside other listed
  rcases lt_trichotomy other.opened grant.opened with earlier | same | later
  · have ended := windowed.apart other listed grant member earlier
    exact absurd (ends.trans_le (ended.trans falls.1)) (lt_irrefl _)
  · exact same
  · have ended := windowed.apart grant member other listed later
    exact absurd (falls.2.trans_le (ended.trans starts)) (lt_irrefl _)

variable [AddRightStrictMono Time]

theorem Windowed.not_three (windowed : Windowed span limit grants)
    {first second third : Grant Time Units} (firstMember : first ∈ grants)
    (secondMember : second ∈ grants) (thirdMember : third ∈ grants)
    (before : first.opened < second.opened)
    (after : second.opened < third.opened)
    (starts : start ≤ first.instant) (ends : third.instant ≤ start + span) :
    False := by
  have firstEnds := windowed.apart first firstMember second secondMember before
  have secondEnds := windowed.apart second secondMember third thirdMember after
  have reaches : start < second.opened :=
    (starts.trans_lt (windowed.inside first firstMember).2).trans_le firstEnds
  have past : start + span < second.opened + span := by
    gcongr
  exact absurd (((windowed.inside third thirdMember).1.trans ends).trans_lt past)
    secondEnds.not_gt

theorem Windowed.two_windows (windowed : Windowed span limit grants)
    {first second third : Grant Time Units} (firstMember : first ∈ grants)
    (secondMember : second ∈ grants) (thirdMember : third ∈ grants)
    (firstDuring : during start span first = true)
    (secondDuring : during start span second = true)
    (thirdDuring : during start span third = true) :
    first.opened = second.opened ∨ first.opened = third.opened ∨
      second.opened = third.opened := by
  rw [during_iff] at firstDuring secondDuring thirdDuring
  rcases lt_trichotomy first.opened second.opened with less | same | more
  · rcases lt_trichotomy second.opened third.opened with less' | same | more'
    · exact (windowed.not_three firstMember secondMember thirdMember less less'
        firstDuring.1 thirdDuring.2).elim
    · exact .inr (.inr same)
    · rcases lt_trichotomy first.opened third.opened with less'' | same | more''
      · exact (windowed.not_three firstMember thirdMember secondMember less''
          more' firstDuring.1 secondDuring.2).elim
      · exact .inr (.inl same)
      · exact (windowed.not_three thirdMember firstMember secondMember more''
          less thirdDuring.1 secondDuring.2).elim
  · exact .inl same
  · rcases lt_trichotomy first.opened third.opened with less' | same | more'
    · exact (windowed.not_three secondMember firstMember thirdMember more less'
        secondDuring.1 thirdDuring.2).elim
    · exact .inr (.inl same)
    · rcases lt_trichotomy second.opened third.opened with less'' | same | more''
      · exact (windowed.not_three secondMember thirdMember firstMember less''
          more' secondDuring.1 firstDuring.2).elim
      · exact .inr (.inr same)
      · exact (windowed.not_three thirdMember secondMember firstMember more''
          more thirdDuring.1 firstDuring.2).elim

variable [IsOrderedAddMonoid Units]

omit [AddRightStrictMono Time] in
theorem Windowed.limit_nonneg (windowed : Windowed span limit grants)
    (start : Time) : 0 ≤ limit := by
  refine le_trans (List.sum_nonneg ?_) (windowed.bounded start)
  intro units member
  obtain ⟨grant, listed, rfl⟩ := List.mem_map.mp member
  exact windowed.nonnegative grant (List.mem_of_mem_filter listed)

theorem Windowed.interval (windowed : Windowed span limit grants)
    (start : Time) : granted (during start span) grants ≤ limit + limit := by
  by_cases none : ∀ grant ∈ grants, during start span grant = false
  · rw [granted_eq_zero none]
    exact add_nonneg (windowed.limit_nonneg start) (windowed.limit_nonneg start)
  · push Not at none
    obtain ⟨first, member, inside⟩ := none
    rw [Bool.ne_false_iff] at inside
    have firstWindow : granted (fun grant => during start span grant &&
        decide (grant.opened = first.opened)) grants ≤ limit :=
      (granted_mono windowed.nonnegative fun grant _ passes =>
        (Bool.and_eq_true_iff.mp passes).2).trans
        (windowed.bounded first.opened)
    have otherWindow : granted (fun grant => during start span grant &&
        !decide (grant.opened = first.opened)) grants ≤ limit := by
      by_cases alone : ∀ grant ∈ grants, during start span grant = true →
          grant.opened = first.opened
      · rw [granted_eq_zero]
        · exact windowed.limit_nonneg start
        · intro grant listed
          cases passes : during start span grant with
          | false => rfl
          | true => simp [alone grant listed passes]
      · push Not at alone
        obtain ⟨second, listed, passes, differs⟩ := alone
        refine (granted_mono windowed.nonnegative ?_).trans
          (windowed.bounded second.opened)
        intro grant there outside
        simp only [Bool.and_eq_true, Bool.not_eq_true', decide_eq_false_iff_not]
          at outside
        rcases windowed.two_windows member listed there inside passes outside.1
          with same | same | same
        · exact absurd same.symm differs
        · exact absurd same.symm outside.2
        · exact decide_eq_true same.symm
    rw [granted_split _ fun grant => decide (grant.opened = first.opened)]
    exact add_le_add firstWindow otherWindow

end Windows

end AcpTask.Library
