import Mathlib.Tactic.Positivity
import Mathlib.Data.Rat.Floor
import AcpTask.Library.Run
import AcpTask.Library.Transaction

namespace AcpTask.Marketplace

open Library

/-! The ratings of one agent, and the summary that a trigger keeps of them. -/

/-- `round(value, places)`, of what is not negative. -/
def roundTo (places : Nat) (value : ℚ) : ℚ :=
  ⌊value * 10 ^ places + 1 / 2⌋ / 10 ^ places

/-- How many decimals a quotient of `numeric`s gets: below 10000, at least
sixteen. -/
structure NumericDivision where
  scale : ℚ → ℚ → Nat
  sixteen : ∀ dividend divisor, dividend / divisor < 10000 →
    16 ≤ scale dividend divisor

def NumericDivision.divide (division : NumericDivision)
    (dividend divisor : ℚ) : ℚ :=
  roundTo (division.scale dividend divisor) (dividend / divisor)

structure RatingSummary where
  avgRating : ℚ
  reviewCount : Nat
  deriving DecidableEq

structure RatingStore where
  ratings : List Int := []
  summary : Option RatingSummary := none

inductive RatingError where
  | ratingCheck
  | integerOutOfRange

def updateRatingSummary (division : NumericDivision) (rating : Int) :
    Option RatingSummary → Except RatingError RatingSummary
  | none => .ok ⟨rating, 1⟩
  | some summary => do
      require (decide (summary.reviewCount + 1 < 2 ^ 31)) .integerOutOfRange
      pure {
        avgRating := roundTo 2 (division.divide
          (summary.avgRating * summary.reviewCount + rating)
          (summary.reviewCount + 1 : Nat))
        reviewCount := summary.reviewCount + 1 }

/-- `set_rating`: the row and what its trigger makes of it. -/
def setRating (division : NumericDivision) (store : RatingStore)
    (rating : Int) : Except RatingError RatingStore := do
  require (decide (1 ≤ rating ∧ rating ≤ 5)) .ratingCheck
  let summary ← updateRatingSummary division rating store.summary
  pure { ratings := store.ratings ++ [rating], summary := some summary }

def ratingStep (division : NumericDivision) (store : RatingStore)
    (rating : Int) : RatingStore :=
  (setRating division store rating).toOption.getD store

def mean (ratings : List Int) : ℚ := ratings.sum / ratings.length

def RatingStore.Exact (store : RatingStore) : Prop :=
  ∀ summary ∈ store.summary, summary.reviewCount = store.ratings.length ∧
    summary.avgRating = roundTo 2 (mean store.ratings)

/-- What rounding their mean to two decimals adds to the total of the ratings,
in hundredths. -/
def carried (ratings : List Int) : Int :=
  (200 * ratings.sum + ratings.length) / (2 * ratings.length) *
    ratings.length - 100 * ratings.sum

/-- How far the total with a new rating stands above the last at which the mean
rounds up, in halves of a hundredth. -/
def room (ratings : List Int) (rating : Int) : Int :=
  (200 * (ratings.sum + rating) + (ratings.length + 1)) %
    (2 * (ratings.length + 1))

/-- What is carried along crosses no total at which the mean rounds
otherwise. -/
def RatingStore.Undisturbed (store : RatingStore) (rating : Int) : Prop :=
  1 ≤ rating ∧ rating ≤ 5 → store.ratings ≠ [] →
    store.ratings.length + 1 < 2 ^ 31 →
      0 ≤ room store.ratings rating + 2 * carried store.ratings ∧
        room store.ratings rating + 2 * carried store.ratings <
          2 * (store.ratings.length + 1)

theorem ediv_add_eq_iff {value error divisor : Int} (positive : 0 < divisor) :
    (value + error) / divisor = value / divisor ↔
      0 ≤ value % divisor + error ∧ value % divisor + error < divisor := by
  have split := Int.emod_add_mul_ediv value divisor
  constructor
  · intro same
    have other := Int.emod_add_mul_ediv (value + error) divisor
    rw [same] at other
    have rest : value % divisor + error = (value + error) % divisor := by
      linarith
    rw [rest]
    exact ⟨Int.emod_nonneg _ positive.ne', Int.emod_lt_of_pos _ positive⟩
  · intro bounds
    refine ((Int.ediv_emod_unique positive).mpr ⟨?_, bounds⟩).1
    linarith

theorem roundTo_two_div (numerator : Int) {count : Nat} (counted : 0 < count) :
    roundTo 2 ((numerator : ℚ) / (100 * count)) =
      ((2 * numerator + count) / (2 * count) : Int) / 100 := by
  have positive : (0 : ℚ) < count := by exact_mod_cast counted
  have whole : (numerator : ℚ) / (100 * count) * 10 ^ 2 + 1 / 2 =
      ((2 * numerator + count : Int) : ℚ) / ((2 * count : Nat) : ℚ) := by
    push_cast
    field_simp
    ring
  rw [roundTo, whole, Rat.floor_intCast_div_natCast]
  norm_num

theorem rounds_iff {ratings : List Int} (rated : ratings ≠ []) (rating : Int) :
    roundTo 2 ((roundTo 2 (mean ratings) * ratings.length + rating) /
        (ratings.length + 1 : Nat)) = roundTo 2 (mean (ratings ++ [rating])) ↔
      0 ≤ room ratings rating + 2 * carried ratings ∧
        room ratings rating + 2 * carried ratings <
          2 * (ratings.length + 1) := by
  have counted : 0 < ratings.length := List.length_pos_iff.mpr rated
  have positive : (0 : ℚ) < ratings.length := by exact_mod_cast counted
  have stored : roundTo 2 (mean ratings) =
      ((200 * ratings.sum + ratings.length) / (2 * ratings.length) : Int) /
        100 := by
    have scaled : mean ratings =
        ((100 * ratings.sum : Int) : ℚ) / (100 * ratings.length) := by
      rw [mean]
      push_cast
      field_simp
    rw [scaled, roundTo_two_div _ counted]
    ring_nf
  have kept : (roundTo 2 (mean ratings) * ratings.length + rating) /
      (ratings.length + 1 : Nat) =
        ((100 * (ratings.sum + rating) + carried ratings : Int) : ℚ) /
          (100 * (ratings.length + 1 : Nat)) := by
    rw [stored, carried]
    push_cast
    field_simp
    ring
  have exact : mean (ratings ++ [rating]) =
      ((100 * (ratings.sum + rating) : Int) : ℚ) /
        (100 * (ratings.length + 1 : Nat)) := by
    rw [mean, List.sum_append, List.sum_singleton, List.length_append,
      List.length_singleton]
    push_cast
    field_simp
  rw [kept, exact, roundTo_two_div _ (Nat.succ_pos _),
    roundTo_two_div _ (Nat.succ_pos _), div_left_inj' (by norm_num),
    Int.cast_inj, room]
  have moved : 2 * (100 * (ratings.sum + rating) + carried ratings) +
      ((ratings.length + 1 : Nat) : Int) =
        200 * (ratings.sum + rating) + (ratings.length + 1) +
          2 * carried ratings := by
    push_cast
    ring
  have still : 2 * (100 * (ratings.sum + rating)) +
      ((ratings.length + 1 : Nat) : Int) =
        200 * (ratings.sum + rating) + (ratings.length + 1) := by
    push_cast
    ring
  rw [moved, still]
  push_cast
  exact ediv_add_eq_iff (by positivity)

theorem le_roundTo_of_multiple {places : Nat} {value : ℚ} {multiple : Int}
    (below : (multiple : ℚ) / 10 ^ places ≤ value) :
    (multiple : ℚ) / 10 ^ places ≤ roundTo places value := by
  have positive : (0 : ℚ) < 10 ^ places := by positivity
  rw [roundTo, div_le_div_iff_of_pos_right positive, Int.cast_le, Int.le_floor]
  have scaled := (div_le_iff₀ positive).mp below
  linarith

theorem roundTo_le (places : Nat) (value : ℚ) :
    roundTo places value ≤ value + 1 / 2 / 10 ^ places := by
  have positive : (0 : ℚ) < 10 ^ places := by positivity
  have floor := Int.floor_le (value * 10 ^ places + 1 / 2)
  rw [roundTo, div_le_iff₀ positive, add_mul, div_mul_cancel₀ _ positive.ne']
  exact floor

theorem roundTo_two_roundTo {places divisor : Nat} (fine : 16 ≤ places)
    (positive : 0 < divisor) (bounded : divisor < 2 ^ 31) (numerator : Int) :
    roundTo 2 (roundTo places ((numerator : ℚ) / (100 * divisor))) =
      roundTo 2 ((numerator : ℚ) / (100 * divisor)) := by
  obtain ⟨more, rfl⟩ := Nat.exists_eq_add_of_le fine
  have divides : (0 : ℚ) < divisor := by exact_mod_cast positive
  have scale : (10 : ℚ) ^ (16 + more) = 200 * (5 * 10 ^ (13 + more)) := by
    ring
  have large : (100 * divisor : ℚ) < 10 ^ (16 + more) := by
    have power : (1 : ℚ) ≤ 10 ^ more := one_le_pow₀ (by norm_num)
    have small : (divisor : ℚ) < 2 ^ 31 := by exact_mod_cast bounded
    rw [pow_add]
    nlinarith
  set quotient := (numerator : ℚ) / (100 * divisor) with isQuotient
  have scaled : quotient * 100 * divisor = numerator := by
    rw [isQuotient]
    field_simp
  obtain ⟨below, above⟩ := Int.floor_eq_iff.mp
    (rfl : ⌊quotient * 10 ^ 2 + 1 / 2⌋ = _)
  show (⌊roundTo (16 + more) quotient * 10 ^ 2 + 1 / 2⌋ : ℚ) / 10 ^ 2 =
    ⌊quotient * 10 ^ 2 + 1 / 2⌋ / 10 ^ 2
  congr 2
  generalize ⌊quotient * 10 ^ 2 + 1 / 2⌋ = rounded at below above ⊢
  rw [Int.floor_eq_iff]
  constructor
  · have half : (((2 * rounded - 1) * (5 * 10 ^ (13 + more)) : Int) : ℚ) /
        10 ^ (16 + more) = (2 * rounded - 1) / 200 := by
      rw [scale]
      push_cast
      field_simp
    have kept := @le_roundTo_of_multiple (16 + more) quotient _
      (half.trans_le (by linarith))
    rw [half] at kept
    linarith
  · have apart : 2 * numerator + 1 ≤ (2 * rounded + 1) * divisor := by
      have strict : (2 * numerator : ℚ) < (2 * rounded + 1) * divisor := by
        rw [← scaled]
        nlinarith
      exact_mod_cast strict
    have room : (2 * quotient * 100 * divisor + 1 : ℚ) ≤
        (2 * rounded + 1) * divisor := by
      have cast : ((2 * numerator + 1 : Int) : ℚ) ≤
          ((2 * rounded + 1) * divisor : Int) := Int.cast_le.mpr apart
      push_cast at cast
      rw [← scaled] at cast
      linarith
    have error : (1 : ℚ) / 2 / 10 ^ (16 + more) < 1 / (200 * divisor) := by
      rw [div_div, one_div_lt_one_div (by positivity) (by positivity)]
      linarith
    have close := roundTo_le (16 + more) quotient
    have gap : quotient + 1 / (200 * divisor) ≤ (2 * rounded + 1) / 200 := by
      rw [← sub_nonneg]
      have whole : (2 * rounded + 1 : ℚ) / 200 -
          (quotient + 1 / (200 * divisor)) = ((2 * rounded + 1) * divisor -
            (2 * quotient * 100 * divisor + 1)) / (200 * divisor) := by
        field_simp
        ring
      rw [whole]
      exact div_nonneg (by linarith) (by positivity)
    linarith

theorem roundTo_intCast (places : Nat) (value : Int) :
    roundTo places value = value := by
  have positive : (0 : ℚ) < 10 ^ places := by positivity
  have whole : (value : ℚ) * 10 ^ places + 1 / 2 =
      (value * 10 ^ places : Int) + 1 / 2 := by
    push_cast
    rfl
  have half : ⌊(1 / 2 : ℚ)⌋ = 0 := by norm_num
  rw [roundTo, whole, Int.floor_intCast_add, half, add_zero]
  push_cast
  exact mul_div_cancel_right₀ _ positive.ne'

structure RatingStore.Sound (store : RatingStore) : Prop where
  admitted : ∀ rating ∈ store.ratings, rating ≤ 5
  summarised : store.summary = none ↔ store.ratings = []

section Ratings

variable {division : NumericDivision} {store : RatingStore} {rating : Int}
  {summary : RatingSummary}

theorem mean_le (admitted : ∀ rating ∈ store.ratings, rating ≤ 5) :
    mean store.ratings ≤ 5 := by
  have bound := List.sum_le_card_nsmul store.ratings 5 admitted
  rw [nsmul_eq_mul] at bound
  rw [mean]
  apply div_le_of_le_mul₀ (by positivity) (by norm_num)
  have cast : (store.ratings.sum : ℚ) ≤ (store.ratings.length * 5 : Int) :=
    Int.cast_le.mpr bound
  rw [Int.cast_mul, Int.cast_natCast, Int.cast_ofNat] at cast
  linarith

theorem average_eq (admitted : ∀ rating ∈ store.ratings, rating ≤ 5)
    (high : rating ≤ 5) {count : Nat} (bounded : count + 1 < 2 ^ 31) :
    roundTo 2 (division.divide
        (roundTo 2 (mean store.ratings) * count + rating)
        (count + 1 : Nat)) =
      roundTo 2 ((roundTo 2 (mean store.ratings) * count + rating) /
        (count + 1 : Nat)) := by
  have below : roundTo 2 (mean store.ratings) ≤ 6 := by
    have close := roundTo_le 2 (mean store.ratings)
    have bound := mean_le admitted
    norm_num at close ⊢
    linarith
  have quotient : (roundTo 2 (mean store.ratings) * count + rating) /
      (count + 1 : Nat) = ((⌊mean store.ratings * 10 ^ 2 + 1 / 2⌋ * count +
        100 * rating : Int) : ℚ) / (100 * (count + 1 : Nat)) := by
    rw [roundTo]
    push_cast
    field_simp
    ring
  have small : (roundTo 2 (mean store.ratings) * count + rating) /
      (count + 1 : Nat) < 10000 := by
    have cast : (rating : ℚ) ≤ 5 := by exact_mod_cast high
    have counted : (0 : ℚ) ≤ count := by positivity
    rw [div_lt_iff₀ (by positivity)]
    push_cast
    nlinarith
  have digits := division.sixteen _ _ small
  rw [NumericDivision.divide, quotient]
  exact roundTo_two_roundTo digits (Nat.succ_pos count) bounded _

theorem ratingStep_error {error : RatingError}
    (raised : setRating division store rating = .error error) :
    ratingStep division store rating = store := by
  rw [ratingStep, raised]
  rfl

theorem ratingStep_first (admitted : 1 ≤ rating ∧ rating ≤ 5)
    (held : store.summary = none) :
    ratingStep division store rating =
      ⟨store.ratings ++ [rating], some ⟨rating, 1⟩⟩ := by
  rw [ratingStep, setRating, held, updateRatingSummary, decide_eq_true admitted]
  rfl

theorem ratingStep_next (admitted : 1 ≤ rating ∧ rating ≤ 5)
    (held : store.summary = some summary)
    (bounded : summary.reviewCount + 1 < 2 ^ 31) :
    ratingStep division store rating =
      ⟨store.ratings ++ [rating], some
        ⟨roundTo 2 (division.divide
          (summary.avgRating * summary.reviewCount + rating)
          (summary.reviewCount + 1 : Nat)), summary.reviewCount + 1⟩⟩ := by
  rw [ratingStep, setRating, held, updateRatingSummary,
    decide_eq_true admitted, decide_eq_true bounded]
  rfl

theorem ratingStep_refused (refused : ¬ (1 ≤ rating ∧ rating ≤ 5) ∨
    ∃ summary ∈ store.summary, ¬ summary.reviewCount + 1 < 2 ^ 31) :
    ratingStep division store rating = store := by
  by_cases admitted : 1 ≤ rating ∧ rating ≤ 5
  · obtain ⟨_, found, full⟩ := refused.resolve_left (not_not.mpr admitted)
    have raised : setRating division store rating =
        .error .integerOutOfRange := by
      rw [setRating, Option.mem_def.mp found, updateRatingSummary,
        decide_eq_true admitted, decide_eq_false full]
      rfl
    exact ratingStep_error raised
  · have raised : setRating division store rating = .error .ratingCheck := by
      rw [setRating, decide_eq_false admitted]
      rfl
    exact ratingStep_error raised

theorem RatingStore.Sound.step (sound : store.Sound) :
    (ratingStep division store rating).Sound := by
  by_cases refused : ¬ (1 ≤ rating ∧ rating ≤ 5) ∨
      ∃ summary ∈ store.summary, ¬ summary.reviewCount + 1 < 2 ^ 31
  · rw [ratingStep_refused refused]
    exact sound
  · rw [not_or, not_not] at refused
    have admitted : ∀ other ∈ store.ratings ++ [rating], other ≤ 5 := by
      intro other member
      rcases List.mem_append.mp member with earlier | last
      · exact sound.admitted other earlier
      · rw [List.mem_singleton.mp last]
        exact refused.1.2
    cases held : store.summary with
    | none =>
        rw [ratingStep_first refused.1 held]
        exact ⟨admitted, by simp⟩
    | some summary =>
        rw [ratingStep_next refused.1 held
          (not_not.mp fun full => refused.2 ⟨summary, held, full⟩)]
        exact ⟨admitted, by simp⟩

theorem RatingStore.Exact.step_iff (sound : store.Sound)
    (isExact : store.Exact) :
    (ratingStep division store rating).Exact ↔
      store.Undisturbed rating := by
  by_cases admitted : 1 ≤ rating ∧ rating ≤ 5
  · cases held : store.summary with
    | none =>
        have first := sound.summarised.mp held
        rw [ratingStep_first admitted held, first]
        apply iff_of_true
        · intro summary found
          cases found
          have alone : mean [rating] = rating := by simp [mean]
          exact ⟨rfl, by rw [List.nil_append, alone, roundTo_intCast]⟩
        · exact fun _ rated => absurd first rated
    | some summary =>
        obtain ⟨count, average⟩ := isExact summary held
        have rated : store.ratings ≠ [] := fun none => by
          cases held.symm.trans (sound.summarised.mpr none)
        by_cases bounded : summary.reviewCount + 1 < 2 ^ 31
        · rw [ratingStep_next admitted held bounded, average,
            average_eq sound.admitted admitted.2 bounded, count]
          rw [count] at bounded
          have rounds := rounds_iff rated rating
          constructor
          · intro later _ _ _
            exact rounds.mp (later _ rfl).2
          · intro undisturbed other found
            cases found
            exact ⟨by simp,
              rounds.mpr (undisturbed admitted rated bounded)⟩
        · rw [ratingStep_refused (.inr ⟨summary, held, bounded⟩)]
          exact iff_of_true isExact fun _ _ small =>
            absurd (count ▸ small) bounded
  · rw [ratingStep_refused (.inl admitted)]
    exact iff_of_true isExact fun rated => absurd rated admitted

end Ratings

/-- The summary is exact after every rating exactly when what is carried along
from the rounded mean never crosses a total at which the next mean rounds
otherwise. -/
theorem ratings_exact_iff (division : NumericDivision) (ratings : List Int) :
    (∀ earlier later, ratings = earlier ++ later →
      (run (ratingStep division) {} earlier).Exact) ↔
        Along (ratingStep division) RatingStore.Undisturbed {} ratings :=
  Along.forall_prefix_iff RatingStore.Sound RatingStore.Exact
    (fun _ _ sound => sound.step)
    (fun _ _ sound isExact => isExact.step_iff sound)
    ⟨by simp, by simp⟩ (by simp [RatingStore.Exact]) ratings

def sixteenDecimals : NumericDivision := ⟨fun _ _ => 16, fun _ _ _ => le_rfl⟩

theorem average_drifts :
    ¬ (run (ratingStep sixteenDecimals) {} [1, 1, 1, 1, 1, 2, 1]).Exact := by
  intro isExact
  have average := (isExact ⟨115 / 100, 7⟩ (by decide +kernel)).2
  exact absurd average (by decide +kernel)

end AcpTask.Marketplace
