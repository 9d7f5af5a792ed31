import AcpTask.Library.Sms

namespace AcpTask.Spend

open Library Library.Sms

def isAscii (point : CodePoint) : Bool := decide (point.val < 128)

/-- The `segments` of `estimate_sms_cost`. -/
def estimatedSegments (body : List CodePoint) : Nat :=
  segmentsOf (if body.all isAscii then gsmLimits else ucs2Limits) body.length

/-- The texts whose estimate is high enough.  In ASCII the escapes still fit, or
there is nothing outside the GSM alphabet to make it UCS-2 in more than one
segment; outside ASCII the text is in the GSM alphabet all the same, or its
surrogate pairs still fit. -/
def EstimatedHigh (body : List CodePoint) : Prop :=
  if body.all isAscii then
    if body.all isGsm then
      Fits gsmLimits body.length (body.map septets).sum
    else body.length ≤ 70
  else body.all isGsm = true ∨
    Fits ucs2Limits body.length (body.map codeUnits).sum

theorem codeUnits_of_ascii {body : List CodePoint}
    (plain : body.all isAscii = true) :
    (body.map codeUnits).sum = body.length := by
  refine sum_eq_length fun point member => ?_
  have below := of_decide_eq_true (List.all_eq_true.mp plain point member)
  unfold codeUnits
  rw [if_neg (by omega)]

/-- The estimate is at least what the rules charge for exactly these texts. -/
theorem charged_le_estimated_iff (body : List CodePoint) :
    charged body ≤ estimatedSegments body ↔ EstimatedHigh body := by
  unfold charged estimatedSegments EstimatedHigh
  by_cases plain : body.all isAscii = true
  · rw [if_pos plain, if_pos plain]
    by_cases gsm : body.all isGsm = true
    · rw [if_pos gsm, if_pos gsm]
      exact gsm_segments_le_iff (length_le_sum one_le_septets)
    · rw [if_neg gsm, if_neg gsm, codeUnits_of_ascii plain]
      exact ucs2_le_gsm_iff
  · rw [if_neg plain, if_neg plain]
    by_cases gsm : body.all isGsm = true
    · rw [if_pos gsm]
      exact iff_of_true (gsm_le_ucs2 (sum_le_double septets_le_two)) (.inl gsm)
    · rw [if_neg gsm, ucs2_segments_le_iff (length_le_sum one_le_codeUnits)]
      simp [gsm]

/-- Eighty-one braces are charged as two segments, and estimated as one. -/
theorem braces_underestimated :
    ¬ ∀ body : List CodePoint, charged body ≤ estimatedSegments body := by
  intro worstCase
  have high := worstCase (List.replicate 81 0x7B)
  exact absurd high (by decide +kernel)

end AcpTask.Spend
