import Mathlib.Algebra.BigOperators.Group.List.Basic
import Mathlib.Algebra.Ring.Nat

namespace AcpTask.Library

/-! How many segments a text message is charged: GSM 03.38 for texts in its
alphabet, UCS-2 for all others.  A text is the list of its code points, paired
or not. -/

abbrev CodePoint := Fin 0x110000

namespace Sms

def basicOutsideAscii : List Nat :=
  [0xA1, 0xA3, 0xA4, 0xA5, 0xA7, 0xBF, 0xC4, 0xC5, 0xC6, 0xC7, 0xC9, 0xD1,
    0xD6, 0xD8, 0xDC, 0xDF, 0xE0, 0xE4, 0xE5, 0xE6, 0xE8, 0xE9, 0xEC, 0xF1,
    0xF2, 0xF6, 0xF8, 0xF9, 0xFC, 0x393, 0x394, 0x398, 0x39B, 0x39E, 0x3A0,
    0x3A3, 0x3A6, 0x3A8, 0x3A9]

def isBasic (point : CodePoint) : Bool :=
  point.val == 0x0A || point.val == 0x0D ||
    (decide (0x20 ≤ point.val) && decide (point.val ≤ 0x5A)) ||
    point.val == 0x5F ||
    (decide (0x61 ≤ point.val) && decide (point.val ≤ 0x7A)) ||
    basicOutsideAscii.contains point.val

def isExtension (point : CodePoint) : Bool :=
  [0x0C, 0x5B, 0x5C, 0x5D, 0x5E, 0x7B, 0x7C, 0x7D, 0x7E, 0x20AC].contains
    point.val

def isGsm (point : CodePoint) : Bool := isBasic point || isExtension point

def septets (point : CodePoint) : Nat := if isExtension point then 2 else 1

def codeUnits (point : CodePoint) : Nat := if 0x10000 ≤ point.val then 2 else 1

structure Limits where
  single : Nat
  multipart : Nat

def gsmLimits : Limits := ⟨160, 153⟩

def ucs2Limits : Limits := ⟨70, 67⟩

def segmentsOf (limits : Limits) (length : Nat) : Nat :=
  if length ≤ limits.single then 1
  else (length + limits.multipart - 1) / limits.multipart

def charged (body : List CodePoint) : Nat :=
  if body.all isGsm then segmentsOf gsmLimits (body.map septets).sum
  else segmentsOf ucs2Limits (body.map codeUnits).sum

def Fits (limits : Limits) (length units : Nat) : Prop :=
  units ≤ limits.single ∨ (limits.single < length ∧
    units ≤ limits.multipart *
      ((length + limits.multipart - 1) / limits.multipart))

variable {body : List CodePoint} {size : CodePoint → Nat}

theorem length_le_sum (positive : ∀ point, 1 ≤ size point) :
    body.length ≤ (body.map size).sum := by
  induction body with
  | nil => exact Nat.le_refl 0
  | cons point =>
      have here := positive point
      simp only [List.length_cons, List.map_cons, List.sum_cons]
      omega

theorem sum_le_double (bounded : ∀ point, size point ≤ 2) :
    (body.map size).sum ≤ 2 * body.length := by
  induction body with
  | nil => exact Nat.le_refl 0
  | cons point =>
      have here := bounded point
      simp only [List.length_cons, List.map_cons, List.sum_cons]
      omega

theorem sum_eq_length (single : ∀ point ∈ body, size point = 1) :
    (body.map size).sum = body.length := by
  induction body with
  | nil => rfl
  | cons point _ induction =>
      have here := single point List.mem_cons_self
      have later := induction fun other member =>
        single other (List.mem_cons_of_mem point member)
      simp only [List.length_cons, List.map_cons, List.sum_cons]
      omega

theorem one_le_septets (point : CodePoint) : 1 ≤ septets point := by
  unfold septets
  split <;> omega

theorem septets_le_two (point : CodePoint) : septets point ≤ 2 := by
  unfold septets
  split <;> omega

theorem one_le_codeUnits (point : CodePoint) : 1 ≤ codeUnits point := by
  unfold codeUnits
  split <;> omega

variable {length : Nat}

theorem gsm_segments_le_iff {units : Nat} (atLeast : length ≤ units) :
    segmentsOf gsmLimits units ≤ segmentsOf gsmLimits length ↔
      Fits gsmLimits length units := by
  unfold segmentsOf Fits gsmLimits
  dsimp only
  split <;> split <;> omega

theorem ucs2_segments_le_iff {units : Nat} (atLeast : length ≤ units) :
    segmentsOf ucs2Limits units ≤ segmentsOf ucs2Limits length ↔
      Fits ucs2Limits length units := by
  unfold segmentsOf Fits ucs2Limits
  dsimp only
  split <;> split <;> omega

theorem gsm_le_ucs2 {septets : Nat} (double : septets ≤ 2 * length) :
    segmentsOf gsmLimits septets ≤ segmentsOf ucs2Limits length := by
  unfold segmentsOf gsmLimits ucs2Limits
  dsimp only
  split <;> split <;> omega

theorem ucs2_le_gsm_iff :
    segmentsOf ucs2Limits length ≤ segmentsOf gsmLimits length ↔
      length ≤ 70 := by
  unfold segmentsOf gsmLimits ucs2Limits
  dsimp only
  split <;> split <;> omega

end Sms

end AcpTask.Library
