import Mathlib.Data.String.Basic
import Mathlib.Data.Prod.Lex
import Mathlib.Data.List.Induction
import Mathlib.Data.Set.Function

namespace AcpTask.Data

def crockfordAlphabet : String := "0123456789ABCDEFGHJKMNPQRSTVWXYZ"

def crockford (digit : Nat) : Char := crockfordAlphabet.toList.getD digit '0'

def fillChars : Nat → Nat → List Char → List Char
  | 0, _, chars => chars
  | places + 1, value, chars =>
      fillChars places (value >>> 5) (crockford (value &&& 0x1F) :: chars)

/-- `int.from_bytes(random_bytes, "big")`. -/
def fromBytes (bytes : List UInt8) : Nat :=
  bytes.foldl (fun value byte => value * 256 + byte.toNat) 0

def generateUlid (nowMs : Nat) (randomBytes : List UInt8) : String :=
  let timestampPart := nowMs &&& (1 <<< 48 - 1)
  let randomnessPart := fromBytes randomBytes &&& (1 <<< 80 - 1)
  let value := timestampPart <<< 80 ||| randomnessPart
  String.ofList (fillChars 26 value [])

theorem crockford_strictMonoOn : StrictMonoOn crockford (Set.Iio 32) := by
  have ordered : ∀ first second : Fin 32,
      first < second → crockford first < crockford second := by
    decide +kernel
  intro first inside second within
  exact ordered ⟨first, inside⟩ ⟨second, within⟩

theorem fillChars_lt_iff {places first second : Nat}
    {firstChars secondChars : List Char} (fits : first < 32 ^ places)
    (secondFits : second < 32 ^ places) :
    fillChars places first firstChars < fillChars places second secondChars ↔
      first < second ∨ first = second ∧ firstChars < secondChars := by
  induction places generalizing first second firstChars secondChars with
  | zero =>
      obtain rfl : first = 0 := by omega
      obtain rfl : second = 0 := by omega
      simp [fillChars]
  | succ places induction =>
      rw [pow_succ] at fits secondFits
      have low : ∀ value : Nat, value &&& 0x1F = value % 32 :=
        fun value => Nat.and_two_pow_sub_one_eq_mod value 5
      have digit : ∀ value : Nat, value % 32 ∈ Set.Iio 32 :=
        fun value => Nat.mod_lt value (by decide)
      simp only [fillChars, Nat.shiftRight_eq_div_pow, low]
      rw [induction (by omega) (by omega), List.cons_lt_cons_iff,
        crockford_strictMonoOn.lt_iff_lt (digit first) (digit second),
        crockford_strictMonoOn.injOn.eq_iff (digit first) (digit second)]
      by_cases tail : firstChars < secondChars
      · simp only [tail, and_true]
        omega
      · simp only [tail, and_false, or_false]
        omega

theorem fromBytes_lt (bytes : List UInt8) :
    fromBytes bytes < 256 ^ bytes.length := by
  induction bytes using List.reverseRecOn with
  | nil => exact Nat.zero_lt_one
  | append_singleton bytes byte induction =>
      have small := byte.toNat_lt
      rw [fromBytes, List.foldl_concat, ← fromBytes, List.length_append,
        List.length_singleton, pow_succ]
      omega

theorem generateUlid_eq {nowMs : Nat} {randomBytes : List UInt8}
    (timed : nowMs < 2 ^ 48) (random : randomBytes.length = 10) :
    generateUlid nowMs randomBytes = String.ofList
      (fillChars 26 (nowMs * 2 ^ 80 + fromBytes randomBytes) []) := by
  have randomness := fromBytes_lt randomBytes
  rw [random] at randomness
  have bits : fromBytes randomBytes < 2 ^ 80 := by omega
  have mask : ∀ value width : Nat, value &&& (1 <<< width - 1) =
      value % 2 ^ width := by
    intro value width
    rw [Nat.one_shiftLeft]
    exact Nat.and_two_pow_sub_one_eq_mod value width
  simp only [generateUlid, mask]
  rw [Nat.mod_eq_of_lt timed, Nat.mod_eq_of_lt bits,
    ← Nat.shiftLeft_add_eq_or_of_lt bits, Nat.shiftLeft_eq]

/-- The strings are ordered as the pairs of an instant and its random bits, so
distinct pairs have distinct strings. -/
theorem ulid_order_preserving {first second : Nat}
    {firstBytes secondBytes : List UInt8} (timed : first < 2 ^ 48)
    (secondTimed : second < 2 ^ 48) (random : firstBytes.length = 10)
    (secondRandom : secondBytes.length = 10) :
    (generateUlid first firstBytes < generateUlid second secondBytes ↔
      toLex (first, fromBytes firstBytes) <
        toLex (second, fromBytes secondBytes)) ∧
    ((first, fromBytes firstBytes) ≠ (second, fromBytes secondBytes) →
      generateUlid first firstBytes ≠ generateUlid second secondBytes) := by
  have firstBits := fromBytes_lt firstBytes
  have secondBits := fromBytes_lt secondBytes
  rw [random] at firstBits
  rw [secondRandom] at secondBits
  have less : ∀ {first second : Nat}, first < 2 ^ 128 → second < 2 ^ 128 →
      (String.ofList (fillChars 26 first []) <
          String.ofList (fillChars 26 second []) ↔ first < second) := by
    intro first second fits secondFits
    rw [String.lt_iff, String.toList_ofList, String.toList_ofList,
      fillChars_lt_iff (by omega) (by omega)]
    simp
  rw [generateUlid_eq timed random, generateUlid_eq secondTimed secondRandom]
  constructor
  · rw [less (by omega) (by omega), Prod.Lex.toLex_lt_toLex]
    dsimp only
    omega
  · intro apart same
    have notLess := mt (less (by omega) (by omega)).mpr same.not_lt
    have notMore := mt (less (by omega) (by omega)).mpr same.not_gt
    apply apart
    rw [Prod.mk.injEq]
    omega

theorem ulid_order_preserving_sample :
    generateUlid 1 [0, 0, 0, 0, 0, 0, 0, 0, 0, 255] <
        generateUlid 2 [0, 0, 0, 0, 0, 0, 0, 0, 0, 1] :=
  (ulid_order_preserving (by decide) (by decide) rfl rfl).1.mpr
    (Prod.Lex.toLex_lt_toLex.mpr (.inl (by decide)))

end AcpTask.Data
