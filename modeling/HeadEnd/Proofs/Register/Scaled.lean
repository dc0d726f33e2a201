import HeadEnd.Proofs.Text.Decimal
import HeadEnd.Register.Scaled
import Mathlib.Algebra.Order.Field.Rat
import Mathlib.Tactic.FieldSimp
import Mathlib.Tactic.Ring

/-! # Numerals of scaled values

A decimal numeral has a sign or none, digits and, if there is a point, digits after it. The text of
a scaled value is such a numeral, and the number that it denotes is the value, not rounded.
-/

namespace HeadEnd

namespace Decimal

/-! ## Numerals -/

/-- A decimal numeral: a sign or none, at least one digit and, if there is a point, the digits after
it. -/
structure Numeral where
  isNegative : Bool
  whole : List Char
  fraction? : Option (List Char)
  whole_ne_nil : whole ≠ []
  isDigit_whole : ∀ c ∈ whole, c.isDigit = true
  isDigit_fraction : ∀ digits, fraction? = some digits → ∀ c ∈ digits, c.isDigit = true

namespace Numeral

def fraction (x : Numeral) : List Char :=
  x.fraction?.getD []

/-- The point and the digits after it, if there is a point. -/
def tail (x : Numeral) : List Char :=
  match x.fraction? with
  | some digits => '.' :: digits
  | none => []

def unsigned (x : Numeral) : List Char :=
  x.whole ++ x.tail

def text (x : Numeral) : String :=
  (if x.isNegative then "-" else "") ++ String.ofList x.unsigned

/-- The number that a numeral denotes: that of the digits before the point, and for those after it
the tenth part for each place. -/
def value (x : Numeral) : ℚ :=
  (if x.isNegative then -1 else 1) *
    (number x.whole + number x.fraction / 10 ^ x.fraction.length)

/-- The point moves by as many places as there are digits after it. -/
theorem value_eq (x : Numeral) :
    x.value = (if x.isNegative then -1 else 1) * number (x.whole ++ x.fraction) /
      10 ^ x.fraction.length := by
  have hpower : (10 : ℚ) ^ x.fraction.length ≠ 0 := pow_ne_zero _ (by norm_num)
  rw [value, number_append]
  push_cast
  field_simp

/-! ### What a text is the numeral of -/

theorem takeWhile_unsigned (x : Numeral) : x.unsigned.takeWhile Char.isDigit = x.whole := by
  rw [unsigned, List.takeWhile_append_of_pos x.isDigit_whole]
  cases h : x.fraction? with
  | none => simp [tail, h]
  | some digits => simp [tail, h]

theorem dropWhile_unsigned (x : Numeral) : x.unsigned.dropWhile Char.isDigit = x.tail := by
  rw [unsigned, List.dropWhile_append_of_pos x.isDigit_whole]
  cases h : x.fraction? with
  | none => simp [tail, h]
  | some digits => simp [tail, h]

theorem fraction?_eq_of_tail_eq {x y : Numeral} (h : x.tail = y.tail) :
    x.fraction? = y.fraction? := by
  cases hx : x.fraction? with
  | none => cases hy : y.fraction? with
    | none => rfl
    | some digits => simp [tail, hx, hy] at h
  | some digits => cases hy : y.fraction? with
    | none => simp [tail, hx, hy] at h
    | some digits' =>
        simp only [tail, hx, hy, List.cons.injEq, true_and] at h
        rw [h]

/-- Without its sign a numeral begins with a digit. -/
theorem unsigned_ne_minus_cons (x : Numeral) (rest : List Char) : x.unsigned ≠ '-' :: rest := by
  intro h
  cases hwhole : x.whole with
  | nil => exact x.whole_ne_nil hwhole
  | cons c cs =>
      rw [unsigned, hwhole, List.cons_append, List.cons.injEq] at h
      have hdigit := x.isDigit_whole c (by simp [hwhole])
      rw [h.1] at hdigit
      exact absurd hdigit (by decide)

theorem toList_text (x : Numeral) :
    x.text.toList = (if x.isNegative then ['-'] else []) ++ x.unsigned := by
  by_cases h : x.isNegative = true
  · simp [text, h]
  · simp [text, h]

/-- A text is that of one numeral at most. -/
theorem text_injective {x y : Numeral} (h : x.text = y.text) : x = y := by
  have hlist := congrArg String.toList h
  rw [toList_text, toList_text] at hlist
  obtain ⟨hsign, hunsigned⟩ : x.isNegative = y.isNegative ∧ x.unsigned = y.unsigned := by
    cases hx : x.isNegative with
    | true => cases hy : y.isNegative with
      | true => simpa [hx, hy] using hlist
      | false =>
          rw [hx, hy] at hlist
          exact absurd hlist.symm (y.unsigned_ne_minus_cons x.unsigned)
    | false => cases hy : y.isNegative with
      | true =>
          rw [hx, hy] at hlist
          exact absurd hlist (x.unsigned_ne_minus_cons y.unsigned)
      | false => simpa [hx, hy] using hlist
  have hwhole : x.whole = y.whole := by
    rw [← x.takeWhile_unsigned, ← y.takeWhile_unsigned, hunsigned]
  have hfraction : x.fraction? = y.fraction? := by
    apply fraction?_eq_of_tail_eq
    rw [← x.dropWhile_unsigned, ← y.dropWhile_unsigned, hunsigned]
  cases x
  cases y
  simp_all

end Numeral

end Decimal

namespace ScaledValue

open Decimal (Numeral number)

/-! ## Scaled values -/

/-- The digits of the integer, of which there is at least one before the point. -/
def filled (x : ScaledValue) : List Char :=
  Decimal.padded (x.scaler.toInt.natAbs + 1) x.raw.toInt.natAbs

theorem lt_length_filled (x : ScaledValue) : x.scaler.toInt.natAbs < x.filled.length := by
  rw [filled, Decimal.length_padded]
  omega

/-- The numeral of a value whose point stands before the last digits. -/
def withPoint (x : ScaledValue) : Numeral where
  isNegative := decide (x.raw.toInt < 0)
  whole := x.filled.take (x.filled.length - x.scaler.toInt.natAbs)
  fraction? := some (x.filled.drop (x.filled.length - x.scaler.toInt.natAbs))
  whole_ne_nil := by
    have hlength := x.lt_length_filled
    intro h
    have hempty := congrArg List.length h
    simp only [List.length_take, List.length_nil] at hempty
    omega
  isDigit_whole c h := Decimal.isDigit_of_mem_padded c (List.mem_of_mem_take h)
  isDigit_fraction := by
    rintro _ ⟨⟩ c h
    exact Decimal.isDigit_of_mem_padded c (List.mem_of_mem_drop h)

/-- The numeral of a value without a point. -/
def withoutPoint (x : ScaledValue) : Numeral where
  isNegative := decide (x.raw.toInt < 0)
  whole := Decimal.digits x.raw.toInt.natAbs ++ List.replicate x.scaler.toInt.natAbs '0'
  fraction? := none
  whole_ne_nil := by simp [Decimal.digits_ne_nil]
  isDigit_whole := by
    intro c h
    rcases List.mem_append.mp h with hdigit | hzero
    · exact Decimal.isDigit_of_mem_digits hdigit
    · rw [List.eq_of_mem_replicate hzero]
      rfl
  isDigit_fraction := by
    intro digits h
    cases h

def numeral (x : ScaledValue) : Numeral :=
  if x.scaler.toInt < 0 then x.withPoint else x.withoutPoint

variable (x : ScaledValue)

theorem numeral_of_neg {x : ScaledValue} (h : x.scaler.toInt < 0) : x.numeral = x.withPoint :=
  if_pos h

theorem numeral_of_nonneg {x : ScaledValue} (h : ¬ x.scaler.toInt < 0) :
    x.numeral = x.withoutPoint :=
  if_neg h

theorem text_numeral : x.numeral.text = x.text := by
  by_cases h : x.scaler.toInt < 0
  · rw [numeral_of_neg h]
    by_cases hraw : x.raw.toInt < 0
    · simp only [Numeral.text, withPoint, text, h, hraw, decide_true, if_true]
      rfl
    · simp only [Numeral.text, withPoint, text, h, hraw, decide_false, if_true, if_false]
      rfl
  · rw [numeral_of_nonneg h]
    by_cases hraw : x.raw.toInt < 0
    · simp [Numeral.text, Numeral.unsigned, Numeral.tail, withoutPoint, text, h, hraw]
    · simp [Numeral.text, Numeral.unsigned, Numeral.tail, withoutPoint, text, h, hraw]

theorem isNegative_numeral : x.numeral.isNegative = decide (x.raw.toInt < 0) := by
  by_cases h : x.scaler.toInt < 0
  · rw [numeral_of_neg h]
    rfl
  · rw [numeral_of_nonneg h]
    rfl

/-- There is a point exactly for a negative scaler, with as many digits after it. -/
theorem places_numeral :
    x.numeral.fraction?.map List.length =
      if x.scaler.toInt < 0 then some (-x.scaler.toInt).toNat else none := by
  by_cases h : x.scaler.toInt < 0
  · have hlength := x.lt_length_filled
    rw [numeral_of_neg h, if_pos h]
    simp only [withPoint, Option.map_some, List.length_drop, Option.some.injEq]
    omega
  · rw [numeral_of_nonneg h, if_neg h]
    rfl

/-- With its sign the magnitude of the integer is the integer. -/
theorem sign_mul_natAbs :
    (if decide (x.raw.toInt < 0) = true then -1 else 1 : ℚ) * x.raw.toInt.natAbs = x.raw.toInt := by
  by_cases h : x.raw.toInt < 0
  · rw [Nat.cast_natAbs, abs_of_neg h]
    simp [h]
  · rw [Nat.cast_natAbs, abs_of_nonneg (not_lt.mp h)]
    simp [h]

theorem value_numeral : x.numeral.value = x.raw.toInt * (10 : ℚ) ^ x.scaler.toInt := by
  rw [Numeral.value_eq, isNegative_numeral]
  by_cases h : x.scaler.toInt < 0
  · have hlength := x.lt_length_filled
    have hdigits : number (x.withPoint.whole ++ x.withPoint.fraction) = x.raw.toInt.natAbs := by
      simp [withPoint, Numeral.fraction, filled, Decimal.number_padded]
    have hplaces : x.withPoint.fraction.length = x.scaler.toInt.natAbs := by
      simp only [withPoint, Numeral.fraction, Option.getD_some, List.length_drop]
      omega
    have hscaler : x.scaler.toInt = -(x.scaler.toInt.natAbs : ℤ) := by omega
    rw [numeral_of_neg h, hdigits, hplaces, sign_mul_natAbs]
    conv_rhs => rw [hscaler, zpow_neg, zpow_natCast]
    rw [div_eq_mul_inv]
  · have hdigits : number (x.withoutPoint.whole ++ x.withoutPoint.fraction) =
        10 ^ x.scaler.toInt.natAbs * x.raw.toInt.natAbs := by
      simp [withoutPoint, Numeral.fraction, Decimal.number_append]
    have hplaces : x.withoutPoint.fraction.length = 0 := rfl
    have hscaler : x.scaler.toInt = (x.scaler.toInt.natAbs : ℤ) := by omega
    rw [numeral_of_nonneg h, hdigits, hplaces, pow_zero, div_one]
    conv_rhs => rw [hscaler, zpow_natCast, ← sign_mul_natAbs]
    push_cast
    ring

/-- The text of a scaled value is that of one decimal numeral. It has a sign exactly if the integer is
negative and a point exactly if the scaler is, with as many digits after it as the scaler says, and
it denotes the integer times ten to the power of the scaler. -/
theorem text_denotes_exactly (x : ScaledValue) :
    ∃ numeral : Numeral, (∀ other : Numeral, other.text = x.text ↔ other = numeral) ∧
      (numeral.isNegative = true ↔ x.raw.toInt < 0) ∧
      numeral.fraction?.map List.length =
        (if x.scaler.toInt < 0 then some (-x.scaler.toInt).toNat else none) ∧
      numeral.value = x.raw.toInt * (10 : ℚ) ^ x.scaler.toInt := by
  refine ⟨x.numeral, ?_, ?_, x.places_numeral, x.value_numeral⟩
  · intro other
    constructor
    · intro h
      exact Numeral.text_injective (h.trans x.text_numeral.symm)
    · intro h
      rw [h, x.text_numeral]
  · rw [isNegative_numeral, decide_eq_true_eq]

end ScaledValue

end HeadEnd
