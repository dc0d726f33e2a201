import HeadEnd.Text.Decimal
import Mathlib.Algebra.Group.Nat.Defs

/-! # Digits of numerals

What digits denote when others stand before or behind them, and how many of them a number needs.
-/

namespace HeadEnd.Decimal

variable {width n : Nat}

/-- The number that decimal digits denote, the most significant first. -/
def number (digits : List Char) : Nat :=
  Nat.ofDigitChars 10 digits 0

@[simp] theorem number_digits (n : Nat) : number (digits n) = n :=
  Nat.ofDigitChars_ten_toDigits

/-- Digits in front of others count as many times as there are places behind them. -/
theorem number_append (front rest : List Char) :
    number (front ++ rest) = 10 ^ rest.length * number front + number rest := by
  rw [number, Nat.ofDigitChars_append, Nat.ofDigitChars_eq_ofDigitChars_zero]
  rfl

@[simp] theorem number_replicate_zero (places : Nat) : number (List.replicate places '0') = 0 := by
  simp [number, Nat.ofDigitChars_replicate_zero]

/-- Leading zeros do not count. -/
theorem number_padded (width n : Nat) : number (padded width n) = n := by
  simp [padded, number_append]

theorem number?_eq_some_iff {cs : List Char} :
    number? cs = some n ↔ cs ≠ [] ∧ (∀ c ∈ cs, c.isDigit = true) ∧ number cs = n := by
  by_cases hne : cs = []
  · simp [number?, hne]
  · by_cases hdigits : cs.all Char.isDigit = true
    · simpa [number?, number, hne, hdigits] using fun _ => List.all_eq_true.mp hdigits
    · have hother : ¬ ∀ c ∈ cs, c.isDigit = true := fun h => hdigits (List.all_eq_true.mpr h)
      simp [number?, hdigits, hother]

theorem isDigit_of_number? {cs : List Char} (h : number? cs = some n) :
    ∀ c ∈ cs, c.isDigit = true :=
  (number?_eq_some_iff.mp h).2.1

/-- Digits denote less than the power of ten that has one digit more. -/
theorem ofDigitChars_lt {cs : List Char} (h : ∀ c ∈ cs, c.isDigit = true) (start : Nat) :
    Nat.ofDigitChars 10 cs start < (start + 1) * 10 ^ cs.length := by
  induction cs generalizing start with
  | nil => simp
  | cons c cs ih =>
      have hdigit : c.toNat - '0'.toNat ≤ 9 := by
        have hc := h c List.mem_cons_self
        have hnine : c.toNat ≤ 57 := by
          simpa [Char.isDigit, UInt32.le_iff_toNat_le] using (Bool.and_eq_true_iff.mp hc).2
        have hzero : '0'.toNat = 48 := rfl
        omega
      have hrest := ih (fun d hd => h d (List.mem_cons_of_mem c hd))
        (10 * start + (c.toNat - '0'.toNat))
      rw [Nat.ofDigitChars_cons, List.length_cons, Nat.pow_succ]
      calc Nat.ofDigitChars 10 cs (10 * start + (c.toNat - '0'.toNat))
          < (10 * start + (c.toNat - '0'.toNat) + 1) * 10 ^ cs.length := hrest
        _ ≤ ((start + 1) * 10) * 10 ^ cs.length := Nat.mul_le_mul_right _ (by omega)
        _ = (start + 1) * (10 ^ cs.length * 10) := by rw [Nat.mul_assoc, Nat.mul_comm 10]

theorem lt_of_number? {cs : List Char} (h : number? cs = some n) : n < 10 ^ cs.length := by
  obtain ⟨-, hdigits, rfl⟩ := number?_eq_some_iff.mp h
  simpa [number] using ofDigitChars_lt hdigits 0

theorem isDigit_of_mem_padded : ∀ c ∈ padded width n, c.isDigit = true :=
  isDigit_of_number? (number?_padded width n)

theorem length_padded_of_lt (hwidth : 0 < width) (h : n < 10 ^ width) :
    (padded width n).length = width := by
  have hdigits : (digits n).length ≤ width := (Nat.length_toDigits_le_iff (by decide) hwidth).mpr h
  rw [length_padded, Nat.max_eq_left hdigits]

theorem exists_padded_eq_cons (width n : Nat) :
    ∃ c cs, padded width n = c :: cs ∧ c.isDigit = true := by
  cases hpadded : padded width n with
  | nil =>
      have hnumber := number?_padded width n
      rw [hpadded] at hnumber
      cases hnumber
  | cons c cs =>
      exact ⟨c, cs, rfl, isDigit_of_mem_padded c (hpadded ▸ List.mem_cons_self)⟩

end HeadEnd.Decimal
