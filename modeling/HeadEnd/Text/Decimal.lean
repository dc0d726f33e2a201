/-! # Decimal numerals

Digits of a natural number, numerals of a least width, and the numbers that numerals denote.
-/

namespace HeadEnd.Decimal

/-- The decimal digits of `n`, most significant first and without leading zeros. -/
def digits (n : Nat) : List Char :=
  Nat.toDigits 10 n

/-- The digits of `n`, filled up with leading zeros to at least `width` characters. -/
def padded (width n : Nat) : List Char :=
  List.replicate (width - (digits n).length) '0' ++ digits n

/-- The numeral of `n` with at least `width` digits. -/
def numeral (width n : Nat) : String :=
  String.ofList (padded width n)

/-- The number that a nonempty list of ASCII digits denotes. -/
def number? (cs : List Char) : Option Nat :=
  if !cs.isEmpty && cs.all Char.isDigit then some (Nat.ofDigitChars 10 cs 0) else none

theorem digits_ne_nil (n : Nat) : digits n ≠ [] :=
  Nat.toDigits_ne_nil

theorem isDigit_of_mem_digits {n : Nat} {c : Char} (h : c ∈ digits n) : c.isDigit :=
  Nat.isDigit_of_mem_toDigits (by decide) (by decide) h

theorem number?_padded (width n : Nat) : number? (padded width n) = some n := by
  have hne : padded width n ≠ [] := by simp [padded, digits_ne_nil]
  have hall : (padded width n).all Char.isDigit = true := by
    refine List.all_eq_true.mpr fun c hc => ?_
    rcases List.mem_append.mp hc with h | h
    · rw [List.eq_of_mem_replicate h]; rfl
    · exact isDigit_of_mem_digits h
  have hvalue : Nat.ofDigitChars 10 (padded width n) 0 = n := by
    rw [padded, Nat.ofDigitChars_append, Nat.ofDigitChars_replicate_zero, Nat.mul_zero]
    exact Nat.ofDigitChars_ten_toDigits
  rw [number?, hall, hvalue]
  simp [hne]

theorem length_padded (width n : Nat) :
    (padded width n).length = max width (digits n).length := by
  simp [padded]
  omega

end HeadEnd.Decimal
