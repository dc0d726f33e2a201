import HeadEnd.Cosem.BitString
import Mathlib.Data.List.Induction
import Mathlib.Data.Nat.Bitwise

/-! # Packed bits

The bits that are packed into bytes are the bits of the string. Within a byte the first bit has the
highest place.
-/

namespace HeadEnd.BitString

/-! ## Bytes -/

/-- The number whose binary digits, the highest first, are the given bits. -/
def ofDigits (bits : List Bool) : Nat :=
  bits.foldl (fun n b => 2 * n + b.toNat) 0

@[simp] theorem ofDigits_snoc (bits : List Bool) (b : Bool) :
    ofDigits (bits ++ [b]) = 2 * ofDigits bits + b.toNat := by
  simp [ofDigits]

theorem ofDigits_lt (bits : List Bool) : ofDigits bits < 2 ^ bits.length := by
  induction bits using List.reverseRecOn with
  | nil => simp [ofDigits]
  | append_singleton bits b ih =>
      have hb := b.toNat_lt
      rw [ofDigits_snoc, List.length_append, List.length_singleton, Nat.pow_succ]
      omega

/-- The digits are counted from the last one. -/
theorem testBit_ofDigits (bits : List Bool) (place : Nat) :
    (ofDigits bits).testBit place = bits.reverse.getD place false := by
  induction bits using List.reverseRecOn generalizing place with
  | nil => simp [ofDigits]
  | append_singleton bits b ih =>
      rw [ofDigits_snoc, List.reverse_append, List.reverse_singleton, List.singleton_append]
      cases place with
      | zero => cases b <;> simp [Nat.testBit_zero]
      | succ place =>
          have hhalf : (2 * ofDigits bits + b.toNat) / 2 = ofDigits bits := by
            have hb := b.toNat_lt
            omega
          rw [Nat.testBit_succ, hhalf, ih, List.getD_cons_succ]

/-- A byte begins with the bits that it was packed from. -/
theorem testBit_packByte {bits : List Bool} (hlength : bits.length ≤ 8) {i : Nat}
    (hi : i < bits.length) : (packByte bits).toNat.testBit (7 - i) = bits.getD i false := by
  let digits := bits ++ List.replicate (8 - bits.length) false
  have hdigits : digits.length = 8 := by
    simp only [digits, List.length_append, List.length_replicate]
    omega
  have hpacked : (packByte bits).toNat = ofDigits digits := by
    have hlt := ofDigits_lt digits
    rw [hdigits] at hlt
    rw [packByte, List.take_of_length_le hlength]
    exact UInt8.toNat_ofNat_of_lt' hlt
  have hplace : digits.length - 1 - (7 - i) = i := by omega
  rw [hpacked, testBit_ofDigits, List.getD_eq_getElem?_getD, List.getElem?_reverse (by omega), hplace,
    List.getElem?_append_left hi, List.getD_eq_getElem?_getD]

/-! ## Strings -/

/-- The bit at a position stands in the byte of its position. -/
theorem getElem?_pack (bits : List Bool) {i : Nat} (hi : i < bits.length) :
    (pack bits)[i / 8]?.map (fun byte => byte.toNat.testBit (7 - i % 8)) =
      some (bits.getD i false) := by
  fun_induction pack bits generalizing i with
  | case1 => simp at hi
  | case2 first rest ih =>
    by_cases hbyte : i < 8
    · have hdiv : i / 8 = 0 := by omega
      have hmod : i % 8 = i := by omega
      have htaken : i < (first :: rest.take 7).length := by
        simp only [List.length_cons, List.length_take] at hi ⊢
        omega
      have hlength : (first :: rest.take 7).length ≤ 8 := by
        simp only [List.length_cons, List.length_take]
        omega
      have hbits := testBit_packByte hlength htaken
      have hsame : (first :: rest.take 7).getD i false = (first :: rest).getD i false := by
        rw [← List.take_succ_cons, List.getD_eq_getElem?_getD, List.getElem?_take_of_lt hbyte,
          List.getD_eq_getElem?_getD]
      rw [hdiv, hmod, List.getElem?_cons_zero, Option.map_some, hbits, hsame]
    · obtain ⟨j, rfl⟩ : ∃ j, i = j + 8 := ⟨i - 8, by omega⟩
      have hdiv : (j + 8) / 8 = j / 8 + 1 := by omega
      have hmod : (j + 8) % 8 = j % 8 := by omega
      have hrest : j < (rest.drop 7).length := by
        simp only [List.length_cons, List.length_drop] at hi ⊢
        omega
      have hsame : (rest.drop 7).getD j false = (first :: rest).getD (j + 8) false := by
        rw [List.getD_eq_getElem?_getD, List.getElem?_drop, Nat.add_comm 7 j,
          List.getD_cons_succ, List.getD_eq_getElem?_getD]
      rw [hdiv, hmod, List.getElem?_cons_succ, ih hrest, hsame]

/-- A string has the bits that it was made of. -/
theorem get_ofList {bits : List Bool} {i : Nat} (hi : i < bits.length) :
    (ofList bits).get i = .ok (bits.getD i false) := by
  have hlength := length_le_pack bits
  have hbyte : i / 8 < (pack bits).length := by omega
  have hpacked := getElem?_pack bits hi
  rw [List.getElem?_eq_getElem hbyte, Option.map_some, Option.some.injEq] at hpacked
  exact (dif_pos hi).trans (congrArg Except.ok hpacked)

end HeadEnd.BitString
