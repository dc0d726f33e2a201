import HeadEnd.Text.Utf8
import Mathlib.Data.List.Basic

/-! # Texts read back from their bytes

The first byte of a character tells how many bytes follow it, and no byte that follows can be taken
for a first one. So a text is read back from its bytes, character by character.
-/

namespace HeadEnd.Utf8

/-! ## Forms of characters -/

variable {first second third fourth : UInt8}

theorem scan_one (rest : List UInt8) (hfirst : first.toNat < 0x80) :
    scan first rest = .character (Char.ofNat first.toNat) 0 :=
  if_pos hfirst

theorem scan_two (rest : List UInt8) (hfirst : 0xC2 ≤ first.toNat ∧ first.toNat < 0xE0)
    (hsecond : isContinuation second = true) :
    scan first (second :: rest) =
      .character (Char.ofNat (first.toNat % 32 * 64 + payload second)) 1 := by
  unfold scan
  dsimp only
  rw [if_neg (by omega), if_neg (by omega), if_pos hfirst.2, if_pos hsecond]

theorem scan_three (rest : List UInt8) (hfirst : 0xE0 ≤ first.toNat ∧ first.toNat < 0xF0)
    (hsecond : allowsSecond first.toNat second = true) (hthird : isContinuation third = true) :
    scan first (second :: third :: rest) =
      .character
        (Char.ofNat ((first.toNat % 16 * 64 + payload second) * 64 + payload third)) 2 := by
  unfold scan
  dsimp only
  rw [if_neg (by omega), if_neg (by omega), if_neg (by omega), if_pos hfirst.2, hsecond]
  exact if_pos hthird

theorem scan_four (rest : List UInt8) (hfirst : 0xF0 ≤ first.toNat ∧ first.toNat < 0xF5)
    (hsecond : allowsSecond first.toNat second = true) (hthird : isContinuation third = true)
    (hfourth : isContinuation fourth = true) :
    scan first (second :: third :: fourth :: rest) =
      .character (Char.ofNat (((first.toNat % 8 * 64 + payload second) * 64 + payload third) * 64 +
        payload fourth)) 3 := by
  unfold scan
  dsimp only
  rw [if_neg (by omega), if_neg (by omega), if_neg (by omega), if_neg (by omega), if_pos hfirst.2,
    hsecond, hthird]
  exact if_pos hfourth

/-! ## Bytes of characters -/

theorem toNat_ofNat {n : Nat} (h : n < 256) : (UInt8.ofNat n).toNat = n :=
  UInt8.toNat_ofNat_of_lt' h

variable {n : Nat}

theorem isContinuation_ofNat (h : n < 64) : isContinuation (UInt8.ofNat (n + 128)) = true := by
  have hbyte : (UInt8.ofNat (n + 128)).toNat = n + 128 := toNat_ofNat (by omega)
  simp only [isContinuation, hbyte, Bool.and_eq_true, decide_eq_true_eq]
  omega

theorem payload_ofNat (h : n < 64) : payload (UInt8.ofNat (n + 128)) = n := by
  rw [payload, toNat_ofNat (by omega)]
  omega

/-- The second byte is allowed if the character does not have a shorter form, is no surrogate and
does not stand behind the last code point. -/
theorem allowsSecond_ofNat {first : Nat} (h : n < 64)
    (hleast : (first = 0xE0 → 0x20 ≤ n) ∧ (first = 0xF0 → 0x10 ≤ n))
    (hgreatest : (first = 0xED → n < 0x20) ∧ (first = 0xF4 → n < 0x10)) :
    allowsSecond first (UInt8.ofNat (n + 128)) = true := by
  have hbyte : (UInt8.ofNat (n + 128)).toNat = n + 128 := toNat_ofNat (by omega)
  simp only [allowsSecond, leastSecond, greatestSecond, hbyte, Bool.and_eq_true, decide_eq_true_eq]
  constructor <;> split_ifs <;> omega

/-- A character is read from its bytes, whatever follows them. -/
theorem scan_utf8EncodeChar (c : Char) (rest : List UInt8) :
    ∃ first more, String.utf8EncodeChar c = first :: more ∧
      scan first (more ++ rest) = .character c more.length := by
  have hvalue : Char.ofNat c.val.toNat = c := Char.ofNat_toNat c
  have hvalid : c.val.toNat < 0xD800 ∨ (0xDFFF < c.val.toNat ∧ c.val.toNat < 0x110000) := c.valid
  unfold String.utf8EncodeChar
  dsimp only
  generalize c.val.toNat = v at hvalue hvalid ⊢
  split_ifs with hone htwo hthree
  · have hfirst : (UInt8.ofNat v).toNat = v := toNat_ofNat (by omega)
    refine ⟨_, _, rfl, ?_⟩
    rw [List.nil_append, scan_one _ (by omega), hfirst, hvalue]
    rfl
  · have hfirst : (UInt8.ofNat (v / 64 % 32 + 192)).toNat = v / 64 % 32 + 192 :=
      toNat_ofNat (by omega)
    have hlast : v % 64 < 64 := by omega
    have hnumber : (v / 64 % 32 + 192) % 32 * 64 + v % 64 = v := by omega
    refine ⟨_, _, rfl, ?_⟩
    rw [List.singleton_append, scan_two _ (by omega) (isContinuation_ofNat hlast), hfirst,
      payload_ofNat hlast, hnumber, hvalue]
    rfl
  · have hfirst : (UInt8.ofNat (v / 4096 % 16 + 224)).toNat = v / 4096 % 16 + 224 :=
      toNat_ofNat (by omega)
    have hsecond : v / 64 % 64 < 64 := by omega
    have hlast : v % 64 < 64 := by omega
    have hallowed : allowsSecond (v / 4096 % 16 + 224) (UInt8.ofNat (v / 64 % 64 + 128)) = true :=
      allowsSecond_ofNat hsecond (by omega) (by omega)
    have hnumber : ((v / 4096 % 16 + 224) % 16 * 64 + v / 64 % 64) * 64 + v % 64 = v := by omega
    refine ⟨_, _, rfl, ?_⟩
    rw [List.cons_append, List.singleton_append,
      scan_three _ (by omega) (by rwa [hfirst]) (isContinuation_ofNat hlast), hfirst,
      payload_ofNat hsecond, payload_ofNat hlast, hnumber, hvalue]
    rfl
  · have hfirst : (UInt8.ofNat (v / 262144 % 8 + 240)).toNat = v / 262144 % 8 + 240 :=
      toNat_ofNat (by omega)
    have hsecond : v / 4096 % 64 < 64 := by omega
    have hthird : v / 64 % 64 < 64 := by omega
    have hlast : v % 64 < 64 := by omega
    have hallowed :
        allowsSecond (v / 262144 % 8 + 240) (UInt8.ofNat (v / 4096 % 64 + 128)) = true :=
      allowsSecond_ofNat hsecond (by omega) (by omega)
    have hnumber : (((v / 262144 % 8 + 240) % 8 * 64 + v / 4096 % 64) * 64 + v / 64 % 64) * 64 +
        v % 64 = v := by omega
    refine ⟨_, _, rfl, ?_⟩
    rw [List.cons_append, List.cons_append, List.singleton_append,
      scan_four _ (by omega) (by rwa [hfirst]) (isContinuation_ofNat hthird)
        (isContinuation_ofNat hlast), hfirst, payload_ofNat hsecond, payload_ofNat hthird,
      payload_ofNat hlast, hnumber, hvalue]
    rfl

/-! ## Texts -/

theorem decodeFrom_flatMap (cs : List Char) (index : Nat) :
    decodeFrom index (cs.flatMap String.utf8EncodeChar) = .ok cs := by
  induction cs generalizing index with
  | nil => simp [decodeFrom]
  | cons c cs ih =>
      obtain ⟨first, more, hbytes, hscan⟩ :=
        scan_utf8EncodeChar c (cs.flatMap String.utf8EncodeChar)
      rw [List.flatMap_cons, hbytes, List.cons_append, decodeFrom, hscan]
      dsimp only
      rw [List.drop_left, ih]
      rfl

/-- A text is read back from its bytes. -/
theorem decode_encode (s : String) : decode (encode s) = .ok s.toList :=
  decodeFrom_flatMap s.toList 0

end HeadEnd.Utf8
