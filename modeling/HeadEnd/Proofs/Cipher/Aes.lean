import HeadEnd.Cipher.Aes
import HeadEnd.Proofs.Cipher.Block
import Mathlib.Algebra.Group.Nat.Defs
import Mathlib.Logic.Function.Iterate

/-! # Decryption with AES-128

Decryption takes back every step of encryption. The one step that needs the field of bytes is the
substitution: the inverse is a power, and every byte is its own power with the exponent 256.
-/

namespace HeadEnd.Cipher.Aes

/-! ## The field of bytes -/

theorem forall_byte {p : UInt8 → Prop} (h : ∀ i : Fin 256, p (UInt8.ofNat i.val)) (a : UInt8) :
    p a := by
  have ha := h ⟨a.toNat, UInt8.toNat_lt a⟩
  rwa [UInt8.ofNat_toNat] at ha

theorem double_eq (a : UInt8) :
    double a = (a <<< 1) ^^^ (if a.toNat.testBit 7 then 0x1B else 0) := by
  have ha := a.toNat_lt
  have hbit : a.toNat.testBit 7 = decide (128 ≤ a.toNat) := by
    rw [Nat.testBit_eq_decide_div_mod_eq, decide_eq_decide]
    omega
  rw [double, hbit]
  by_cases h : a.toNat < 128
  · simp [h, Nat.not_le.mpr h]
  · simp [h, Nat.not_lt.mp h]

/-- A byte counts as often as its bit says. -/
theorem select_xor (a b : Bool) (c : UInt8) :
    (if a ^^ b then c else 0) = (if a then c else 0) ^^^ (if b then c else 0) := by
  cases a <;> cases b <;> simp

theorem double_xor (a b : UInt8) : double (a ^^^ b) = double a ^^^ double b := by
  rw [double_eq, double_eq, double_eq, UInt8.shiftLeft_xor, UInt8.toNat_xor, Nat.testBit_xor,
    select_xor]
  ac_rfl

theorem mulBits_xor (a b c : UInt8) (count : Nat) :
    mulBits a (b ^^^ c) count = mulBits a b count ^^^ mulBits a c count := by
  induction count generalizing a with
  | zero => exact UInt8.xor_self.symm
  | succ count ih =>
      rw [mulBits, mulBits, mulBits, ih, UInt8.toNat_xor, Nat.testBit_xor, select_xor]
      ac_rfl

theorem xor_mulBits (a b c : UInt8) (count : Nat) :
    mulBits (a ^^^ b) c count = mulBits a c count ^^^ mulBits b c count := by
  induction count generalizing a b with
  | zero => exact UInt8.xor_self.symm
  | succ count ih =>
      rw [mulBits, mulBits, mulBits, double_xor, ih]
      split
      · ac_rfl
      · simp

def IsAdditive (f : UInt8 → UInt8) : Prop :=
  ∀ a b, f (a ^^^ b) = f a ^^^ f b

theorem IsAdditive.map_zero {f : UInt8 → UInt8} (hf : IsAdditive f) : f 0 = 0 := by
  have h := hf 0 0
  rwa [UInt8.xor_self, UInt8.xor_self] at h

theorem IsAdditive.comp {f g : UInt8 → UInt8} (hf : IsAdditive f) (hg : IsAdditive g) :
    IsAdditive fun a => f (g a) := by
  intro a b
  change f (g (a ^^^ b)) = _
  rw [hg, hf]

/-- A map that respects sums and products with `x` passes into the first factor of a product. -/
theorem IsAdditive.map_mulBits {f : UInt8 → UInt8} (hf : IsAdditive f)
    (hdouble : ∀ a, f (double a) = double (f a)) (a b : UInt8) (count : Nat) :
    f (mulBits a b count) = mulBits (f a) b count := by
  induction count generalizing a with
  | zero => exact hf.map_zero
  | succ count ih =>
      rw [mulBits, mulBits, hf, ih, hdouble]
      split
      · rfl
      · rw [hf.map_zero]

theorem mul_xor (a b c : UInt8) : mul a (b ^^^ c) = mul a b ^^^ mul a c :=
  mulBits_xor a b c 8

theorem xor_mul (a b c : UInt8) : mul (a ^^^ b) c = mul a c ^^^ mul b c :=
  xor_mulBits a b c 8

theorem double_mul (a b : UInt8) : mul (double a) b = double (mul a b) :=
  (IsAdditive.map_mulBits double_xor (fun _ => rfl) a b 8).symm

theorem one_mul (a : UInt8) : mul 1 a = a := by
  revert a
  exact forall_byte (by decide +kernel)

/-- A power of `x` with an exponent below eight, which is a byte with a single bit. -/
def unit (k : Nat) : UInt8 :=
  double^[k] 1

/-- Maps that respect sums are equal if they are on the bytes with a single bit. -/
theorem IsAdditive.eq_of_units {f g : UInt8 → UInt8} (hf : IsAdditive f) (hg : IsAdditive g)
    (h : ∀ k < 8, f (unit k) = g (unit k)) (a : UInt8) : f a = g a := by
  have hbits : ∀ count c, (∀ k < count, f (double^[k] c) = g (double^[k] c)) →
      f (mulBits c a count) = g (mulBits c a count) := by
    intro count
    induction count with
    | zero =>
        intro c _
        rw [mulBits, hf.map_zero, hg.map_zero]
    | succ count ih =>
        intro c hc
        rw [mulBits, hf, hg, ih (double c) fun k hk => hc (k + 1) (by omega)]
        split
        · rw [show f c = g c from hc 0 (by omega)]
        · rw [hf.map_zero, hg.map_zero]
  have ha := hbits 8 1 h
  rwa [show mulBits 1 a 8 = a from one_mul a] at ha

theorem mul_comm (a b : UInt8) : mul a b = mul b a := by
  have hunits : ∀ i < 8, ∀ j < 8, mul (unit i) (unit j) = mul (unit j) (unit i) := by
    decide
  refine IsAdditive.eq_of_units (f := fun a => mul a b) (g := mul b) (fun x y => xor_mul x y b)
    (fun x y => mul_xor b x y) (fun i hi => ?_) a
  exact IsAdditive.eq_of_units (f := mul (unit i)) (g := fun b => mul b (unit i))
    (fun x y => mul_xor _ x y) (fun x y => xor_mul x y _) (fun j hj => hunits i hi j hj) b

theorem mul_double (a b : UInt8) : mul a (double b) = double (mul a b) := by
  rw [mul_comm, double_mul, mul_comm]

theorem mul_assoc (a b c : UInt8) : mul (mul a b) c = mul a (mul b c) :=
  (IsAdditive.map_mulBits (mul_xor a) (mul_double a) b c 8).symm

/-! ## Powers and inverses -/

theorem pow_add (a : UInt8) (m n : Nat) : pow a (m + n) = mul (pow a m) (pow a n) := by
  induction m with
  | zero => rw [Nat.zero_add, pow, one_mul]
  | succ m ih => rw [Nat.add_right_comm, pow, ih, pow, mul_assoc]

theorem pow_mul (a : UInt8) (m n : Nat) : pow a (m * n) = pow (pow a m) n := by
  induction n with
  | zero => rfl
  | succ n ih => rw [Nat.mul_succ, Nat.add_comm, pow_add, ih, pow]

def square (a : UInt8) : UInt8 :=
  mul a a

theorem square_xor : IsAdditive square := by
  intro a b
  rw [square, mul_xor, xor_mul, xor_mul, mul_comm b a]
  calc mul a a ^^^ mul a b ^^^ (mul a b ^^^ mul b b)
      = mul a a ^^^ (mul a b ^^^ mul a b) ^^^ mul b b := by ac_rfl
    _ = square a ^^^ square b := by rw [UInt8.xor_self, UInt8.xor_zero, square, square]

theorem pow_two_pow (a : UInt8) (k : Nat) : pow a (2 ^ k) = square^[k] a := by
  induction k with
  | zero => rw [Nat.pow_zero, pow, pow, mul_comm, one_mul, Function.iterate_zero, id]
  | succ k ih =>
      rw [Nat.pow_succ, pow_mul, ih, Function.iterate_succ_apply', square, pow, pow, pow,
        mul_comm _ 1, one_mul]

theorem pow_256 (a : UInt8) : pow a 256 = a := by
  have hadd : ∀ k, IsAdditive square^[k] := by
    intro k
    induction k with
    | zero => exact fun _ _ => rfl
    | succ k ih => exact ih.comp square_xor
  rw [show (256 : Nat) = 2 ^ 8 from rfl, pow_two_pow]
  exact (hadd 8).eq_of_units (g := id) (fun _ _ => rfl) (by decide) a

theorem inverse_inverse (a : UInt8) : inverse (inverse a) = a := by
  have hexp : 254 * 254 = 256 * 252 + 4 := rfl
  calc inverse (inverse a) = pow a (254 * 254) := (pow_mul a 254 254).symm
    _ = mul (pow (pow a 256) 252) (pow a 4) := by rw [hexp, pow_add, pow_mul]
    _ = mul (pow a 252) (pow a 4) := by rw [pow_256]
    _ = a := (pow_add a 252 4).symm.trans (pow_256 a)

/-! ## Substitution of bytes -/

theorem affineInverse_affine (a : UInt8) : affineInverse (affine a) = a := by
  revert a
  exact forall_byte (by decide +kernel)

theorem affine_affineInverse (a : UInt8) : affine (affineInverse a) = a := by
  revert a
  exact forall_byte (by decide +kernel)

theorem get_ofFn {n : Nat} (f : Fin n → UInt8) (i : Fin n) : (Vector.ofFn f).get i = f i := by
  change (Vector.ofFn f)[i.val] = f i
  rw [Vector.getElem_ofFn]

theorem substitute_eq (a : UInt8) : substitute a = affine (inverse a) := by
  rw [substitute, substitutes, get_ofFn, UInt8.ofNat_toNat]

theorem unsubstitute_eq (a : UInt8) : unsubstitute a = inverse (affineInverse a) := by
  rw [unsubstitute, preimages, get_ofFn, UInt8.ofNat_toNat]

theorem unsubstitute_substitute (a : UInt8) : unsubstitute (substitute a) = a := by
  rw [unsubstitute_eq, substitute_eq, affineInverse_affine, inverse_inverse]

theorem substitute_unsubstitute (a : UInt8) : substitute (unsubstitute a) = a := by
  rw [unsubstitute_eq, substitute_eq, inverse_inverse, affine_affineInverse]

/-! ## Steps of a round -/

theorem add_add (s t : State) : (s.add t).add t = s := by
  ext i hi
  simp only [State.add, Vector.getElem_zipWith, UInt8.xor_assoc, UInt8.xor_self, UInt8.xor_zero]

theorem unshiftRows_shiftRows (s : State) : unshiftRows (shiftRows s) = s := by
  have hback : ∀ i : Fin 16, let j := position i.val (i.val / 4 + 4 - i.val % 4)
      position j.val (j.val / 4 + j.val % 4) = i := by decide
  ext i hi
  simp only [unshiftRows, shiftRows, Vector.getElem_ofFn, Fin.getElem_fin, hback ⟨i, hi⟩]

theorem shiftRows_unshiftRows (s : State) : shiftRows (unshiftRows s) = s := by
  have hback : ∀ i : Fin 16, let j := position i.val (i.val / 4 + i.val % 4)
      position j.val (j.val / 4 + 4 - j.val % 4) = i := by decide
  ext i hi
  simp only [unshiftRows, shiftRows, Vector.getElem_ofFn, Fin.getElem_fin, hback ⟨i, hi⟩]

/-- Going down a column from a position in it stays in the column. -/
theorem position_position (row column k : Nat) :
    position ((position row column).val + k) ((position row column).val / 4) =
      position (row + k) column := by
  apply Fin.ext
  simp only [position]
  omega

theorem position_self (row column : Nat) :
    position (position row column).val ((position row column).val / 4) = position row column :=
  position_position row column 0

theorem position_add_four (row column : Nat) :
    position (row + 4) column = position row column := by
  apply Fin.ext
  simp only [position]
  omega

/-- Multiplying with two matrices whose product has the first row `1 0 0 0` changes nothing. -/
theorem mixWith_mixWith {a b c d a' b' c' d' : UInt8}
    (h₀ : mul a' a ^^^ mul b' d ^^^ mul c' c ^^^ mul d' b = 1)
    (h₁ : mul a' b ^^^ mul b' a ^^^ mul c' d ^^^ mul d' c = 0)
    (h₂ : mul a' c ^^^ mul b' b ^^^ mul c' a ^^^ mul d' d = 0)
    (h₃ : mul a' d ^^^ mul b' c ^^^ mul c' b ^^^ mul d' a = 0) (s : State) :
    mixWith a' b' c' d' (mixWith a b c d s) = s := by
  have hzero (x : UInt8) : mul 0 x = 0 := by
    rw [mul_comm]
    exact IsAdditive.map_zero (mul_xor x)
  have hcolumn (w x y z : UInt8) :
      mul a' (mul a w ^^^ mul b x ^^^ mul c y ^^^ mul d z) ^^^
        mul b' (mul a x ^^^ mul b y ^^^ mul c z ^^^ mul d w) ^^^
        mul c' (mul a y ^^^ mul b z ^^^ mul c w ^^^ mul d x) ^^^
        mul d' (mul a z ^^^ mul b w ^^^ mul c x ^^^ mul d y) = w := by
    calc _ = mul (mul a' a ^^^ mul b' d ^^^ mul c' c ^^^ mul d' b) w ^^^
          mul (mul a' b ^^^ mul b' a ^^^ mul c' d ^^^ mul d' c) x ^^^
          mul (mul a' c ^^^ mul b' b ^^^ mul c' a ^^^ mul d' d) y ^^^
          mul (mul a' d ^^^ mul b' c ^^^ mul c' b ^^^ mul d' a) z := by
            simp only [mul_xor, xor_mul, mul_assoc]
            ac_rfl
      _ = w := by simp only [h₀, h₁, h₂, h₃, one_mul, hzero, UInt8.xor_zero]
  have hstart : ∀ i : Fin 16, position i.val (i.val / 4) = i := by decide
  ext i hi
  -- The entries of a column, counted from the one at `i` on, repeat after four.
  have h₄ : position (i + 4) (i / 4) = position i (i / 4) := position_add_four i _
  have h₅ : position (i + 5) (i / 4) = position (i + 1) (i / 4) := position_add_four (i + 1) _
  have h₆ : position (i + 6) (i / 4) = position (i + 2) (i / 4) := position_add_four (i + 2) _
  simp only [mixWith, Vector.getElem_ofFn, Fin.getElem_fin, position_position, position_self,
    Nat.add_zero, Nat.add_assoc, Nat.reduceAdd, h₄, h₅, h₆, hcolumn, hstart ⟨i, hi⟩]

theorem unmixColumns_mixColumns (s : State) : unmixColumns (mixColumns s) = s :=
  mixWith_mixWith rfl rfl rfl rfl s

theorem mixColumns_unmixColumns (s : State) : mixColumns (unmixColumns s) = s :=
  mixWith_mixWith rfl rfl rfl rfl s

/-! ## Rounds -/

theorem map_unsubstitute_map_substitute (s : State) :
    (s.map substitute).map unsubstitute = s := by
  ext i hi
  rw [Vector.getElem_map, Vector.getElem_map, unsubstitute_substitute]

theorem map_substitute_map_unsubstitute (s : State) :
    (s.map unsubstitute).map substitute = s := by
  ext i hi
  rw [Vector.getElem_map, Vector.getElem_map, substitute_unsubstitute]

theorem decryptRounds_encryptRounds (s : State) (keys : List State) :
    decryptRounds (encryptRounds s keys) keys = s := by
  fun_induction encryptRounds s keys with
  | case1 s => rfl
  | case2 s last =>
      rw [decryptRounds, add_add, unshiftRows_shiftRows, map_unsubstitute_map_substitute]
  | case3 s key rest hrest ih =>
      rw [decryptRounds, ih, add_add, unmixColumns_mixColumns, unshiftRows_shiftRows,
        map_unsubstitute_map_substitute]
      exact hrest

theorem encryptRounds_decryptRounds (s : State) (keys : List State) :
    encryptRounds (decryptRounds s keys) keys = s := by
  fun_induction decryptRounds s keys with
  | case1 => rfl
  | case2 last =>
      rw [encryptRounds, map_substitute_map_unsubstitute, shiftRows_unshiftRows, add_add]
  | case3 key rest hrest ih =>
      rw [encryptRounds, map_substitute_map_unsubstitute, shiftRows_unshiftRows,
        mixColumns_unmixColumns, add_add, ih]
      exact hrest

/-! ## The cipher -/

theorem toList_ofBlock (b : Block) : (State.ofBlock b).toList = b.bytes := by
  rw [State.ofBlock, Vector.toList_ofFn]
  rfl

theorem toBlock_ofBlock (b : Block) : (State.ofBlock b).toBlock = b := by
  have hlength : (bytesOfWord b.high).length = 8 := rfl
  rw [State.toBlock, toList_ofBlock, Block.bytes, List.take_left' hlength,
    List.drop_left' hlength, wordOfBytes_bytesOfWord, wordOfBytes_bytesOfWord]

theorem ofBlock_toBlock (s : State) : State.ofBlock s.toBlock = s := by
  apply Vector.toList_inj.mp
  have hlength : s.toList.length = 16 := Vector.length_toList
  rw [toList_ofBlock, Block.bytes, State.toBlock,
    bytesOfWord_wordOfBytes_of_length (by rw [List.length_take]; omega),
    bytesOfWord_wordOfBytes_of_length (by rw [List.length_drop]; omega), List.take_append_drop]

/-- Under every key encryption and decryption undo each other. -/
theorem cipher_isInvertible (key : Block) : (cipher key).IsInvertible := by
  constructor
  · intro b
    simp only [cipher, ofBlock_toBlock, decryptRounds_encryptRounds, add_add, toBlock_ofBlock]
  · intro b
    simp only [cipher, ofBlock_toBlock, add_add, encryptRounds_decryptRounds, toBlock_ofBlock]

end HeadEnd.Cipher.Aes
