import HeadEnd.Cipher.Block

/-! # Words and their bytes

Words and groups of eight bytes are the same thing written in two ways, and so are blocks and groups
of sixteen bytes.
-/

namespace HeadEnd.Cipher

/-! ## One word -/

theorem toNat_wordOfBytes (a b c d e f g h : UInt8) :
    (wordOfBytes [a, b, c, d, e, f, g, h]).toNat =
      256 * (256 * (256 * (256 * (256 * (256 * (256 * a.toNat + b.toNat) + c.toNat) + d.toNat) +
        e.toNat) + f.toNat) + g.toNat) + h.toNat := by
  have := a.toNat_lt
  have := b.toNat_lt
  have := c.toNat_lt
  have := d.toNat_lt
  have := e.toNat_lt
  have := f.toNat_lt
  have := g.toNat_lt
  have := h.toNat_lt
  simp only [wordOfBytes, List.foldl, UInt64.toNat_ofNat']
  omega

/-- What a shift leaves is what a shift by eight bits more leaves, and the byte that drops out. -/
theorem shiftRight_add_eight (n shift : Nat) :
    256 * (n >>> (shift + 8)) + n >>> shift % 256 = n >>> shift := by
  rw [Nat.shiftRight_add, Nat.shiftRight_eq_div_pow (n >>> shift) 8]
  exact Nat.div_add_mod (n >>> shift) 256

theorem wordOfBytes_bytesOfWord (word : UInt64) : wordOfBytes (bytesOfWord word) = word := by
  have hfirst : word.toNat >>> 56 % 256 = word.toNat >>> 56 := by
    have := word.toNat_lt
    rw [Nat.shiftRight_eq_div_pow]
    omega
  apply UInt64.toNat_inj.mp
  simp only [bytesOfWord, List.map, toNat_wordOfBytes, UInt8.toNat_ofNat', Nat.reducePow, hfirst]
  rw [shiftRight_add_eight _ 48, shiftRight_add_eight _ 40, shiftRight_add_eight _ 32,
    shiftRight_add_eight _ 24, shiftRight_add_eight _ 16, shiftRight_add_eight _ 8,
    shiftRight_add_eight _ 0]
  rfl

theorem bytesOfWord_wordOfBytes (a b c d e f g h : UInt8) :
    bytesOfWord (wordOfBytes [a, b, c, d, e, f, g, h]) = [a, b, c, d, e, f, g, h] := by
  have := a.toNat_lt
  have := b.toNat_lt
  have := c.toNat_lt
  have := d.toNat_lt
  have := e.toNat_lt
  have := f.toNat_lt
  have := g.toNat_lt
  have := h.toNat_lt
  simp only [bytesOfWord, List.map, toNat_wordOfBytes, Nat.shiftRight_eq_div_pow, List.cons.injEq,
    and_true, ← UInt8.toNat_inj, UInt8.toNat_ofNat']
  omega

theorem bytesOfWord_wordOfBytes_of_length {bytes : List UInt8} (h : bytes.length = 8) :
    bytesOfWord (wordOfBytes bytes) = bytes := by
  match bytes, h with
  | [_, _, _, _, _, _, _, _], _ => exact bytesOfWord_wordOfBytes ..

/-! ## Several words -/

theorem bytesOfWords_cons (word : UInt64) (words : List UInt64) :
    bytesOfWords (word :: words) = bytesOfWord word ++ bytesOfWords words :=
  rfl

theorem length_bytesOfWords (words : List UInt64) :
    (bytesOfWords words).length = 8 * words.length := by
  induction words with
  | nil => rfl
  | cons word words ih =>
      rw [bytesOfWords_cons, List.length_append, ih, List.length_cons, bytesOfWord, List.length_map]
      simp only [List.length_cons, List.length_nil]
      omega

theorem words?_bytesOfWord_append (word : UInt64) (bytes : List UInt8) :
    words? (bytesOfWord word ++ bytes) = (words? bytes).map (word :: ·) := by
  calc words? (bytesOfWord word ++ bytes)
      = (words? bytes).map (wordOfBytes (bytesOfWord word) :: ·) := rfl
    _ = (words? bytes).map (word :: ·) := by rw [wordOfBytes_bytesOfWord]

theorem words?_bytesOfWords (words : List UInt64) : words? (bytesOfWords words) = some words := by
  induction words with
  | nil => rfl
  | cons word words ih =>
      rw [bytesOfWords_cons, words?_bytesOfWord_append, ih, Option.map_some]

theorem bytesOfWords_of_words? {bytes : List UInt8} {words : List UInt64}
    (h : words? bytes = some words) : bytesOfWords words = bytes := by
  fun_induction words? bytes generalizing words with
  | case1 =>
      cases h
      rfl
  | case2 a b c d e f g i rest ih =>
      obtain ⟨words', hrest, rfl⟩ := Option.map_eq_some_iff.mp h
      rw [bytesOfWords_cons, bytesOfWord_wordOfBytes, ih hrest]
      rfl
  | case3 => cases h

theorem length_of_words? {bytes : List UInt8} {words : List UInt64} (h : words? bytes = some words) :
    bytes.length = 8 * words.length := by
  rw [← bytesOfWords_of_words? h, length_bytesOfWords]

/-- As many bytes as there are in a number of words are words. -/
theorem exists_words?_of_length {bytes : List UInt8} {count : Nat}
    (h : bytes.length = 8 * count) : ∃ words, words? bytes = some words := by
  induction count generalizing bytes with
  | zero => exact ⟨[], by rw [List.eq_nil_of_length_eq_zero h, words?]⟩
  | succ count ih =>
      match bytes, h with
      | _ :: _ :: _ :: _ :: _ :: _ :: _ :: _ :: rest, h =>
          obtain ⟨words, hrest⟩ := @ih rest (by simp only [List.length_cons] at h; omega)
          exact ⟨_, congrArg (Option.map _) hrest⟩

theorem exists_words?_iff {bytes : List UInt8} :
    (∃ words, words? bytes = some words) ↔ 8 ∣ bytes.length := by
  constructor
  · rintro ⟨words, h⟩
    exact ⟨words.length, length_of_words? h⟩
  · rintro ⟨count, h⟩
    exact exists_words?_of_length h

/-! ## Blocks -/

theorem Block.exists_ofBytes?_iff {bytes : List UInt8} :
    (∃ block, Block.ofBytes? bytes = some block) ↔ bytes.length = 16 := by
  constructor
  · rintro ⟨block, h⟩
    unfold ofBytes? at h
    split at h
    · rename_i hwords
      exact length_of_words? hwords
    · cases h
  · intro h
    obtain ⟨words, hwords⟩ := exists_words?_iff.mpr ⟨2, h⟩
    have hlength := length_of_words? hwords
    match words, hlength with
    | [high, low], _ => exact ⟨⟨high, low⟩, by rw [ofBytes?, hwords]⟩
    | [], hlength => simp [h] at hlength
    | [_], hlength => simp [h] at hlength
    | _ :: _ :: _ :: _, hlength =>
        simp only [List.length_cons] at hlength
        omega

end HeadEnd.Cipher
