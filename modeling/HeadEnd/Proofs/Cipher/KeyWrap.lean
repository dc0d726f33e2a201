import HeadEnd.Cipher.KeyWrap
import HeadEnd.Proofs.Cipher.Aes

/-! # Wrapping and unwrapping

Each round is taken back step by step, from the last step to the first. That works for every cipher
that decrypts what it encrypted, and needs nothing else of the cipher. A cipher that also encrypts
what it decrypted leads back to everything that can be unwrapped.
-/

namespace HeadEnd.Cipher.KeyWrap

variable {c : BlockCipher} {cipher : Block → BlockCipher} {wrappingKey key data : List UInt8}

/-! ## Rounds -/

theorem length_wrapRound (step : Nat) (check : UInt64) (words : List UInt64) :
    (wrapRound c step check words).2.length = words.length := by
  induction words generalizing step check with
  | nil => rfl
  | cons word rest ih => rw [wrapRound, List.length_cons, List.length_cons, ih]

theorem length_wrapRounds (step : Nat) (check : UInt64) (words : List UInt64) (count : Nat) :
    (wrapRounds c step check words count).2.length = words.length := by
  induction count generalizing step check words with
  | zero => rfl
  | succ count ih => rw [wrapRounds, ih, length_wrapRound]

theorem unwrapRound_wrapRound (hc : ∀ b, c.decrypt (c.encrypt b) = b) (step : Nat)
    (check : UInt64) (words : List UInt64) :
    unwrapRound c step (wrapRound c step check words).1 (wrapRound c step check words).2 =
      (check, words) := by
  induction words generalizing step check with
  | nil => rfl
  | cons word rest ih =>
      rw [wrapRound, unwrapRound, ih]
      simp only [UInt64.xor_assoc, UInt64.xor_self, UInt64.xor_zero, hc]

/-- Rounds are taken back in the opposite order, whatever the number of the first step. -/
theorem unwrapRounds_wrapRounds (hc : ∀ b, c.decrypt (c.encrypt b) = b) (step : Nat)
    (check : UInt64) (words : List UInt64) (count : Nat) :
    unwrapRounds c step (wrapRounds c step check words count).1
      (wrapRounds c step check words count).2 count = (check, words) := by
  induction count generalizing step check words with
  | zero => rfl
  | succ count ih =>
      have hlength : (wrapRounds c (step + words.length) (wrapRound c step check words).1
          (wrapRound c step check words).2 count).2.length = words.length := by
        rw [length_wrapRounds, length_wrapRound]
      rw [wrapRounds, unwrapRounds, hlength, ih]
      exact unwrapRound_wrapRound hc step check words

/-! ## Rounds taken back -/

theorem length_unwrapRound (step : Nat) (check : UInt64) (words : List UInt64) :
    (unwrapRound c step check words).2.length = words.length := by
  induction words generalizing step with
  | nil => rfl
  | cons word rest ih => rw [unwrapRound, List.length_cons, List.length_cons, ih]

theorem length_unwrapRounds (step : Nat) (check : UInt64) (words : List UInt64) (count : Nat) :
    (unwrapRounds c step check words count).2.length = words.length := by
  induction count generalizing step with
  | zero => rfl
  | succ count ih => rw [unwrapRounds, length_unwrapRound, ih]

theorem wrapRound_unwrapRound (hc : ∀ b, c.encrypt (c.decrypt b) = b) (step : Nat)
    (check : UInt64) (words : List UInt64) :
    wrapRound c step (unwrapRound c step check words).1 (unwrapRound c step check words).2 =
      (check, words) := by
  induction words generalizing step with
  | nil => rfl
  | cons word rest ih =>
      rw [unwrapRound, wrapRound, hc]
      simp only [UInt64.xor_assoc, UInt64.xor_self, UInt64.xor_zero, ih]

/-- What was taken back in the opposite order is led back in the order of the rounds. -/
theorem wrapRounds_unwrapRounds (hc : ∀ b, c.encrypt (c.decrypt b) = b) (step : Nat)
    (check : UInt64) (words : List UInt64) (count : Nat) :
    wrapRounds c step (unwrapRounds c step check words count).1
      (unwrapRounds c step check words count).2 count = (check, words) := by
  induction count generalizing step with
  | zero => rfl
  | succ count ih =>
      rw [unwrapRounds, wrapRounds, length_unwrapRound, length_unwrapRounds,
        wrapRound_unwrapRound hc]
      exact ih (step + words.length)

/-! ## Wrapped keys -/

theorem inputWords_eq_ok_iff {input : WrapInput} {words : List UInt64} :
    inputWords input data = .ok words ↔
      words? data = some words ∧ input.leastSize ≤ data.length := by
  unfold inputWords
  split
  · split <;> simp_all
  · simp_all

theorem cipherOf_eq_ok_iff :
    cipherOf cipher wrappingKey = .ok c ↔ ∃ block, Block.ofBytes? wrappingKey = some block ∧
      cipher block = c := by
  unfold cipherOf
  split
  · simp_all
  · simp_all

theorem wrap_eq_ok_iff :
    wrap cipher wrappingKey key = .ok data ↔ ∃ c words,
      cipherOf cipher wrappingKey = .ok c ∧ inputWords .plain key = .ok words ∧
      bytesOfWords ((wrapRounds c 1 initialCheck words rounds).1 ::
        (wrapRounds c 1 initialCheck words rounds).2) = data := by
  rw [wrap]
  cases cipherOf cipher wrappingKey with
  | error fault => simp [bind, Except.bind]
  | ok c =>
      cases inputWords .plain key with
      | error fault => simp [bind, Except.bind]
      | ok words => simp [bind, Except.bind, pure, Except.pure]

/-- Whoever has the wrapping key gets back the key that was wrapped. -/
theorem unwrap_of_wrap (hc : ∀ block b, (cipher block).decrypt ((cipher block).encrypt b) = b)
    (h : wrap cipher wrappingKey key = .ok data) : unwrap cipher wrappingKey data = .ok key := by
  obtain ⟨c, words, hcipher, hinput, rfl⟩ := wrap_eq_ok_iff.mp h
  obtain ⟨block, _, rfl⟩ := cipherOf_eq_ok_iff.mp hcipher
  obtain ⟨hwords, hsize⟩ := inputWords_eq_ok_iff.mp hinput
  have hkey : bytesOfWords words = key := bytesOfWords_of_words? hwords
  have hrounds := unwrapRounds_wrapRounds (hc block) 1 initialCheck words rounds
  have hlength := length_wrapRounds (c := cipher block) 1 initialCheck words rounds
  generalize wrapRounds (cipher block) 1 initialCheck words rounds = wrapped at hrounds hlength
  have hwrapped : inputWords .wrapped (bytesOfWords (wrapped.1 :: wrapped.2)) =
      .ok (wrapped.1 :: wrapped.2) := by
    refine inputWords_eq_ok_iff.mpr ⟨words?_bytesOfWords _, ?_⟩
    rw [← hkey, length_bytesOfWords] at hsize
    rw [length_bytesOfWords, List.length_cons, hlength]
    simp only [WrapInput.leastSize] at hsize ⊢
    omega
  simp only [unwrap, hcipher, hwrapped, hrounds, hkey, bind, Except.bind, pure, Except.pure,
    if_true]

theorem unwrap_eq_ok_iff :
    unwrap cipher wrappingKey data = .ok key ↔ ∃ c check words,
      cipherOf cipher wrappingKey = .ok c ∧ inputWords .wrapped data = .ok (check :: words) ∧
      (unwrapRounds c 1 check words rounds).1 = initialCheck ∧
      bytesOfWords (unwrapRounds c 1 check words rounds).2 = key := by
  rw [unwrap]
  cases cipherOf cipher wrappingKey with
  | error fault => simp [bind, Except.bind]
  | ok c =>
      cases inputWords .wrapped data with
      | error fault => simp [bind, Except.bind]
      | ok words =>
          cases words with
          | nil => simp [bind, Except.bind, throw, throwThe, MonadExceptOf.throw]
          | cons check words =>
              change (if (unwrapRounds c 1 check words rounds).1 = initialCheck then
                .ok (bytesOfWords (unwrapRounds c 1 check words rounds).2)
                else .error SecurityFault.notIntact) = Except.ok key ↔ _
              constructor
              · intro h
                split at h
                · rename_i hcheck
                  exact ⟨c, check, words, rfl, rfl, hcheck, Except.ok.inj h⟩
                · cases h
              · rintro ⟨_, _, _, ⟨⟩, ⟨⟩, hcheck, rfl⟩
                rw [if_pos hcheck]

/-- What can be unwrapped is the wrapped form of the key that comes out. -/
theorem wrap_of_unwrap (hc : ∀ block b, (cipher block).encrypt ((cipher block).decrypt b) = b)
    (h : unwrap cipher wrappingKey data = .ok key) : wrap cipher wrappingKey key = .ok data := by
  obtain ⟨c, check, words, hcipher, hinput, hcheck, rfl⟩ := unwrap_eq_ok_iff.mp h
  obtain ⟨block, _, rfl⟩ := cipherOf_eq_ok_iff.mp hcipher
  obtain ⟨hwords, hsize⟩ := inputWords_eq_ok_iff.mp hinput
  have hdata : bytesOfWords (check :: words) = data := bytesOfWords_of_words? hwords
  have hrounds := wrapRounds_unwrapRounds (hc block) 1 check words rounds
  have hlength := length_unwrapRounds (c := cipher block) 1 check words rounds
  generalize unwrapRounds (cipher block) 1 check words rounds = unwrapped at hcheck hrounds hlength
  have hplain : inputWords .plain (bytesOfWords unwrapped.2) = .ok unwrapped.2 := by
    refine inputWords_eq_ok_iff.mpr ⟨words?_bytesOfWords _, ?_⟩
    rw [← hdata, length_bytesOfWords, List.length_cons] at hsize
    rw [length_bytesOfWords, hlength]
    simp only [WrapInput.leastSize] at hsize ⊢
    omega
  rw [hcheck] at hrounds
  exact wrap_eq_ok_iff.mpr ⟨_, _, hcipher, hplain, by rw [hrounds, hdata]⟩

/-! ## Sizes -/

theorem exists_inputWords_iff (input : WrapInput) :
    (∃ words, inputWords input data = .ok words) ↔
      8 ∣ data.length ∧ input.leastSize ≤ data.length := by
  simp only [inputWords_eq_ok_iff, exists_and_right, exists_words?_iff]

variable (cipher) in
theorem exists_cipherOf_iff :
    (∃ c, cipherOf cipher wrappingKey = .ok c) ↔ wrappingKey.length = 16 := by
  simp only [cipherOf_eq_ok_iff, ← Block.exists_ofBytes?_iff]
  constructor
  · rintro ⟨_, block, hblock, _⟩
    exact ⟨block, hblock⟩
  · rintro ⟨block, hblock⟩
    exact ⟨_, block, hblock, rfl⟩

/-- Data of the wrong size is refused with its size. -/
theorem inputWords_eq_error (input : WrapInput)
    (h : ¬ (8 ∣ data.length ∧ input.leastSize ≤ data.length)) :
    inputWords input data = .error (.wrapInputSize input data.length) := by
  rw [← exists_inputWords_iff] at h
  unfold inputWords at h ⊢
  split
  · split
    · simp_all
    · rfl
  · rfl

variable (cipher) in
/-- A wrapping key of the wrong size is refused with its size. -/
theorem cipherOf_eq_error (h : wrappingKey.length ≠ 16) :
    cipherOf cipher wrappingKey = .error (.wrappingKeySize wrappingKey.length) := by
  rw [ne_eq, ← exists_cipherOf_iff cipher] at h
  unfold cipherOf at h ⊢
  split
  · simp_all
  · rfl

variable (cipher) in
/-- A key of the right size has a wrapped form, which is longer by the check word. -/
theorem exists_wrap (hwrapping : wrappingKey.length = 16) (hwhole : 8 ∣ key.length)
    (hleast : 16 ≤ key.length) :
    ∃ data, wrap cipher wrappingKey key = .ok data ∧ data.length = key.length + 8 := by
  obtain ⟨c, hcipher⟩ := (exists_cipherOf_iff cipher).mpr hwrapping
  obtain ⟨words, hinput⟩ := (exists_inputWords_iff .plain).mpr ⟨hwhole, hleast⟩
  refine ⟨_, wrap_eq_ok_iff.mpr ⟨c, words, hcipher, hinput, rfl⟩, ?_⟩
  rw [length_bytesOfWords, List.length_cons, length_wrapRounds,
    length_of_words? (inputWords_eq_ok_iff.mp hinput).1]
  omega

/-! ## Wrapping and unwrapping undo each other -/

/-- With a cipher that encryption and decryption of undo each other, every key of the right size is
wrapped, with eight bytes more, and unwrapped again, and all that can be unwrapped is what the key
that comes out is wrapped as. A wrapping key or data of any other size is refused. -/
theorem wrap_unwrap_inverse (hc : ∀ block, (cipher block).IsInvertible) :
    (∀ wrappingKey key, wrappingKey.length = 16 → 8 ∣ key.length → 16 ≤ key.length →
      ∃ data, wrap cipher wrappingKey key = .ok data ∧ data.length = key.length + 8 ∧
        unwrap cipher wrappingKey data = .ok key) ∧
    (∀ wrappingKey data key, unwrap cipher wrappingKey data = .ok key →
      wrap cipher wrappingKey key = .ok data) ∧
    (∀ wrappingKey data, wrappingKey.length ≠ 16 →
      wrap cipher wrappingKey data = .error (.wrappingKeySize wrappingKey.length) ∧
      unwrap cipher wrappingKey data = .error (.wrappingKeySize wrappingKey.length)) ∧
    (∀ wrappingKey key, wrappingKey.length = 16 → ¬ (8 ∣ key.length ∧ 16 ≤ key.length) →
      wrap cipher wrappingKey key = .error (.wrapInputSize .plain key.length)) ∧
    ∀ wrappingKey data, wrappingKey.length = 16 → ¬ (8 ∣ data.length ∧ 24 ≤ data.length) →
      unwrap cipher wrappingKey data = .error (.wrapInputSize .wrapped data.length) := by
  refine ⟨?_, ?_, ?_, ?_, ?_⟩
  · intro wrappingKey key hwrapping hwhole hleast
    obtain ⟨data, hwrap, hlength⟩ := exists_wrap cipher hwrapping hwhole hleast
    exact ⟨data, hwrap, hlength, unwrap_of_wrap (fun block => (hc block).1) hwrap⟩
  · intro wrappingKey data key hunwrap
    exact wrap_of_unwrap (fun block => (hc block).2) hunwrap
  · intro wrappingKey data hwrapping
    have hcipher := cipherOf_eq_error cipher hwrapping
    simp [wrap, unwrap, hcipher, bind, Except.bind]
  · intro wrappingKey key hwrapping hsize
    obtain ⟨c, hcipher⟩ := (exists_cipherOf_iff cipher).mpr hwrapping
    have hinput := inputWords_eq_error .plain hsize
    simp [wrap, hcipher, hinput, bind, Except.bind]
  · intro wrappingKey data hwrapping hsize
    obtain ⟨c, hcipher⟩ := (exists_cipherOf_iff cipher).mpr hwrapping
    have hinput := inputWords_eq_error .wrapped hsize
    simp [unwrap, hcipher, hinput, bind, Except.bind]

/-- A key of three words under AES. -/
theorem wrap_unwrap_inverse_of_three_words :
    ∃ data, wrap Aes.cipher (List.replicate 16 0x0F) (List.replicate 24 0xA5) = .ok data ∧
      data.length = 32 ∧
      unwrap Aes.cipher (List.replicate 16 0x0F) data = .ok (List.replicate 24 0xA5) ∧
      unwrap Aes.cipher (List.replicate 16 0x0F) (data ++ [0]) =
        .error (.wrapInputSize .wrapped 33) := by
  obtain ⟨hwrapped, _, _, _, hrefused⟩ := wrap_unwrap_inverse Aes.cipher_isInvertible
  obtain ⟨data, hwrap, hlength, hunwrap⟩ :=
    hwrapped (List.replicate 16 0x0F) (List.replicate 24 0xA5) rfl (by decide) (by decide)
  have hlong : (data ++ [0]).length = 33 := by rw [List.length_append, hlength]; rfl
  refine ⟨data, hwrap, hlength, hunwrap, ?_⟩
  rw [← hlong]
  exact hrefused _ _ rfl (by rw [hlong]; decide)

end HeadEnd.Cipher.KeyWrap
