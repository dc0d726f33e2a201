import HeadEnd.Text.Blank

/-! # Blanks around a text

A text that has no blanks is what is left of it when blanks are put around it and removed again.
-/

namespace HeadEnd.Blank

theorem isBlank_of_isDigit {c : Char} (h : c.isDigit = true) : isBlank c = false := by
  have hrange : 48 ≤ c.toNat ∧ c.toNat ≤ 57 := by
    simpa [Char.isDigit, UInt32.le_iff_toNat_le] using h
  simp only [isBlank, Bool.or_eq_false_iff, Bool.and_eq_false_iff, decide_eq_false_iff_not,
    beq_eq_false_iff_ne]
  omega

/-- Blanks are dropped up to the first character that is none. -/
theorem dropWhile_isBlank_append {blanks cs : List Char} (hblanks : ∀ c ∈ blanks, isBlank c = true)
    (hcs : ∀ c ∈ cs, isBlank c = false) (hne : cs ≠ []) (rest : List Char) :
    (blanks ++ (cs ++ rest)).dropWhile isBlank = cs ++ rest := by
  rw [List.dropWhile_append_of_pos hblanks]
  cases cs with
  | nil => exact absurd rfl hne
  | cons c cs => simp [hcs c List.mem_cons_self]

theorem trim_append {before cs after : List Char} (hbefore : ∀ c ∈ before, isBlank c = true)
    (hcs : ∀ c ∈ cs, isBlank c = false) (hne : cs ≠ []) (hafter : ∀ c ∈ after, isBlank c = true) :
    trim (before ++ (cs ++ after)) = cs := by
  have hafter : ∀ c ∈ after.reverse, isBlank c = true := by simpa using hafter
  have hcs' : ∀ c ∈ cs.reverse, isBlank c = false := by simpa using hcs
  have hreversed := dropWhile_isBlank_append hafter hcs' (by simpa using hne) []
  rw [trim, dropWhile_isBlank_append hbefore hcs hne, List.reverse_append]
  simpa using congrArg List.reverse hreversed

end HeadEnd.Blank
