import HeadEnd.Text.Decimal
import Mathlib.Data.List.Basic

/-! # Lines

Texts without a line feed, and texts that are made of such lines with a line feed after each.
-/

namespace HeadEnd

/-- There is no line feed in the text. -/
def IsOneLine (text : String) : Prop :=
  '\n' ∉ text.toList

instance (text : String) : Decidable (IsOneLine text) :=
  inferInstanceAs (Decidable ('\n' ∉ text.toList))

@[simp] theorem isOneLine_append {s t : String} :
    IsOneLine (s ++ t) ↔ IsOneLine s ∧ IsOneLine t := by
  simp [IsOneLine, String.toList_append]

@[simp] theorem isOneLine_ofList {cs : List Char} : IsOneLine (String.ofList cs) ↔ '\n' ∉ cs := by
  simp [IsOneLine]

theorem isOneLine_intercalate {separator : String} {texts : List String}
    (hseparator : IsOneLine separator) (htexts : ∀ text ∈ texts, IsOneLine text) :
    IsOneLine (separator.intercalate texts) := by
  induction texts with
  | nil => simp [IsOneLine]
  | cons text rest ih =>
      obtain ⟨htext, hrest⟩ := List.forall_mem_cons.mp htexts
      cases rest with
      | nil => simpa using htext
      | cons next rest =>
          rw [String.intercalate_cons_cons, isOneLine_append, isOneLine_append]
          exact ⟨⟨htext, hseparator⟩, ih hrest⟩

/-! ## Numerals -/

theorem not_mem_digits (n : Nat) : '\n' ∉ Decimal.digits n := by
  intro h
  have := Decimal.isDigit_of_mem_digits h
  revert this
  decide

@[simp] theorem isOneLine_repr (n : Nat) : IsOneLine n.repr := by
  rw [IsOneLine, Nat.toList_repr]
  exact not_mem_digits n

@[simp] theorem isOneLine_intRepr (n : Int) : IsOneLine n.repr := by
  cases n with
  | ofNat n => exact isOneLine_repr n
  | negSucc n =>
      have hsign : IsOneLine "-" := by decide
      exact isOneLine_append.mpr ⟨hsign, isOneLine_repr (n + 1)⟩

@[simp] theorem isOneLine_uint8 (n : UInt8) : IsOneLine (toString n) :=
  isOneLine_repr n.toNat

@[simp] theorem isOneLine_uint16 (n : UInt16) : IsOneLine (toString n) :=
  isOneLine_repr n.toNat

@[simp] theorem isOneLine_numeral (width n : Nat) : IsOneLine (Decimal.numeral width n) := by
  simp [Decimal.numeral, Decimal.padded, not_mem_digits]

/-! ## Lines of a text -/

/-- A line feed before each text and one at the end, or one at the beginning and one after each. -/
theorem join_map_newline (texts : List String) :
    String.join (texts.map ("\n" ++ ·)) ++ "\n" = "\n" ++ String.join (texts.map (· ++ "\n")) := by
  induction texts with
  | nil => rfl
  | cons text rest ih =>
      rw [List.map_cons, List.map_cons, String.join_cons, String.join_cons, String.append_assoc, ih]
      simp only [String.append_assoc]

/-- The text is made of the lines, each with a line feed after it and none in it. -/
structure IsLinesOf (lines : List String) (text : String) : Prop where
  unbroken : ∀ line ∈ lines, IsOneLine line
  eq_join : text = String.join (lines.map (· ++ "\n"))

namespace IsLinesOf

variable {lines lines' : List String} {text text' : String}

theorem nil : IsLinesOf [] "" where
  unbroken _ hline := absurd hline List.not_mem_nil
  eq_join := rfl

theorem cons {line : String} (hline : IsOneLine line) (h : IsLinesOf lines text) :
    IsLinesOf (line :: lines) (line ++ "\n" ++ text) where
  unbroken := List.forall_mem_cons.mpr ⟨hline, h.unbroken⟩
  eq_join := by rw [h.eq_join, List.map_cons, String.join_cons]

theorem single {line : String} (hline : IsOneLine line) : IsLinesOf [line] (line ++ "\n") where
  unbroken := List.forall_mem_singleton.mpr hline
  eq_join := by simp

theorem append (h : IsLinesOf lines text) (h' : IsLinesOf lines' text') :
    IsLinesOf (lines ++ lines') (text ++ text') where
  unbroken line hline := (List.mem_append.mp hline).elim (h.unbroken line) (h'.unbroken line)
  eq_join := by rw [h.eq_join, h'.eq_join, List.map_append, String.join_append]

/-- What stands before the first of several lines stands before all of them. -/
theorem modifyHead {front : String} (h : IsLinesOf lines text) (hne : lines ≠ [])
    (hfront : IsOneLine front) : IsLinesOf (lines.modifyHead (front ++ ·)) (front ++ text) := by
  obtain ⟨hunbroken, rfl⟩ := h
  obtain ⟨line, rest, rfl⟩ := List.exists_cons_of_ne_nil hne
  obtain ⟨hline, hrest⟩ := List.forall_mem_cons.mp hunbroken
  have hfirst : IsOneLine (front ++ line) := isOneLine_append.mpr ⟨hfront, hline⟩
  have hlines := cons hfirst ⟨hrest, rfl⟩
  rw [List.modifyHead_cons, List.map_cons, String.join_cons]
  simpa only [String.append_assoc] using hlines

/-- As many lines as there are line feeds. -/
theorem length_eq (h : IsLinesOf lines text) : lines.length = text.toList.count '\n' := by
  obtain ⟨hunbroken, rfl⟩ := h
  induction lines with
  | nil => simp
  | cons line rest ih =>
      obtain ⟨hline, hrest⟩ := List.forall_mem_cons.mp hunbroken
      have hcount : line.toList.count '\n' = 0 := List.count_eq_zero.mpr hline
      rw [List.map_cons, String.join_cons, String.toList_append, String.toList_append,
        List.count_append, List.count_append, hcount, ← ih hrest, List.length_cons]
      simp
      omega

end IsLinesOf

end HeadEnd
