import HeadEnd.Failure
import HeadEnd.Proofs.Text.Blank
import HeadEnd.Proofs.Text.Decimal
import Mathlib.Data.List.Forall2

/-! # Texts that spell OBIS codes

A code is spelled in one of two forms. Blanks around the text apart, a text is read as a code
exactly if it spells the code, and the texts that are written for a code spell it.
-/

namespace HeadEnd.ObisCode

/-! ## Spellings -/

/-- Decimal digits, one at least, that denote the byte. -/
structure IsNumeral (cs : List Char) (b : UInt8) : Prop where
  ne_nil : cs ≠ []
  isDigit : ∀ c ∈ cs, c.isDigit = true
  value : Decimal.number cs = b.toNat

/-- A group of the dotted form: a numeral, before which a plus sign may stand. -/
inductive IsDottedGroup : List Char → UInt8 → Prop where
  | plain {cs b} : IsNumeral cs b → IsDottedGroup cs b
  | signed {cs b} : IsNumeral cs b → IsDottedGroup ('+' :: cs) b

/-- A group of the extended form: a numeral of three digits at most. -/
structure IsShortGroup (cs : List Char) (b : UInt8) : Prop extends IsNumeral cs b where
  length_le : cs.length ≤ 3

/-- The characters spell the code: six groups with points between them, or groups of up to three
digits with a mark of its own behind the first two, the last of which follows a point or a star. A
last group that is left out stands for 255. -/
inductive IsSpelledBy (o : ObisCode) : List Char → Prop where
  | dotted {groups : List (List Char)} : List.Forall₂ IsDottedGroup groups o.bytes →
      IsSpelledBy o (['.'].intercalate groups)
  | extended {a b c d e f : List Char} {mark : Char} : IsShortGroup a o.a → IsShortGroup b o.b →
      IsShortGroup c o.c → IsShortGroup d o.d → IsShortGroup e o.e → IsShortGroup f o.f →
      (mark = '.' ∨ mark = '*') →
      IsSpelledBy o (a ++ '-' :: (b ++ ':' :: (c ++ '.' :: (d ++ '.' :: (e ++ mark :: f)))))
  | shortened {a b c d e : List Char} : IsShortGroup a o.a → IsShortGroup b o.b →
      IsShortGroup c o.c → IsShortGroup d o.d → IsShortGroup e o.e → o.f = 255 →
      IsSpelledBy o (a ++ '-' :: (b ++ ':' :: (c ++ '.' :: (d ++ '.' :: e))))

/-! ## Groups -/

variable {cs rest : List Char} {b : UInt8} {o : ObisCode}

theorem byte?_eq_some_iff : byte? cs = some b ↔ IsNumeral cs b := by
  have hb := b.toNat_lt
  simp only [byte?, Option.bind_eq_bind, Option.bind_eq_some_iff, Decimal.number?_eq_some_iff]
  constructor
  · intro h
    obtain ⟨n, ⟨hne, hdigits, hvalue⟩, hn⟩ := h
    split at hn
    · rename_i hlt
      have hbyte : UInt8.ofNat n = b := Option.some.inj hn
      refine ⟨hne, hdigits, hvalue.trans ?_⟩
      rw [← hbyte, UInt8.toNat_ofNat_of_lt' hlt]
    · cases hn
  · intro h
    refine ⟨b.toNat, ⟨h.ne_nil, h.isDigit, h.value⟩, ?_⟩
    rw [if_pos (by omega), UInt8.ofNat_toNat]
    rfl

theorem IsNumeral.not_mem {c : Char} (h : IsNumeral cs b) (hc : c.isDigit = false) : c ∉ cs := by
  intro hmem
  rw [h.isDigit c hmem] at hc
  cases hc

theorem group?_eq_some_iff : group? cs = some b ↔ IsDottedGroup cs b := by
  constructor
  · intro h
    unfold group? at h
    split at h
    · exact .signed (byte?_eq_some_iff.mp h)
    · exact .plain (byte?_eq_some_iff.mp h)
  · intro h
    cases h with
    | signed hnumeral => exact byte?_eq_some_iff.mpr hnumeral
    | plain hnumeral =>
        unfold group?
        split
        · exact absurd List.mem_cons_self (hnumeral.not_mem rfl)
        · exact byte?_eq_some_iff.mpr hnumeral

/-- A mark of a form is no character of a group. -/
theorem IsDottedGroup.not_mem {c : Char} (h : IsDottedGroup cs b) (hc : c.isDigit = false)
    (hplus : c ≠ '+') : c ∉ cs := by
  cases h with
  | plain hnumeral => exact hnumeral.not_mem hc
  | signed hnumeral => simp [hplus, hnumeral.not_mem hc]

/-! ## The dotted form -/

theorem pieces_eq_splitOn (mark : Char) (cs : List Char) : pieces mark cs = cs.splitOn mark := by
  induction cs with
  | nil => rfl
  | cons c cs ih =>
      rw [pieces, ih, List.splitOn_cons_eq_if_modifyHead]
      by_cases hc : c = mark
      · simp [hc]
      · cases h : cs.splitOn mark with
        | nil => exact absurd h (List.splitOn_ne_nil mark cs)
        | cons piece more => simp [hc]

theorem not_mem_of_forall₂ {groups : List (List Char)} {bytes : List UInt8} {c : Char}
    (h : List.Forall₂ IsDottedGroup groups bytes) (hc : c.isDigit = false) (hplus : c ≠ '+') :
    ∀ group ∈ groups, c ∉ group := by
  induction h with
  | nil => simp
  | cons hgroup _ ih => simpa using ⟨hgroup.not_mem hc hplus, ih⟩

theorem ofDotted?_eq_some_iff :
    ofDotted? cs = some o ↔
      ∃ groups, List.Forall₂ IsDottedGroup groups o.bytes ∧ cs = ['.'].intercalate groups := by
  rw [ofDotted?, pieces_eq_splitOn]
  constructor
  · intro h
    refine ⟨cs.splitOn '.', ?_, (List.intercalate_splitOn '.').symm⟩
    split at h
    · rename_i hpieces
      simp only [Option.bind_eq_bind, Option.bind_eq_some_iff, group?_eq_some_iff] at h
      obtain ⟨_, ha, _, hb, _, hc, _, hd, _, he, _, hf, ho⟩ := h
      cases ho
      rw [hpieces]
      exact .cons ha (.cons hb (.cons hc (.cons hd (.cons he (.cons hf .nil)))))
    · cases h
  · intro h
    obtain ⟨groups, hgroups, rfl⟩ := h
    have hne : groups ≠ [] := by
      intro hnil
      rw [hnil] at hgroups
      cases hgroups
    rw [List.splitOn_intercalate '.' (not_mem_of_forall₂ hgroups rfl (by decide)) hne]
    obtain _ | ⟨ha, _ | ⟨hb, _ | ⟨hc, _ | ⟨hd, _ | ⟨he, _ | ⟨hf, ⟨⟩⟩⟩⟩⟩⟩⟩ := hgroups
    simp [group?_eq_some_iff.mpr ha, group?_eq_some_iff.mpr hb, group?_eq_some_iff.mpr hc,
      group?_eq_some_iff.mpr hd, group?_eq_some_iff.mpr he, group?_eq_some_iff.mpr hf]

theorem not_mem_intercalate {mark c : Char} (hmark : c ≠ mark) {groups : List (List Char)}
    (h : ∀ group ∈ groups, c ∉ group) : c ∉ [mark].intercalate groups := by
  induction groups with
  | nil => simp
  | cons group groups ih =>
      obtain ⟨hgroup, hgroups⟩ := List.forall_mem_cons.mp h
      cases groups with
      | nil => simpa using hgroup
      | cons next groups => simpa [List.intercalate_cons_cons, hmark, hgroup] using ih hgroups

/-- A text with a dash in it has not the dotted form. -/
theorem ofDotted?_eq_none (h : '-' ∈ cs) : ofDotted? cs = none := by
  cases hread : ofDotted? cs with
  | none => rfl
  | some o =>
      obtain ⟨groups, hgroups, rfl⟩ := ofDotted?_eq_some_iff.mp hread
      have hdash := not_mem_of_forall₂ hgroups (c := '-') rfl (by decide)
      exact absurd h (not_mem_intercalate (by decide) hdash)

/-! ## The extended form -/

/-- The text does not go on with a digit. -/
def StopsDigits (rest : List Char) : Prop :=
  ∀ c ∈ rest.head?, c.isDigit = false

theorem stopsDigits_nil : StopsDigits [] := by
  simp [StopsDigits]

theorem stopsDigits_cons {c : Char} (hc : c.isDigit = false) : StopsDigits (c :: rest) := by
  simp [StopsDigits, hc]

theorem stopsDigits_dropWhile (cs : List Char) : StopsDigits (cs.dropWhile Char.isDigit) := by
  intro c hc
  have hhead := List.head?_dropWhile_not Char.isDigit cs
  rw [hc] at hhead
  simpa using hhead

theorem shortGroup?_append {digits : List Char} (h : IsShortGroup digits b)
    (hstops : StopsDigits rest) : shortGroup? (digits ++ rest) = some (b, rest) := by
  have hrest : rest.takeWhile Char.isDigit = [] ∧ rest.dropWhile Char.isDigit = rest := by
    cases rest with
    | nil => simp
    | cons c cs => simp [hstops c rfl]
  have hlength : ¬ 3 < digits.length := by
    have hle := h.length_le
    omega
  have hbyte : byte? digits = some b := byte?_eq_some_iff.mpr h.toIsNumeral
  rw [shortGroup?, List.takeWhile_append_of_pos h.isDigit, List.dropWhile_append_of_pos h.isDigit,
    hrest.1, hrest.2, List.append_nil]
  simp [hlength, hbyte]

theorem shortGroup?_eq_some_iff :
    shortGroup? cs = some (b, rest) ↔
      ∃ digits, cs = digits ++ rest ∧ IsShortGroup digits b ∧ StopsDigits rest := by
  constructor
  · intro h
    simp only [shortGroup?] at h
    split at h
    · cases h
    · rename_i hlength
      simp only [Option.bind_eq_bind, Option.bind_eq_some_iff, byte?_eq_some_iff] at h
      obtain ⟨_, hnumeral, hrest⟩ := h
      cases hrest
      exact ⟨_, List.takeWhile_append_dropWhile.symm, ⟨hnumeral, by omega⟩,
        stopsDigits_dropWhile cs⟩
  · intro h
    obtain ⟨digits, rfl, hgroup, hstops⟩ := h
    exact shortGroup?_append hgroup hstops

theorem markedGroup?_cons {mark : Char} {digits : List Char} (h : IsShortGroup digits b)
    (hstops : StopsDigits rest) :
    markedGroup? mark (mark :: (digits ++ rest)) = some (b, rest) := by
  simp [markedGroup?, shortGroup?_append h hstops]

theorem markedGroup?_eq_some_iff {mark : Char} :
    markedGroup? mark cs = some (b, rest) ↔
      ∃ digits, cs = mark :: (digits ++ rest) ∧ IsShortGroup digits b ∧ StopsDigits rest := by
  cases cs with
  | nil => simp [markedGroup?]
  | cons c cs =>
      by_cases hc : c = mark
      · simp [markedGroup?, hc, shortGroup?_eq_some_iff]
      · simp [markedGroup?, hc]

theorem lastGroup?_eq_some_iff :
    lastGroup? cs = some b ↔ (cs = [] ∧ b = 255) ∨
      ∃ mark digits, (mark = '.' ∨ mark = '*') ∧ cs = mark :: digits ∧ IsShortGroup digits b := by
  constructor
  · intro h
    cases cs with
    | nil => exact .inl ⟨rfl, (Option.some.inj h).symm⟩
    | cons c cs =>
        simp only [lastGroup?] at h
        split at h
        · rename_i hmark
          split at h
          · rename_i hread
            obtain ⟨digits, rfl, hgroup, -⟩ := shortGroup?_eq_some_iff.mp hread
            cases h
            exact .inr ⟨c, digits, hmark, by simp, hgroup⟩
          · cases h
        · cases h
  · intro h
    obtain ⟨rfl, rfl⟩ | ⟨mark, digits, hmark, rfl, hgroup⟩ := h
    · rfl
    · have hread : shortGroup? digits = some (b, []) :=
        shortGroup?_eq_some_iff.mpr ⟨digits, by simp, hgroup, stopsDigits_nil⟩
      simp [lastGroup?, hmark, hread]

/-- The five groups are read, and what follows them decides about the last one. -/
theorem ofExtended?_append {a b c d e tail : List Char} (ha : IsShortGroup a o.a)
    (hb : IsShortGroup b o.b) (hc : IsShortGroup c o.c) (hd : IsShortGroup d o.d)
    (he : IsShortGroup e o.e) (hstops : StopsDigits tail) (htail : lastGroup? tail = some o.f) :
    ofExtended? (a ++ '-' :: (b ++ ':' :: (c ++ '.' :: (d ++ '.' :: (e ++ tail))))) = some o := by
  have hdash (rest : List Char) : StopsDigits ('-' :: rest) := stopsDigits_cons rfl
  have hcolon (rest : List Char) : StopsDigits (':' :: rest) := stopsDigits_cons rfl
  have hpoint (rest : List Char) : StopsDigits ('.' :: rest) := stopsDigits_cons rfl
  rw [ofExtended?, shortGroup?_append ha (hdash _)]
  simp only [Option.bind_eq_bind, Option.bind_some, markedGroup?_cons hb (hcolon _),
    markedGroup?_cons hc (hpoint _), markedGroup?_cons hd (hpoint _), markedGroup?_cons he hstops,
    htail]
  rfl

theorem isSpelledBy_of_ofExtended? (h : ofExtended? cs = some o) : o.IsSpelledBy cs := by
  simp only [ofExtended?, Option.bind_eq_bind, Option.bind_eq_some_iff, Prod.exists,
    shortGroup?_eq_some_iff, markedGroup?_eq_some_iff, lastGroup?_eq_some_iff] at h
  obtain ⟨_, _, ⟨a, rfl, ha, -⟩, _, _, ⟨b, rfl, hb, -⟩, _, _, ⟨c, rfl, hc, -⟩, _, _,
    ⟨d, rfl, hd, -⟩, _, _, ⟨e, rfl, he, -⟩, _, hlast, ho⟩ := h
  cases ho
  rcases hlast with ⟨rfl, hf⟩ | ⟨mark, f, hmark, rfl, hf⟩
  · simpa using IsSpelledBy.shortened ha hb hc hd he hf
  · exact .extended ha hb hc hd he hf hmark

/-! ## Texts -/

theorem or_eq_some_iff :
    (ofDotted? cs).or (ofExtended? cs) = some o ↔ o.IsSpelledBy cs := by
  constructor
  · intro h
    rcases Option.or_eq_some_iff.mp h with hdotted | ⟨-, hextended⟩
    · obtain ⟨groups, hgroups, rfl⟩ := ofDotted?_eq_some_iff.mp hdotted
      exact .dotted hgroups
    · exact isSpelledBy_of_ofExtended? hextended
  · intro h
    cases h with
    | dotted hgroups =>
        rw [ofDotted?_eq_some_iff.mpr ⟨_, hgroups, rfl⟩]
        rfl
    | @extended a b c d e f mark ha hb hc hd he hf hmark =>
        have hmarkDigit : mark.isDigit = false := by
          rcases hmark with rfl | rfl
          · rfl
          · rfl
        have hlast : lastGroup? (mark :: f) = some o.f :=
          lastGroup?_eq_some_iff.mpr (.inr ⟨mark, f, hmark, rfl, hf⟩)
        rw [ofDotted?_eq_none (by simp), Option.none_or]
        exact ofExtended?_append ha hb hc hd he (stopsDigits_cons hmarkDigit) hlast
    | @shortened a b c d e ha hb hc hd he hf =>
        have hlast : lastGroup? [] = some o.f := lastGroup?_eq_some_iff.mpr (.inl ⟨rfl, hf⟩)
        have hread := ofExtended?_append ha hb hc hd he stopsDigits_nil hlast
        rw [List.append_nil] at hread
        rw [ofDotted?_eq_none (by simp), Option.none_or]
        exact hread

/-- A text is read as the code that it spells, blanks around it apart. -/
theorem ofText_eq_ok_iff {text : String} :
    ofText text = .ok o ↔ o.IsSpelledBy (Blank.trim text.toList) := by
  rw [← or_eq_some_iff, ofText]
  cases (ofDotted? (Blank.trim text.toList)).or (ofExtended? (Blank.trim text.toList)) with
  | none => simp
  | some code => simp

/-- Any other text has a wrong form. -/
theorem ofText_eq_error {text : String}
    (h : ∀ o : ObisCode, ¬ o.IsSpelledBy (Blank.trim text.toList)) :
    ofText text = .error (.format (String.ofList (Blank.trim text.toList))) := by
  simp only [← or_eq_some_iff] at h
  rw [ofText]
  cases hread : (ofDotted? (Blank.trim text.toList)).or
      (ofExtended? (Blank.trim text.toList)) with
  | none => rfl
  | some code => exact absurd hread (h code)

/-! ## Written codes -/

/-- The extended text with a star before the last group, such as `1-0:1.8.0*255`. -/
def starred (o : ObisCode) : String :=
  toString o.a ++ "-" ++ toString o.b ++ ":" ++
    ".".intercalate ([o.c, o.d, o.e].map toString) ++ "*" ++ toString o.f

/-- The extended text without the last group, such as `1-0:1.8.0`. -/
def shortened (o : ObisCode) : String :=
  toString o.a ++ "-" ++ toString o.b ++ ":" ++ ".".intercalate ([o.c, o.d, o.e].map toString)

theorem toList_toString (b : UInt8) : (toString b).toList = Decimal.digits b.toNat :=
  Nat.toList_repr

theorem isShortGroup_digits (b : UInt8) : IsShortGroup (Decimal.digits b.toNat) b where
  ne_nil := Decimal.digits_ne_nil b.toNat
  isDigit _ h := Decimal.isDigit_of_mem_digits h
  value := Decimal.number_digits b.toNat
  length_le := by
    have hb := b.toNat_lt
    exact (Nat.length_toDigits_le_iff (by decide) (by decide)).mpr (by omega)

theorem isSpelledBy_dotted (o : ObisCode) : o.IsSpelledBy o.dotted.toList := by
  have hgroups :
      List.Forall₂ IsDottedGroup (o.bytes.map fun b => Decimal.digits b.toNat) o.bytes := by
    rw [List.forall₂_map_left_iff]
    exact List.forall₂_same.mpr fun b _ => .plain (isShortGroup_digits b).toIsNumeral
  have htext : o.dotted.toList =
      ['.'].intercalate (o.bytes.map fun b => Decimal.digits b.toNat) := by
    simp [dotted, String.toList_intercalate, toList_toString, Function.comp_def]
  rw [htext]
  exact .dotted hgroups

theorem isSpelledBy_extended (o : ObisCode) : o.IsSpelledBy o.extended.toList := by
  have hspelled := IsSpelledBy.extended (isShortGroup_digits o.a) (isShortGroup_digits o.b)
    (isShortGroup_digits o.c) (isShortGroup_digits o.d) (isShortGroup_digits o.e)
    (isShortGroup_digits o.f) (.inl rfl : '.' = '.' ∨ '.' = '*')
  simpa [extended, String.toList_intercalate, toList_toString] using hspelled

theorem isSpelledBy_starred (o : ObisCode) : o.IsSpelledBy o.starred.toList := by
  have hspelled := IsSpelledBy.extended (isShortGroup_digits o.a) (isShortGroup_digits o.b)
    (isShortGroup_digits o.c) (isShortGroup_digits o.d) (isShortGroup_digits o.e)
    (isShortGroup_digits o.f) (.inr rfl : '*' = '.' ∨ '*' = '*')
  simpa [starred, String.toList_intercalate, toList_toString] using hspelled

theorem isSpelledBy_shortened (hf : o.f = 255) : o.IsSpelledBy o.shortened.toList := by
  have hspelled := IsSpelledBy.shortened (isShortGroup_digits o.a) (isShortGroup_digits o.b)
    (isShortGroup_digits o.c) (isShortGroup_digits o.d) (isShortGroup_digits o.e) hf
  simpa [shortened, String.toList_intercalate, toList_toString] using hspelled

/-! ## Blanks around a code -/

theorem IsSpelledBy.ne_nil (h : o.IsSpelledBy cs) : cs ≠ [] := by
  intro hnil
  have hread := or_eq_some_iff.mpr h
  rw [hnil] at hread
  cases hread

/-- No character of a spelling is blank. -/
theorem IsSpelledBy.isBlank_eq_false (h : o.IsSpelledBy cs) :
    ∀ x ∈ cs, Blank.isBlank x = false := by
  intro x hx
  by_contra hblank
  have hdigit : x.isDigit = false := by
    by_contra hdigit
    exact hblank (Blank.isBlank_of_isDigit (by simpa using hdigit))
  have hmark (mark : Char) (hmark : Blank.isBlank mark = false) : x ≠ mark := by
    intro heq
    exact hblank (heq ▸ hmark)
  have hdash := hmark '-' rfl
  have hcolon := hmark ':' rfl
  have hpoint := hmark '.' rfl
  cases h with
  | dotted hgroups =>
      exact not_mem_intercalate hpoint (not_mem_of_forall₂ hgroups hdigit (hmark '+' rfl)) hx
  | @extended _ _ _ _ _ _ mark ha hb hc hd he hf hlast =>
      have hne : x ≠ mark := by
        rcases hlast with rfl | rfl
        · exact hpoint
        · exact hmark '*' rfl
      simp [ha.not_mem hdigit, hb.not_mem hdigit, hc.not_mem hdigit, hd.not_mem hdigit,
        he.not_mem hdigit, hf.not_mem hdigit, hdash, hcolon, hpoint, hne] at hx
  | shortened ha hb hc hd he =>
      simp [ha.not_mem hdigit, hb.not_mem hdigit, hc.not_mem hdigit, hd.not_mem hdigit,
        he.not_mem hdigit, hdash, hcolon, hpoint] at hx

theorem ofText_append {before text after : String} (h : o.IsSpelledBy text.toList)
    (hbefore : ∀ c ∈ before.toList, Blank.isBlank c = true)
    (hafter : ∀ c ∈ after.toList, Blank.isBlank c = true) :
    ofText (before ++ text ++ after) = .ok o := by
  rw [ofText_eq_ok_iff, String.toList_append, String.toList_append, List.append_assoc,
    Blank.trim_append hbefore h.isBlank_eq_false h.ne_nil hafter]
  exact h

/-- A code is read back from each of its texts, whatever blanks are put around it. Any text is read
as a code exactly if it spells the code, blanks around it apart; a text that spells none is invalid
data with a wrong form. -/
theorem ofText_reads_spellings :
    (∀ (o : ObisCode) (before after : String),
      (∀ c ∈ before.toList, Blank.isBlank c = true) →
      (∀ c ∈ after.toList, Blank.isBlank c = true) →
      ofText (before ++ o.dotted ++ after) = .ok o ∧
      ofText (before ++ o.extended ++ after) = .ok o ∧
      ofText (before ++ o.starred ++ after) = .ok o ∧
      (o.f = 255 → ofText (before ++ o.shortened ++ after) = .ok o)) ∧
    ∀ text : String,
      (∀ o, ofText text = .ok o ↔ o.IsSpelledBy (Blank.trim text.toList)) ∧
      ((∀ o : ObisCode, ¬ o.IsSpelledBy (Blank.trim text.toList)) →
        ∃ fault, ofText text = .error fault ∧
          (Failure.invalidData (.obisCode fault)).message =
            "Invalid data: " ++ ("Invalid OBIS code format: " ++
              String.ofList (Blank.trim text.toList))) := by
  constructor
  · intro o before after hbefore hafter
    refine ⟨?_, ?_, ?_, ?_⟩
    · exact ofText_append o.isSpelledBy_dotted hbefore hafter
    · exact ofText_append o.isSpelledBy_extended hbefore hafter
    · exact ofText_append o.isSpelledBy_starred hbefore hafter
    · intro hf
      exact ofText_append (isSpelledBy_shortened hf) hbefore hafter
  · intro text
    exact ⟨fun o => ofText_eq_ok_iff, fun h => ⟨_, ofText_eq_error h, rfl⟩⟩

/-- The register of imported energy between a tabulator and a wide blank, a text with a sign and
leading zeros, and a group that is no byte. -/
theorem ofText_reads_spellings_of_wide_blanks :
    ofText ("\t" ++ shortened ⟨1, 0, 1, 8, 0, 255⟩ ++ "\u2003") = .ok ⟨1, 0, 1, 8, 0, 255⟩ ∧
      ofText " +1.002.3.4.5.6" = .ok ⟨1, 2, 3, 4, 5, 6⟩ ∧
      ∃ fault, ofText "1.2.3.4.5.256" = .error fault := by
  obtain ⟨hwritten, hread⟩ := ofText_reads_spellings
  have hspelled : ObisCode.IsSpelledBy ⟨1, 2, 3, 4, 5, 6⟩ (Blank.trim " +1.002.3.4.5.6".toList) :=
    or_eq_some_iff.mp (by decide)
  have hnone : ∀ o : ObisCode, ¬ o.IsSpelledBy (Blank.trim "1.2.3.4.5.256".toList) := by
    intro o h
    have hread := or_eq_some_iff.mpr h
    cases hread
  obtain ⟨fault, hfault, -⟩ := (hread "1.2.3.4.5.256").2 hnone
  refine ⟨?_, ?_, fault, hfault⟩
  · have htab : ∀ c ∈ "\t".toList, Blank.isBlank c = true := List.forall_mem_singleton.mpr rfl
    have hwide : ∀ c ∈ "\u2003".toList, Blank.isBlank c = true := List.forall_mem_singleton.mpr rfl
    exact (hwritten ⟨1, 0, 1, 8, 0, 255⟩ "\t" "\u2003" htab hwide).2.2.2 rfl
  · exact ((hread " +1.002.3.4.5.6").1 _).mpr hspelled

end HeadEnd.ObisCode
