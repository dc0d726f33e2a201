import HeadEnd.Cosem.Value.Description
import HeadEnd.Proofs.Text.Line

/-! # Lines of descriptions

What a description shows on each of its lines, and how deep the line stands. A value without elements
takes one line; a list with elements takes a line before those of its elements and one after them.
-/

namespace HeadEnd

/-! ## Contents of one line -/

theorem Value.isOneLine_truthText (b : Bool) : IsOneLine (truthText b) := by
  cases b <;> decide

theorem CosemDate.isOneLine_text (d : CosemDate) : IsOneLine d.text := by
  unfold CosemDate.text
  split <;> simp +decide

theorem ObisCode.isOneLine_extended (o : ObisCode) : IsOneLine o.extended := by
  simp +decide [ObisCode.extended]

namespace CosemDateTime

theorem isOneLine_deviationText (t : CosemDateTime) : IsOneLine t.deviationText := by
  unfold deviationText
  split
  · exact isOneLine_intRepr _
  · decide

theorem isOneLine_fieldsText (t : CosemDateTime) : IsOneLine t.fieldsText := by
  simp +decide [fieldsText, Value.isOneLine_truthText, isOneLine_deviationText]

end CosemDateTime

namespace Binary

theorem Decimal.isOneLine_text (d : Decimal) : IsOneLine d.text := by
  have hfilled (places n : Nat) : '\n' ∉ List.replicate places '0' ++ HeadEnd.Decimal.digits n := by
    simp [not_mem_digits]
  unfold Decimal.text
  dsimp only
  split
  · simp [not_mem_digits]
  · rw [isOneLine_ofList, List.mem_append, List.mem_cons]
    rintro (htaken | hpoint | hdropped)
    · exact hfilled _ _ (List.mem_of_mem_take htaken)
    · cases hpoint
    · exact hfilled _ _ (List.mem_of_mem_drop hdropped)

theorem Format.isOneLine_text (f : Format) (x : Datum) : IsOneLine (f.text x) := by
  unfold Format.text
  split
  · decide
  · split <;> decide
  · dsimp only
    split <;> split <;> simp +decide [Decimal.isOneLine_text]

end Binary

namespace Value

theorem isOneLine_bytesText (bytes : List UInt8) : IsOneLine (bytesText bytes) := by
  have hnumbers : IsOneLine (", ".intercalate (bytes.map toString)) := by
    apply isOneLine_intercalate (by decide)
    intro text htext
    obtain ⟨byte, -, rfl⟩ := List.mem_map.mp htext
    exact isOneLine_uint8 byte
  simp +decide [bytesText, hnumbers]

theorem isOneLine_describeBytes (bytes : List UInt8) : IsOneLine (describeBytes bytes) := by
  unfold describeBytes
  split
  · simp +decide [ObisCode.isOneLine_extended]
  · split
    · exact CosemDateTime.isOneLine_fieldsText _
    · exact isOneLine_bytesText _

theorem isOneLine_describeBits (b : BitString) : IsOneLine (describeBits b) := by
  have hbits : '\n' ∉ b.toList.map fun bit => if bit then '1' else '0' := by
    intro h
    obtain ⟨bit, -, hbit⟩ := List.mem_map.mp h
    cases bit <;> cases hbit
  unfold describeBits
  generalize magnitude b.bytes = value
  simp +decide [BitString.binaryText, hbits]

theorem isOneLine_describeContent? {value : Value} {content : String}
    (h : value.describeContent? = some content) (helements : value.elements? = none) :
    IsOneLine content := by
  cases value with
  | null => cases h
  | array _ | tuple _ => cases helements
  | boolean b => exact Option.some.inj h ▸ isOneLine_truthText b
  | octets bytes | visible bytes | utf8 bytes =>
      exact Option.some.inj h ▸ isOneLine_describeBytes bytes
  | bits b => exact Option.some.inj h ▸ isOneLine_describeBits b
  | date d => exact Option.some.inj h ▸ d.isOneLine_text
  | dateTime t => exact Option.some.inj h ▸ t.isOneLine_fieldsText
  | float32 x => exact Option.some.inj h ▸ Binary.single.isOneLine_text x.datum
  | float64 x => exact Option.some.inj h ▸ Binary.double.isOneLine_text x.datum
  | uint64 n => exact Option.some.inj h ▸ isOneLine_repr n.toNat
  | _ => exact Option.some.inj h ▸ isOneLine_intRepr _

theorem isOneLine_typeName (type : ValueType) : IsOneLine type.name := by
  cases type <;> decide

/-! ## Layout -/

/-- A line of a description: how deep it stands and what it shows. -/
structure Line where
  depth : Nat
  content : String

def Line.text (line : Line) : String :=
  indent line.depth ++ line.content

/-- The lines of a list around those of its elements. A list without elements takes one line. -/
def listLines (type : ValueType) (depth count : Nat) (inner : List Line) : List Line :=
  let opening := type.name ++ " (" ++ toString count ++ " elements) ["
  if count = 0 then [⟨depth, opening ++ "]"⟩]
  else ⟨depth, opening⟩ :: inner ++ [⟨depth, "]"⟩]

mutual

def linesAt (depth : Nat) : Value → List Line
  | array elements => listLines .array depth elements.length (linesEach (depth + 1) elements)
  | tuple elements => listLines .tuple depth elements.length (linesEach (depth + 1) elements)
  | value => [⟨depth, describeAt depth value⟩]

def linesEach (depth : Nat) : List Value → List Line
  | [] => []
  | value :: rest => linesAt depth value ++ linesEach depth rest

end

theorem isOneLine_indent (depth : Nat) : IsOneLine (indent depth) := by
  simp [indent]

theorem isOneLine_describeAt (depth : Nat) {value : Value} (h : value.elements? = none) :
    IsOneLine (value.describeAt depth) := by
  have hname := isOneLine_typeName value.type
  have hplain : value.describeAt depth =
      value.describeContent?.elim value.type.name (value.type.name ++ ": " ++ ·) := by
    cases value with
    | array _ | tuple _ => cases h
    | _ => rfl
  rw [hplain]
  cases hcontent : value.describeContent? with
  | none => exact hname
  | some content => simp +decide [hname, isOneLine_describeContent? hcontent h]

theorem length_describeEach (depth : Nat) (values : List Value) :
    (describeEach depth values).length = values.length := by
  induction values with
  | nil => rfl
  | cons value rest ih => simp [describeEach, ih]

/-- The line feeds before the elements of a list are those after the lines before them. -/
theorem join_elements_append (elements : List String) (depth : Nat) (after : String) :
    String.join (elements.map fun element => "\n" ++ indent depth ++ element) ++ ("\n" ++ after) =
      "\n" ++ (String.join (elements.map fun element => indent depth ++ element ++ "\n") ++
        after) := by
  have hshift := join_map_newline (elements.map (indent depth ++ ·))
  simp only [List.map_map, Function.comp_def] at hshift
  simp only [String.append_assoc] at hshift ⊢
  rw [← String.append_assoc, hshift, String.append_assoc]

theorem isLinesOf_describeList {type : ValueType} {depth : Nat} {elements : List String}
    {inner : List Line}
    (hinner : IsLinesOf (inner.map Line.text)
      (String.join (elements.map fun element => indent (depth + 1) ++ element ++ "\n"))) :
    IsLinesOf ((listLines type depth elements.length inner).map Line.text)
      (indent depth ++ describeList type depth elements ++ "\n") := by
  have hopening : IsOneLine
      (indent depth ++ (type.name ++ " (" ++ toString elements.length ++ " elements) [")) := by
    simp +decide [isOneLine_indent, isOneLine_typeName]
  have hclosing : IsOneLine (indent depth ++ "]") := by
    simp +decide [isOneLine_indent]
  by_cases hempty : elements = []
  · have hline := isOneLine_append.mpr ⟨hopening, show IsOneLine "]" by decide⟩
    subst hempty
    simpa [listLines, describeList, Line.text, String.append_assoc] using IsLinesOf.single hline
  · have hcount : elements.length ≠ 0 := by simpa using hempty
    have hshift := join_elements_append elements (depth + 1) (indent depth ++ "]" ++ "\n")
    have hlines := IsLinesOf.cons hopening (hinner.append (.single hclosing))
    rw [listLines, if_neg hcount, describeList, if_neg (by simpa using hempty)]
    simp only [String.append_assoc] at hshift hlines ⊢
    rw [hshift]
    simpa only [List.map_cons, List.map_append, List.map_nil, List.cons_append, Line.text] using hlines

mutual

theorem isLinesOf_describeAt (depth : Nat) : ∀ value : Value,
    IsLinesOf ((linesAt depth value).map Line.text) (indent depth ++ value.describeAt depth ++ "\n")
  | .array elements => by
      rw [linesAt, describeAt, ← length_describeEach (depth + 1)]
      exact isLinesOf_describeList (isLinesOf_describeEach (depth + 1) elements)
  | .tuple elements => by
      rw [linesAt, describeAt, ← length_describeEach (depth + 1)]
      exact isLinesOf_describeList (isLinesOf_describeEach (depth + 1) elements)
  | .null | .boolean _ | .int8 _ | .int16 _ | .int32 _ | .int64 _ | .uint8 _ | .uint16 _
  | .uint32 _ | .uint64 _ | .float32 _ | .float64 _ | .enumerate _ | .bcd _ | .octets _
  | .visible _ | .utf8 _ | .bits _ | .date _ | .dateTime _ =>
      .single (isOneLine_append.mpr ⟨isOneLine_indent depth, isOneLine_describeAt depth rfl⟩)

theorem isLinesOf_describeEach (depth : Nat) : ∀ values : List Value,
    IsLinesOf ((linesEach depth values).map Line.text)
      (String.join ((describeEach depth values).map fun element => indent depth ++ element ++ "\n"))
  | [] => .nil
  | value :: rest => by
      rw [linesEach, describeEach, List.map_append, List.map_cons, String.join_cons]
      exact (isLinesOf_describeAt depth value).append (isLinesOf_describeEach depth rest)

end

theorem linesAt_ne_nil (depth : Nat) (value : Value) : linesAt depth value ≠ [] := by
  have hlist (type : ValueType) (count : Nat) (inner : List Line) :
      listLines type depth count inner ≠ [] := by
    unfold listLines
    split <;> simp
  cases value with
  | array elements | tuple elements =>
      rw [linesAt]
      exact hlist _ _ _
  | _ => exact List.cons_ne_nil _ _

/-- One line is enough for a value without elements, and for no other. -/
theorem length_linesAt_eq_one_iff {depth : Nat} {value : Value} :
    (linesAt depth value).length = 1 ↔ value.elements?.getD [] = [] := by
  have hlist (type : ValueType) (elements : List Value) (inner : List Line) :
      (listLines type depth elements.length inner).length = 1 ↔ elements = [] := by
    by_cases hempty : elements = []
    · simp [listLines, hempty]
    · simp [listLines, hempty]
  cases value with
  | array elements | tuple elements =>
      rw [linesAt]
      exact hlist _ _ _
  | _ => exact iff_of_true rfl rfl

/-- The lines of a description. -/
theorem isLinesOf_describe (value : Value) :
    IsLinesOf ((linesAt 0 value).map Line.text) (value.describe ++ "\n") := by
  have hlines := isLinesOf_describeAt 0 value
  have hindent : indent 0 = "" := rfl
  rw [hindent, String.empty_append] at hlines
  exact hlines

end Value

end HeadEnd
