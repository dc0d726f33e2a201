/-! # Documents

The tree in which data are stored and exchanged: texts, integers and truth values in lists and
records. A record keeps the order of its fields.
-/

namespace HeadEnd

inductive Document where
  | null
  | boolean (b : Bool)
  | integer (n : Int)
  /-- A number that is no integer; nothing that is stored here has one. -/
  | fraction
  | text (s : String)
  | list (items : List Document)
  | record (fields : List (String × Document))
  deriving Inhabited

namespace Document

/-- The first field with a name. -/
def field? (fields : List (String × Document)) (name : String) : Option Document :=
  (fields.find? fun field => field.1 == name).map Prod.snd

/-- The fields with the given names, each of which may be missing. A list stands for a record if it
has one item for each name, in the same order. -/
def fieldsOf? (names : List String) : Document → Option (List (Option Document))
  | record fields => some (names.map (field? fields))
  | list items => if items.length = names.length then some (items.map some) else none
  | _ => none

theorem length_of_fieldsOf? {names : List String} {document : Document}
    {fields : List (Option Document)} (h : fieldsOf? names document = some fields) :
    fields.length = names.length := by
  cases document with
  | record entries =>
    simp only [fieldsOf?, Option.some.injEq] at h
    simp [← h]
  | list items =>
    simp only [fieldsOf?] at h
    split at h
    · next hlength =>
      simp only [Option.some.injEq] at h
      simp [← h, hlength]
    · contradiction
  | _ => simp [fieldsOf?] at h

/-- The fields with the given names, as many as there are names. -/
def fields? (names : List String) (document : Document) :
    Option { fields : List (Option Document) // fields.length = names.length } :=
  match h : fieldsOf? names document with
  | some fields => some ⟨fields, length_of_fieldsOf? h⟩
  | none => none

end Document

end HeadEnd
