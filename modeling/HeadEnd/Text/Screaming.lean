/-! # Screaming names

A name in capital letters whose words, each begun by a capital, are joined by underscores. Digits
stay with the word before them.
-/

namespace HeadEnd.Screaming

/-- A character after the first: a capital begins a new word. -/
def next (c : Char) : List Char :=
  if c.isUpper then ['_', c] else [c.toUpper]

/-- The screaming form of a name such as `ReadWriteDenied`. -/
def ofName (name : String) : String :=
  match name.toList with
  | [] => ""
  | first :: rest => String.ofList (first.toUpper :: rest.flatMap next)

end HeadEnd.Screaming
