/-! # Quoted characters

A single character between apostrophes, as diagnostics show it. Characters that cannot be printed
are written by their number.
-/

namespace HeadEnd.Escaped

/-- Characters of the first 256 that show nothing of their own when printed: the control
characters, the no-break space and the soft hyphen. -/
def isInvisible (c : Char) : Bool :=
  let n := c.toNat
  n < 0x20 || (0x7F ≤ n && n ≤ 0xA0) || n == 0xAD

/-- The hexadecimal numeral of `n`, in lower case. -/
def hexNumeral (n : Nat) : String :=
  String.ofList (Nat.toDigits 16 n)

/-- The character with escapes for the apostrophe, the backslash and invisible characters. The rule
covers the characters below 256. -/
def body (c : Char) : String :=
  match c.toNat with
  | 0 => "\\0"
  | 9 => "\\t"
  | 10 => "\\n"
  | 13 => "\\r"
  | 39 => "\\'"
  | 92 => "\\\\"
  | n => if isInvisible c then "\\u\x7b" ++ hexNumeral n ++ "\x7d" else c.toString

def quoted (c : Char) : String :=
  "'" ++ body c ++ "'"

end HeadEnd.Escaped
