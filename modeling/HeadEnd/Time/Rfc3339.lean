import HeadEnd.Text.Blank
import HeadEnd.Text.Decimal
import HeadEnd.Time.Instant

/-! # RFC 3339 texts

Zoned times as text. Years outside 0000 to 9999 carry a sign. The fraction of a second has 3, 6 or 9
digits, the fewest that are exact, and none for a whole second. The offset is written in minutes,
the nearest ones if it has seconds.

Reading is freer than writing: leading zeros may be missing, blanks may stand between the parts, a
space may divide the date from the time of day, and the zone has some more spellings.
-/

namespace HeadEnd.Rfc3339

open Decimal Calendar

/-! ## Writing -/

/-- The numeral of a year: four digits, or a sign and at least four digits outside 0000 to 9999. -/
def yearText (year : Int) : String :=
  if 0 ≤ year ∧ year ≤ 9999 then numeral 4 year.toNat
  else (if year < 0 then "-" else "+") ++ numeral 4 year.natAbs

def fractionText (nanos : Nat) : String :=
  if nanos = 0 then ""
  else if nanos % 1000000 = 0 then "." ++ numeral 3 (nanos / 1000000)
  else if nanos % 1000 = 0 then "." ++ numeral 6 (nanos / 1000)
  else "." ++ numeral 9 nanos

/-- The offset in hours and minutes. With `zulu` the offset zero is the letter `Z`. -/
def offsetText (zulu : Bool) (offset : Int) : String :=
  if zulu && offset == 0 then "Z"
  else
    let minutes := (offset.natAbs + 30) / 60
    (if offset < 0 then "-" else "+") ++ numeral 2 (minutes / 60) ++ ":" ++
      numeral 2 (minutes % 60)

/-- The date and time of day. A leap second is the second 60 of its minute. -/
def civilText (t : LocalTime) : String :=
  let leap := nanosPerSecond ≤ t.nanos
  let second := if leap then t.second + 1 else t.second
  let nanos := if leap then t.nanos - nanosPerSecond else t.nanos
  yearText t.date.year ++ "-" ++ numeral 2 t.date.month ++ "-" ++ numeral 2 t.date.day ++ "T" ++
    numeral 2 t.hour ++ ":" ++ numeral 2 t.minute ++ ":" ++ numeral 2 second ++ fractionText nanos

/-- The text of a zoned time as records keep it, with `Z` for UTC. -/
def stored (t : ZonedTime) : String :=
  civilText t.civil ++ offsetText true t.offset

/-- The text of a zoned time as descriptions show it, with `+00:00` for UTC. -/
def shown (t : ZonedTime) : String :=
  civilText t.civil ++ offsetText false t.offset

/-! ## Reading -/

def skipBlanks (cs : List Char) : List Char :=
  cs.dropWhile Blank.isBlank

/-- What follows the character `c`. -/
def skip? (c : Char) : List Char → Option (List Char)
  | d :: rest => if d = c then some rest else none
  | [] => none

def spanDigits (cs : List Char) : List Char × List Char :=
  (cs.takeWhile Char.isDigit, cs.dropWhile Char.isDigit)

/-- The number that the digits at the start denote, of which at most `most` are taken, and what
follows them. -/
def takeNumber? (most : Nat) (cs : List Char) : Option (Nat × List Char) :=
  let ds := (spanDigits (cs.take most)).1
  (number? ds).map fun n => (n, cs.drop ds.length)

/-- A year, after blanks: up to four digits, or a sign and any number of digits. -/
def readYear? (cs : List Char) : Option (Int × List Char) :=
  let unsigned (rest : List Char) : Option (Int × List Char) :=
    (number? (spanDigits rest).1).map fun n => ((n : Int), (spanDigits rest).2)
  match skipBlanks cs with
  | '+' :: rest => unsigned rest
  | '-' :: rest => (unsigned rest).map fun (n, rest) => (-n, rest)
  | cs => (takeNumber? 4 cs).map fun (n, rest) => ((n : Int), rest)

/-- A number of one or two digits, after blanks. -/
def readPart? (cs : List Char) : Option (Nat × List Char) :=
  takeNumber? 2 (skipBlanks cs)

/-- A number of one or two digits after a mark; blanks may stand before both. -/
def readMarked? (mark : Char) (cs : List Char) : Option (Nat × List Char) :=
  (skip? mark (skipBlanks cs)).bind readPart?

/-- What follows the character between date and time of day. -/
def skipDivider? : List Char → Option (List Char)
  | 'T' :: rest => some rest
  | 't' :: rest => some rest
  | ' ' :: rest => some rest
  | _ => none

/-- The nanoseconds of a fraction, if there is one. Digits after the ninth have no weight. -/
def readFraction? (cs : List Char) : Option (Nat × List Char) :=
  match cs with
  | '.' :: rest =>
    let ds := (spanDigits rest).1.take 9
    (number? ds).map fun n => (n * Nat.pow 10 (9 - ds.length), (spanDigits rest).2)
  | cs => some (0, cs)

def takePair? (cs : List Char) : Option (Nat × List Char) :=
  if 2 ≤ cs.length then (number? (cs.take 2)).map fun n => (n, cs.drop 2) else none

/-- The seconds of two digits of hours and two of minutes, with colons and blanks between them. -/
def readOffset? (cs : List Char) : Option (Int × List Char) := do
  let (hours, cs) ← takePair? cs
  let (minutes, cs) ← takePair? (cs.dropWhile fun c => c == ':' || Blank.isBlank c)
  if hours < 24 ∧ minutes < 60 then return (((3600 * hours + 60 * minutes : Nat) : Int), cs)
  else none

/-- An offset, after blanks: `Z` or `UTC` in either case of letters, or a sign with hours and
minutes. -/
def readZone? (cs : List Char) : Option (Int × List Char) :=
  match skipBlanks cs with
  | '+' :: rest => readOffset? rest
  | '-' :: rest => (readOffset? rest).map fun (n, rest) => (-n, rest)
  | '\u2212' :: rest => (readOffset? rest).map fun (n, rest) => (-n, rest)
  | cs =>
    if (cs.take 3).map Char.toUpper = ['U', 'T', 'C'] then some (0, cs.drop 3)
    else if (cs.take 1).map Char.toUpper = ['Z'] then some (0, cs.drop 1)
    else none

def read? (text : String) : Option ZonedTime := do
  let (year, cs) ← readYear? text.toList
  let (month, cs) ← readMarked? '-' cs
  let (day, cs) ← readMarked? '-' cs
  let (hour, cs) ← readPart? (← skipDivider? cs)
  let (minute, cs) ← readMarked? ':' cs
  let (second, cs) ← readMarked? ':' cs
  let (nanos, cs) ← readFraction? cs
  let (offset, cs) ← readZone? cs
  let date : CivilDate := ⟨year, month, day⟩
  if skipBlanks cs = [] ∧ Instant.IsCovered date ∧ date.Valid ∧ hour < 24 ∧ minute < 60 ∧
      second ≤ 60 then
    let leap := second = 60
    let time := ZonedTime.ofCivil date hour minute (if leap then 59 else second)
      (if leap then nanos + nanosPerSecond else nanos) offset
    if time.instant.Representable then return time else none
  else none

end HeadEnd.Rfc3339
