import HeadEnd.Number.Binary
import HeadEnd.Text.Decimal

/-! # Shortest decimals

The text of a floating-point number has the fewest digits that read back as the number in its own
format; of several such numerals it is the nearest one. It is always positional, without an
exponent and without a fraction for integers.
-/

namespace HeadEnd.Binary

/-- The reals that round to a positive number: everything between `low / den` and `high / den`,
where `value / den` is the number itself. -/
structure Interval where
  low : Nat
  value : Nat
  high : Nat
  den : Nat
  /-- Whether the ends belong to it; they are ties, which go to an even mantissa. -/
  closed : Bool

/-- The interval around `mantissa * 2 ^ exponent`. Below a power of two the numbers lie twice as
close, except below the least normal number. -/
def Format.interval (f : Format) (mantissa : Nat) (exponent : Int) : Interval :=
  let unit := Nat.pow 2 exponent.toNat
  let below :=
    if mantissa = Nat.pow 2 f.fractionBits ∧ f.leastExponent < exponent then 1 else 2
  { low := (4 * mantissa - below) * unit
    value := 4 * mantissa * unit
    high := (4 * mantissa + 2) * unit
    den := 4 * Nat.pow 2 (-exponent).toNat
    closed := mantissa % 2 = 0 }

/-- A positive decimal `digits * 10 ^ exponent`. -/
structure Decimal where
  digits : Nat
  exponent : Int

def Decimal.num (d : Decimal) : Nat :=
  d.digits * Nat.pow 10 d.exponent.toNat

def Decimal.den (d : Decimal) : Nat :=
  Nat.pow 10 (-d.exponent).toNat

def Interval.contains (i : Interval) (d : Decimal) : Bool :=
  let x := d.num * i.den
  let low := i.low * d.den
  let high := i.high * d.den
  if i.closed then low ≤ x && x ≤ high else low < x && x < high

/-- The two neighbours of the value on the grid of multiples of `10 ^ exponent`. -/
def Interval.neighbours (i : Interval) (exponent : Int) : Decimal × Decimal :=
  let below := i.value * Nat.pow 10 (-exponent).toNat / (i.den * Nat.pow 10 exponent.toNat)
  (⟨below, exponent⟩, ⟨below + 1, exponent⟩)

/-- Whether `d` lies closer to the value than `e`, which lies above the value. -/
def Interval.isCloser (i : Interval) (d e : Decimal) : Bool :=
  i.value * d.den - d.num * i.den < e.num * i.den - i.value * e.den

/-- The nearest decimal of the interval on one grid, if the grid has any. A tie goes up. -/
def Interval.onGrid? (i : Interval) (exponent : Int) : Option Decimal :=
  let (below, above) := i.neighbours exponent
  match i.contains below, i.contains above with
  | true, true => some (if i.isCloser below above then below else above)
  | true, false => some below
  | false, true => some above
  | false, false => none

/-- The exponent of the greatest power of ten that is at most the value. The offset of 400 is
larger than the number of decimal places before the first digit of any number of the formats. -/
def Interval.magnitude (i : Interval) : Int :=
  ((HeadEnd.Decimal.digits (i.value * Nat.pow 10 400 / i.den)).length : Int) - 401

/-- The first grid of at most `count` that meets the interval, from the coarsest on. -/
def Interval.shortestFrom (i : Interval) (exponent : Int) : Nat → Option Decimal
  | 0 => none
  | count + 1 => (i.onGrid? exponent).or (i.shortestFrom (exponent - 1) count)

/-- The shortest decimal of the interval: seventeen digits always suffice. -/
def Interval.shortest (i : Interval) : Decimal :=
  (i.shortestFrom i.magnitude 17).getD ⟨0, 0⟩

/-- The decimal with the zeros at its end moved into the exponent, at most `fuel` of them. -/
def Decimal.strip (d : Decimal) : Nat → Decimal
  | 0 => d
  | fuel + 1 =>
    if d.digits % 10 = 0 && d.digits != 0 then
      Decimal.strip ⟨d.digits / 10, d.exponent + 1⟩ fuel
    else d

def Decimal.text (d : Decimal) : String :=
  let d := d.strip 17
  let cs := HeadEnd.Decimal.digits d.digits
  let places := (-d.exponent).toNat
  if 0 ≤ d.exponent then String.ofList (cs ++ List.replicate d.exponent.toNat '0')
  else
    let filled := List.replicate (places + 1 - cs.length) '0' ++ cs
    String.ofList (filled.take (filled.length - places) ++
      '.' :: filled.drop (filled.length - places))

def Format.text (f : Format) (x : Datum) : String :=
  match x with
  | .nan => "NaN"
  | .infinity negative => if negative then "-inf" else "inf"
  | .finite negative mantissa exponent =>
    let sign := if negative then "-" else ""
    if mantissa = 0 then sign ++ "0" else sign ++ (f.interval mantissa exponent).shortest.text

end HeadEnd.Binary

namespace HeadEnd

/-- The shortest text that reads back as the number in the 32-bit format. -/
def Single.text (x : Single) : String :=
  Binary.single.text x.datum

def Double.text (x : Double) : String :=
  Binary.double.text x.datum

end HeadEnd
