/-! # Binary floating-point numbers

The interchange formats of 32 and 64 bits, as sign, mantissa and exponent. Results are rounded
once from their exact value, so nothing here depends on a machine's arithmetic.
-/

namespace HeadEnd.Binary

/-- A binary interchange format. -/
structure Format where
  /-- Bits of the mantissa that are written out. -/
  fractionBits : Nat
  /-- Bits of the exponent field. -/
  exponentBits : Nat

def single : Format := ⟨23, 8⟩

def double : Format := ⟨52, 11⟩

/-- What a bit pattern denotes; a finite number is `mantissa * 2 ^ exponent` with a sign. -/
inductive Datum where
  | nan
  | infinity (negative : Bool)
  | finite (negative : Bool) (mantissa : Nat) (exponent : Int)

namespace Format

/-- The exponent of the least positive number. -/
def leastExponent (f : Format) : Int :=
  2 - (Nat.pow 2 (f.exponentBits - 1) : Int) - f.fractionBits

def infinityBits (f : Format) : Nat :=
  (Nat.pow 2 f.exponentBits - 1) * Nat.pow 2 f.fractionBits

def signBit (f : Format) : Nat :=
  Nat.pow 2 (f.fractionBits + f.exponentBits)

def decode (f : Format) (bits : Nat) : Datum :=
  let fraction := bits % Nat.pow 2 f.fractionBits
  let field := bits / Nat.pow 2 f.fractionBits % Nat.pow 2 f.exponentBits
  let negative := bits / f.signBit % 2 == 1
  if field = Nat.pow 2 f.exponentBits - 1 then
    if fraction = 0 then .infinity negative else .nan
  else if field = 0 then .finite negative fraction f.leastExponent
  else .finite negative (Nat.pow 2 f.fractionBits + fraction) (f.leastExponent + field - 1)

end Format

/-- The integer nearest to `num / den`; a half goes to the even neighbour. -/
def roundHalfEven (num den : Nat) : Nat :=
  let quotient := num / den
  let remainder := num % den
  if 2 * remainder < den then quotient
  else if den < 2 * remainder then quotient + 1
  else quotient + quotient % 2

/-- The exponent of the greatest power of two that is at most `num / den`, both positive. -/
def floorLog2 (num den : Nat) : Int :=
  let guess : Int := (num.log2 : Int) - den.log2
  if num * Nat.pow 2 (-guess).toNat < den * Nat.pow 2 guess.toNat then guess - 1 else guess

/-- The bit pattern nearest to `num / den`: ties go to the even mantissa, and a number above the
greatest finite one becomes infinity. -/
def Format.nearest (f : Format) (num den : Nat) : Nat :=
  if num = 0 then 0
  else
    let exponent := max (floorLog2 num den - f.fractionBits) f.leastExponent
    let mantissa :=
      roundHalfEven (num * Nat.pow 2 (-exponent).toNat) (den * Nat.pow 2 exponent.toNat)
    min ((exponent - f.leastExponent).toNat * Nat.pow 2 f.fractionBits + mantissa) f.infinityBits

end HeadEnd.Binary

namespace HeadEnd

open Binary

/-- A number of the 32-bit format, held as its bits. -/
structure Single where
  bits : UInt32
  deriving DecidableEq

structure Double where
  bits : UInt64
  deriving DecidableEq

def Single.datum (x : Single) : Datum :=
  single.decode x.bits.toNat

def Double.datum (x : Double) : Datum :=
  double.decode x.bits.toNat

namespace Double

/-- The number nearest to `num / den` with the given sign. -/
def ofRatio (negative : Bool) (num den : Nat) : Double :=
  ⟨UInt64.ofNat (double.nearest num den + if negative then double.signBit else 0)⟩

def infinity (negative : Bool) : Double :=
  ⟨UInt64.ofNat (double.infinityBits + if negative then double.signBit else 0)⟩

/-- A pattern that denotes no number. -/
def nan : Double :=
  ⟨UInt64.ofNat (double.infinityBits + Nat.pow 2 (double.fractionBits - 1))⟩

def isNaN (x : Double) : Bool :=
  match x.datum with
  | .nan => true
  | _ => false

/-- The number nearest to an integer. -/
def ofInt (n : Int) : Double :=
  ofRatio (n < 0) n.natAbs 1

/-- The number nearest to `num * 2 ^ exponent / den`. -/
def ofScaledRatio (negative : Bool) (num den : Nat) (exponent : Int) : Double :=
  ofRatio negative (num * Nat.pow 2 exponent.toNat) (den * Nat.pow 2 (-exponent).toNat)

def ofSingle (x : Single) : Double :=
  match x.datum with
  | .nan => nan
  | .infinity negative => infinity negative
  | .finite negative mantissa exponent => ofScaledRatio negative mantissa 1 exponent

/-- The product, rounded once. -/
def mul (x y : Double) : Double :=
  match x.datum, y.datum with
  | .finite s m e, .finite s' m' e' => ofScaledRatio (s != s') (m * m') 1 (e + e')
  | .finite s m _, .infinity s' => if m = 0 then nan else infinity (s != s')
  | .infinity s, .finite s' m _ => if m = 0 then nan else infinity (s != s')
  | .infinity s, .infinity s' => infinity (s != s')
  | _, _ => nan

/-- The quotient by a number other than zero, rounded once. -/
def div (x y : Double) : Double :=
  match x.datum, y.datum with
  | .finite s m e, .finite s' m' e' =>
    if m' = 0 then (if m = 0 then nan else infinity (s != s'))
    else ofScaledRatio (s != s') m m' (e - e')
  | .finite s _ _, .infinity s' => ofRatio (s != s') 0 1
  | .infinity s, .finite s' _ _ => infinity (s != s')
  | _, _ => nan

end Double

end HeadEnd
