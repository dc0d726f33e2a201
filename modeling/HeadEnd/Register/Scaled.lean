import HeadEnd.Cosem.Value.Reading
import HeadEnd.Register.Unit

/-! # Scaled values

A register holds an integer and, beside it, a scaler and a unit: the value is the integer times ten
to the power of the scaler. The decimal stays exact until it is converted.
-/

namespace HeadEnd

/-- The decimal `raw * 10 ^ scaler`. -/
structure ScaledValue where
  raw : Int64
  scaler : Int8
  deriving DecidableEq

namespace ScaledValue

/-- The digits of a decimal without its sign: the point stands `places` digits before the end. -/
def unsignedText (digits : List Char) (places : Nat) : List Char :=
  let filled := List.replicate (places + 1 - digits.length) '0' ++ digits
  filled.take (filled.length - places) ++ '.' :: filled.drop (filled.length - places)

/-- The decimal, exactly: a point only for a negative scaler. -/
def text (x : ScaledValue) : String :=
  let digits := Decimal.digits x.raw.toInt.natAbs
  let places := x.scaler.toInt.natAbs
  (if x.raw.toInt < 0 then "-" else "") ++
    String.ofList
      (if x.scaler.toInt < 0 then unsignedText digits places
      else digits ++ List.replicate places '0')

/-- The decimal as a binary number: the integer, rounded, times or divided by the power of ten, and
rounded again. -/
def toDouble (x : ScaledValue) : Double :=
  let power := Double.ofInt (Nat.pow 10 x.scaler.toInt.natAbs)
  let raw := Double.ofInt x.raw.toInt
  if x.scaler.toInt < 0 then raw.div power else raw.mul power

end ScaledValue

/-- The scaler and the unit of a register. -/
structure ScalerUnit where
  scaler : Int8
  unit : MeasureUnit
  deriving DecidableEq

/-- A decimal with its unit. -/
structure MeterValue where
  value : ScaledValue
  unit : MeasureUnit
  deriving DecidableEq

def MeterValue.text (x : MeterValue) : String :=
  x.value.text ++ " " ++ x.unit.symbol

def Value.toScalerUnit (value : Value) (context : String) : Outcome ScalerUnit :=
  match value with
  | .tuple [scaler, unit] => do
    let scaler ← scaler.toNarrow context
    let code ← unit.toInteger context
    return ⟨scaler, MeasureUnit.ofCode code⟩
  | value => .error (.unexpected context .scalerAndUnit value)

/-- The value of a register: nothing for the null value, whose scaler and unit are not looked at. -/
def Value.toMeterValue? (value scalerUnit : Value) (context : String) :
    Outcome (Option MeterValue) := do
  match ← value.toInteger? context with
  | none => return none
  | some raw =>
    let scalerUnit ← scalerUnit.toScalerUnit context
    return some ⟨⟨raw, scalerUnit.scaler⟩, scalerUnit.unit⟩

end HeadEnd
