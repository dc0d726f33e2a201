import HeadEnd.Proofs.Positional.Basic
import Mathlib.Data.List.FinRange

/-! # Descriptions by position

Describing a value picks bytes by their position: those of logical names and date-times, and those
that hold the bits of a bit string. A failure that shows a value describes it. No description breaks
off, whatever the value.
-/

namespace HeadEnd

theorem CosemDateTime.decode_of_length_ne {bytes : List UInt8} (h : bytes.length ≠ 12) :
    decode bytes = .error (.length bytes.length) := by
  unfold decode
  split
  · exact absurd rfl h
  · rfl

namespace Breakable

/-! ## Bit strings -/

/-- The bit at any position, picked from the byte that holds it. -/
def getBit (b : BitString) (index : Nat) : Breakable Outcome (Except BitString.Fault Bool) :=
  if b.size ≤ index then return .error (.outOfBounds index b.size)
  else do
    let place ← difference 7 (index % 8 : Nat)
    let byte ← elementAt b.bytes (index / 8)
    return .ok (byte.toNat.testBit place)

theorem getBit_eq (b : BitString) (index : Nat) : getBit b index = pure (b.get index) := by
  unfold getBit BitString.get
  by_cases h : index < b.size
  · have hbyte : index / 8 < b.bytes.length := by
      have := b.size_le
      omega
    have hplace : ((index % 8 : Nat) : Int) ≤ 7 := by omega
    have htoNat : ((7 : Int) - (index % 8 : Nat)).toNat = 7 - index % 8 := by omega
    rw [if_neg (Nat.not_le.mpr h), dif_pos h, difference_of_le hplace,
      elementAt_of_getElem? (List.getElem?_eq_getElem hbyte), htoNat]
    rfl
  · rw [if_pos (Nat.not_lt.mp h), dif_neg h]

def bitDigit : Except BitString.Fault Bool → Char
  | .ok true => '1'
  | _ => '0'

def binaryText (b : BitString) : Breakable Outcome String := do
  let digits ← (List.range b.size).mapM fun index => return bitDigit (← getBit b index)
  return String.ofList digits

theorem binaryText_eq (b : BitString) : binaryText b = pure b.binaryText := by
  have hdigits : (List.range b.size).map (fun index => bitDigit (b.get index)) =
      b.toList.map fun bit => if bit then '1' else '0' := by
    rw [BitString.toList, List.map_map, ← List.map_coe_finRange_eq_range, List.map_map]
    refine List.map_congr_left fun index _ => ?_
    simp only [Function.comp_apply, BitString.get, index.isLt, dite_true]
    cases b.bit index with
    | false => rfl
    | true => rfl
  simp only [binaryText, getBit_eq, pure_bind, List.mapM_pure, hdigits, BitString.binaryText]

/-! ## Byte strings -/

def decodeDateTime (bytes : List UInt8) :
    Breakable Outcome (Except CosemDateTime.Fault CosemDateTime) :=
  if bytes.length ≠ 12 then return .error (.length bytes.length)
  else do
    let t : CosemDateTime :=
      { year := ofBigEndian16 (← elementAt bytes 0) (← elementAt bytes 1)
        month := ← elementAt bytes 2
        day := ← elementAt bytes 3
        weekday := ← elementAt bytes 4
        hour := ← elementAt bytes 5
        minute := ← elementAt bytes 6
        second := ← elementAt bytes 7
        hundredths := ← elementAt bytes 8
        deviation := (ofBigEndian16 (← elementAt bytes 9) (← elementAt bytes 10)).toInt16
        status := ← elementAt bytes 11 }
    return t.checked

theorem decodeDateTime_eq (bytes : List UInt8) :
    decodeDateTime bytes = pure (CosemDateTime.decode bytes) := by
  unfold decodeDateTime
  by_cases h : bytes.length = 12
  · match bytes, h with
    | [_, _, _, _, _, _, _, _, _, _, _, _], _ => rfl
  · rw [if_pos h, CosemDateTime.decode_of_length_ne h]

def describeBytes (bytes : List UInt8) : Breakable Outcome String :=
  if bytes.length = 6 then do
    let name : ObisCode :=
      { a := ← elementAt bytes 0
        b := ← elementAt bytes 1
        c := ← elementAt bytes 2
        d := ← elementAt bytes 3
        e := ← elementAt bytes 4
        f := ← elementAt bytes 5 }
    return "logical name: " ++ name.extended
  else if bytes.length = 12 then do
    match ← decodeDateTime bytes with
    | .ok t => return t.fieldsText
    | .error _ => return Value.bytesText bytes
  else return Value.bytesText bytes

theorem describeBytes_eq (bytes : List UInt8) :
    describeBytes bytes = pure (Value.describeBytes bytes) := by
  unfold describeBytes
  by_cases hname : bytes.length = 6
  · match bytes, hname with
    | [_, _, _, _, _, _], _ => rfl
  · have hbytes : Value.describeBytes bytes = match CosemDateTime.decode bytes with
        | .ok t => t.fieldsText
        | .error _ => Value.bytesText bytes := by
      unfold Value.describeBytes
      split
      · exact absurd rfl hname
      · rfl
    rw [if_neg hname, hbytes]
    by_cases htime : bytes.length = 12
    · rw [if_pos htime, decodeDateTime_eq, pure_bind]
      cases CosemDateTime.decode bytes with
      | ok t => rfl
      | error fault => rfl
    · rw [if_neg htime, CosemDateTime.decode_of_length_ne htime]

/-! ## Values -/

def describeContent? : Value → Breakable Outcome (Option String)
  | .octets bytes => some <$> describeBytes bytes
  | .visible bytes => some <$> describeBytes bytes
  | .utf8 bytes => some <$> describeBytes bytes
  | .bits b => do
    return some ("number of bytes=" ++ toString b.bytes.length ++ ", value=" ++
      toString (Value.magnitude b.bytes) ++ ", bits=" ++ (← binaryText b))
  | value => return value.describeContent?

theorem describeContent?_eq (value : Value) :
    describeContent? value = pure value.describeContent? := by
  cases value with
  | octets bytes => exact congrArg (some <$> ·) (describeBytes_eq bytes)
  | visible bytes => exact congrArg (some <$> ·) (describeBytes_eq bytes)
  | utf8 bytes => exact congrArg (some <$> ·) (describeBytes_eq bytes)
  | bits b => simp only [describeContent?, binaryText_eq, pure_bind]; rfl
  | _ => rfl

def describePlain (value : Value) : Breakable Outcome String := do
  match ← describeContent? value with
  | some content => return value.type.name ++ ": " ++ content
  | none => return value.type.name

theorem describePlain_eq (value : Value) :
    describePlain value = pure (match value.describeContent? with
      | some content => value.type.name ++ ": " ++ content
      | none => value.type.name) := by
  rw [describePlain, describeContent?_eq, pure_bind]
  cases value.describeContent? with
  | some content => rfl
  | none => rfl

mutual

def describeAt (depth : Nat) : Value → Breakable Outcome String
  | .array elements => Value.describeList .array depth <$> describeEach (depth + 1) elements
  | .tuple elements => Value.describeList .tuple depth <$> describeEach (depth + 1) elements
  | value => describePlain value

def describeEach (depth : Nat) : List Value → Breakable Outcome (List String)
  | [] => return []
  | value :: rest => do return (← describeAt depth value) :: (← describeEach depth rest)

end

mutual

theorem describeAt_eq (depth : Nat) :
    ∀ value : Value, describeAt depth value = pure (value.describeAt depth)
  | .array elements => by
      rw [describeAt, describeEach_eq (depth + 1) elements, map_pure, Value.describeAt]
  | .tuple elements => by
      rw [describeAt, describeEach_eq (depth + 1) elements, map_pure, Value.describeAt]
  | .null | .boolean _ | .int8 _ | .int16 _ | .int32 _ | .int64 _ | .uint8 _ | .uint16 _
  | .uint32 _ | .uint64 _ | .float32 _ | .float64 _ | .enumerate _ | .bcd _ | .octets _
  | .visible _ | .utf8 _ | .bits _ | .date _ | .dateTime _ => describePlain_eq _

theorem describeEach_eq (depth : Nat) :
    ∀ values : List Value, describeEach depth values = pure (Value.describeEach depth values)
  | [] => rfl
  | value :: rest => by
      rw [describeEach, describeAt_eq depth value, describeEach_eq depth rest]
      rfl

end

def describe (value : Value) : Breakable Outcome String :=
  describeAt 0 value

theorem describe_eq (value : Value) : describe value = pure value.describe :=
  describeAt_eq 0 value

/-! ## Failures -/

/-- The value that a failure shows. -/
def shownIn? : Failure → Option Value
  | .decode _ (.unexpected _ value) => some value
  | .decode _ (.noInstant value) => some value
  | _ => none

variable {α : Type}

/-- Fails, once the value that the failure shows has been described. -/
def fail (failure : Failure) : Breakable Outcome α := do
  if let some value := shownIn? failure then
    let _ ← describe value
  intact (.error failure)

def reading (outcome : Outcome α) : Breakable Outcome α :=
  match outcome with
  | .ok a => pure a
  | .error failure => fail failure

@[simp] theorem fail_eq (failure : Failure) :
    fail failure = (intact (.error failure) : Breakable Outcome α) := by
  unfold fail
  cases shownIn? failure with
  | some value => simp only [describe_eq, pure_bind]
  | none => rfl

@[simp] theorem reading_eq (outcome : Outcome α) : reading outcome = intact outcome := by
  cases outcome with
  | ok a => rfl
  | error failure => exact fail_eq failure

end Breakable

end HeadEnd
