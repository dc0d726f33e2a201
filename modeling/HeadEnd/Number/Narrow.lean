/-! # Narrowing integers

A signed 64-bit integer as a narrower one, when the narrower type has it.
-/

namespace HeadEnd

/-- A type of integers that some 64-bit integers belong to. -/
class Narrow (α : Type) where
  /-- The member that is equal to the integer. -/
  narrow? : Int64 → Option α

instance : Narrow Int8 where
  narrow? n := if -128 ≤ n.toInt ∧ n.toInt ≤ 127 then some (Int8.ofInt n.toInt) else none

instance : Narrow UInt8 where
  narrow? n := if 0 ≤ n.toInt ∧ n.toInt < 256 then some (UInt8.ofNat n.toInt.toNat) else none

instance : Narrow UInt16 where
  narrow? n := if 0 ≤ n.toInt ∧ n.toInt < 65536 then some (UInt16.ofNat n.toInt.toNat) else none

instance : Narrow UInt32 where
  narrow? n :=
    if 0 ≤ n.toInt ∧ n.toInt < 4294967296 then some (UInt32.ofNat n.toInt.toNat) else none

end HeadEnd
