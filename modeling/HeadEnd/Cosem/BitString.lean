/-! # Bit strings

Bits packed into bytes, the first bit being the most significant bit of the first byte. The last
bytes may hold bits that do not belong to the string.
-/

namespace HeadEnd

/-- A string of `size` bits held in `bytes`. -/
structure BitString where
  bytes : List UInt8
  size : Nat
  size_le : size ≤ 8 * bytes.length

namespace BitString

/-- Why bytes do not make a bit string, or a bit cannot be told. -/
inductive Fault where
  /-- The bytes do not hold that many bits. -/
  | tooShort (size : Nat)
  /-- The string of `size` bits has none at `index`. -/
  | outOfBounds (index size : Nat)
  deriving DecidableEq

def Fault.message : Fault → String
  | .tooShort size =>
    "bit_string is too short to hold all bits. Need " ++ toString ((size + 7) / 8) ++
      " bytes for " ++ toString size ++ " bits"
  | .outOfBounds index size =>
    "Bit index " ++ toString index ++ " out of bounds (num_bits: " ++ toString size ++ ")"

/-- The first `size` bits of `bytes`. -/
def ofBytes (bytes : List UInt8) (size : Nat) : Except Fault BitString :=
  if h : size ≤ 8 * bytes.length then .ok ⟨bytes, size, h⟩ else .error (.tooShort size)

def bit (b : BitString) (index : Fin b.size) : Bool :=
  have h : index.val / 8 < b.bytes.length := by
    have := b.size_le
    have := index.isLt
    omega
  b.bytes[index.val / 8].toNat.testBit (7 - index.val % 8)

def get (b : BitString) (index : Nat) : Except Fault Bool :=
  if h : index < b.size then .ok (b.bit ⟨index, h⟩) else .error (.outOfBounds index b.size)

def toList (b : BitString) : List Bool :=
  (List.finRange b.size).map b.bit

/-- The positions of the bits that are set. -/
def setBits (b : BitString) : List Nat :=
  ((List.finRange b.size).filter fun i => b.bit i).map Fin.val

/-- The bits as the digits 0 and 1. -/
def binaryText (b : BitString) : String :=
  String.ofList (b.toList.map fun bit => if bit then '1' else '0')

/-! ## Packing -/

/-- The byte that begins with the given bits; bits that are missing are zero. -/
def packByte (bits : List Bool) : UInt8 :=
  UInt8.ofNat
    ((bits.take 8 ++ List.replicate (8 - bits.length) false).foldl (fun n b => 2 * n + b.toNat) 0)

/-- The bytes that begin with the given bits. -/
def pack : List Bool → List UInt8
  | [] => []
  | first :: rest => packByte (first :: rest.take 7) :: pack (rest.drop 7)
termination_by bits => bits.length
decreasing_by
  simp only [List.length_drop, List.length_cons]
  omega

theorem length_le_pack (bits : List Bool) : bits.length ≤ 8 * (pack bits).length := by
  fun_induction pack bits with
  | case1 => simp
  | case2 first rest ih =>
    simp only [List.length_drop, List.length_cons] at ih ⊢
    omega

def ofList (bits : List Bool) : BitString :=
  ⟨pack bits, bits.length, length_le_pack bits⟩

theorem length_toList (b : BitString) : b.toList.length = b.size := by
  simp [toList]

end BitString

end HeadEnd
