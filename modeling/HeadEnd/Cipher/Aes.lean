import HeadEnd.Cipher.Block

/-! # AES-128

The block cipher with keys of sixteen bytes. Bytes are elements of the field of 256 elements whose
modulus is `x^8 + x^4 + x^3 + x + 1`; the substitution of bytes is computed from the inverse in
that field.
-/

namespace HeadEnd.Cipher.Aes

/-! ## The field of bytes -/

/-- The product with `x`. -/
def double (a : UInt8) : UInt8 :=
  if a.toNat < 128 then a <<< 1 else (a <<< 1) ^^^ 0x1B

/-- The sum of the products with the powers of `x` that the bits of `b` select, from the last of
`count` bits on. -/
def mulBits (a b : UInt8) : Nat → UInt8
  | 0 => 0
  | count + 1 =>
    (if b.toNat.testBit (7 - count) then a else 0) ^^^ mulBits (double a) b count

def mul (a b : UInt8) : UInt8 :=
  mulBits a b 8

def pow (a : UInt8) : Nat → UInt8
  | 0 => 1
  | n + 1 => mul a (pow a n)

/-- The inverse in the field, and zero for zero. -/
def inverse (a : UInt8) : UInt8 :=
  pow a 254

/-- A byte turned left by `n` bits. -/
def rotate (a : UInt8) (n : Nat) : UInt8 :=
  UInt8.ofNat (a.toNat <<< n ||| a.toNat >>> (8 - n))

/-! ## Substitution of bytes -/

/-- The affine map after the inverse. -/
def affine (a : UInt8) : UInt8 :=
  a ^^^ rotate a 1 ^^^ rotate a 2 ^^^ rotate a 3 ^^^ rotate a 4 ^^^ 0x63

/-- The affine map that undoes `affine`. -/
def affineInverse (a : UInt8) : UInt8 :=
  rotate a 1 ^^^ rotate a 3 ^^^ rotate a 6 ^^^ 0x05

def substitutes : Vector UInt8 256 :=
  Vector.ofFn fun i => affine (inverse (UInt8.ofNat i.val))

def preimages : Vector UInt8 256 :=
  Vector.ofFn fun i => inverse (affineInverse (UInt8.ofNat i.val))

def substitute (a : UInt8) : UInt8 :=
  substitutes.get ⟨a.toNat, UInt8.toNat_lt a⟩

def unsubstitute (a : UInt8) : UInt8 :=
  preimages.get ⟨a.toNat, UInt8.toNat_lt a⟩

/-! ## States -/

/-- The sixteen bytes that the cipher works on, four columns of four. -/
abbrev State := Vector UInt8 16

def State.ofBlock (b : Block) : State :=
  Vector.ofFn fun i : Fin 16 =>
    let word := if i.val < 8 then b.high else b.low
    UInt8.ofNat (word.toNat >>> (8 * (7 - i.val % 8)))

def State.toBlock (s : State) : Block :=
  ⟨wordOfBytes (s.toList.take 8), wordOfBytes (s.toList.drop 8)⟩

def State.add (s t : State) : State :=
  Vector.zipWith (· ^^^ ·) s t

def position (row column : Nat) : Fin 16 :=
  ⟨4 * (column % 4) + row % 4, by omega⟩

/-- Row `r` turned left by `r` columns. -/
def shiftRows (s : State) : State :=
  Vector.ofFn fun i => s[position i.val (i.val / 4 + i.val % 4)]

/-- Row `r` turned right by `r` columns. -/
def unshiftRows (s : State) : State :=
  Vector.ofFn fun i => s[position i.val (i.val / 4 + 4 - i.val % 4)]

/-- Every column multiplied with a circulant matrix whose first row is `a b c d`. -/
def mixWith (a b c d : UInt8) (s : State) : State :=
  Vector.ofFn fun i =>
    let entry (k : Nat) : UInt8 := s[position (i.val + k) (i.val / 4)]
    mul a (entry 0) ^^^ mul b (entry 1) ^^^ mul c (entry 2) ^^^ mul d (entry 3)

def mixColumns : State → State :=
  mixWith 2 3 1 1

def unmixColumns : State → State :=
  mixWith 14 11 13 9

/-! ## Keys -/

/-- The round key after `key`; `constant` is the power of `x` for the round. -/
def nextKey (constant : UInt8) (key : State) : State :=
  let core (row : Nat) : UInt8 :=
    substitute key[position (row + 1) 3] ^^^ (if row = 0 then constant else 0)
  let first (row : Nat) : UInt8 := core row ^^^ key[position row 0]
  let second (row : Nat) : UInt8 := first row ^^^ key[position row 1]
  let third (row : Nat) : UInt8 := second row ^^^ key[position row 2]
  let fourth (row : Nat) : UInt8 := third row ^^^ key[position row 3]
  Vector.ofFn fun i =>
    let row := i.val % 4
    match i.val / 4 with
    | 0 => first row
    | 1 => second row
    | 2 => third row
    | _ => fourth row

/-- The `count` round keys after `key`. -/
def laterKeys (constant : UInt8) (key : State) : Nat → List State
  | 0 => []
  | count + 1 =>
    let next := nextKey constant key
    next :: laterKeys (double constant) next count

/-! ## The cipher -/

/-- A round with its key; the last round does not mix columns. -/
def encryptRounds (s : State) : List State → State
  | [] => s
  | [last] => (shiftRows (s.map substitute)).add last
  | key :: rest => encryptRounds ((mixColumns (shiftRows (s.map substitute))).add key) rest

/-- The rounds of `encryptRounds` undone, the last one first. -/
def decryptRounds (s : State) : List State → State
  | [] => s
  | [last] => (unshiftRows (s.add last)).map unsubstitute
  | key :: rest =>
    (unshiftRows (unmixColumns ((decryptRounds s rest).add key))).map unsubstitute

def cipher (key : Block) : BlockCipher :=
  let first := State.ofBlock key
  let later := laterKeys 1 first 10
  { encrypt := fun b => (encryptRounds ((State.ofBlock b).add first) later).toBlock
    decrypt := fun b => ((decryptRounds (State.ofBlock b) later).add first).toBlock }

end HeadEnd.Cipher.Aes
