import HeadEnd.Cipher.Block
import HeadEnd.Failure.Cause

/-! # Authenticated encryption

The Galois/counter mode of a block cipher, without additional data. Encrypted data consist of the
nonce, the encrypted text and the tag.
-/

namespace HeadEnd.Cipher.Gcm

def nonceSize : Nat := 12

def tagSize : Nat := 16

/-! ## The universal hash -/

/-- The product of `b` with the field element `x`; the first bit of a block is the constant term. -/
def timesX (b : Block) : Block :=
  let carry := if b.high.toNat % 2 = 1 then (1 : UInt64) <<< 63 else 0
  let high := b.high >>> 1
  { high := if b.low.toNat % 2 = 1 then high ^^^ ((0xE1 : UInt64) <<< 56) else high
    low := b.low >>> 1 ||| carry }

/-- The bit of a block at a position counted from its first bit. -/
def coefficient (b : Block) (index : Nat) : Bool :=
  if index < 64 then b.high.toNat.testBit (63 - index) else b.low.toNat.testBit (127 - index)

/-- The sum of the products of `b` with the terms of `a` from `128 - count` on. -/
def productFrom (a b : Block) : Nat → Block
  | 0 => Block.zero
  | count + 1 =>
    (if coefficient a (127 - count) then b else Block.zero).xor (productFrom a (timesX b) count)

/-- The product in the field of blocks. -/
def product (a b : Block) : Block :=
  productFrom a b 128

/-- The block that starts a byte string, filled up with zeros. -/
def leadingBlock (bytes : List UInt8) : Block :=
  let filled := bytes.take 16 ++ List.replicate (16 - bytes.length) 0
  ⟨wordOfBytes (filled.take 8), wordOfBytes (filled.drop 8)⟩

/-- The blocks of a byte string, the last one filled up with zeros. -/
def blocks : List UInt8 → List Block
  | [] => []
  | first :: rest => leadingBlock (first :: rest) :: blocks (rest.drop 15)
termination_by bytes => bytes.length
decreasing_by
  simp only [List.length_drop, List.length_cons]
  omega

/-- The hash of a text under the key `key`, with the length of the text as its last block. -/
def hash (key : Block) (text : List UInt8) : Block :=
  let length : Block := ⟨0, UInt64.ofNat (8 * text.length)⟩
  (blocks text ++ [length]).foldl (fun sum block => product (sum.xor block) key) Block.zero

/-! ## Counter mode -/

def counterStart (nonce : List UInt8) : Block :=
  let start := leadingBlock nonce
  { start with low := start.low ||| 1 }

/-- The next counter; only its last 32 bits count. -/
def nextCounter (b : Block) : Block :=
  let size := Nat.pow 2 32
  { b with low := UInt64.ofNat (b.low.toNat / size * size + (b.low.toNat + 1) % size) }

/-- The text with the encrypted counters from `counter` on added to it. -/
def addKeyStream (c : BlockCipher) (counter : Block) : List UInt8 → List UInt8
  | [] => []
  | first :: rest =>
    List.zipWith (· ^^^ ·) (first :: rest) (c.encrypt counter).bytes ++
      addKeyStream c (nextCounter counter) (rest.drop 15)
termination_by text => text.length
decreasing_by
  simp only [List.length_drop, List.length_cons]
  omega

/-- Encryption and decryption of a text, which are the same. -/
def crypt (c : BlockCipher) (nonce text : List UInt8) : List UInt8 :=
  addKeyStream c (nextCounter (counterStart nonce)) text

def tag (c : BlockCipher) (nonce text : List UInt8) : List UInt8 :=
  ((hash (c.encrypt Block.zero) text).xor (c.encrypt (counterStart nonce))).bytes

/-! ## Sealed data -/

/-- The cipher under a storage key of sixteen bytes. -/
def storageCipher (cipher : Block → BlockCipher) (key : List UInt8) :
    Except SecurityFault BlockCipher :=
  match Block.ofBytes? key with
  | some block => .ok (cipher block)
  | none => .error (.storageKeySize key.length)

/-- The encrypted data of a text: nonce, encrypted text and tag. -/
def encrypt (c : BlockCipher) (nonce text : List UInt8) : List UInt8 :=
  let sealedText := crypt c nonce text
  nonce ++ sealedText ++ tag c nonce sealedText

/-- The text of encrypted data whose tag is theirs. -/
def decrypt (c : BlockCipher) (data : List UInt8) : Except EncryptionFault (List UInt8) :=
  if data.length ≤ nonceSize then .error (.tooShort data.length)
  else
    let nonce := data.take nonceSize
    let rest := data.drop nonceSize
    if rest.length < tagSize then .error .notAuthentic
    else
      let text := rest.take (rest.length - tagSize)
      if tag c nonce text = rest.drop (rest.length - tagSize) then .ok (crypt c nonce text)
      else .error .notAuthentic

end HeadEnd.Cipher.Gcm
