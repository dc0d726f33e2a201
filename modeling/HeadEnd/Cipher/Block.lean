/-! # Blocks

Blocks of sixteen bytes as two words, and block ciphers as the functions of one key. Bytes and
words correspond with the most significant byte first.
-/

namespace HeadEnd.Cipher

/-- The word that bytes denote, the first being the most significant. -/
def wordOfBytes (bytes : List UInt8) : UInt64 :=
  UInt64.ofNat (bytes.foldl (fun n byte => 256 * n + byte.toNat) 0)

def bytesOfWord (word : UInt64) : List UInt8 :=
  [56, 48, 40, 32, 24, 16, 8, 0].map fun shift => UInt8.ofNat (word.toNat >>> shift)

/-- The words of a byte string that consists of whole words. -/
def words? : List UInt8 → Option (List UInt64)
  | [] => some []
  | a :: b :: c :: d :: e :: f :: g :: h :: rest =>
    (words? rest).map (wordOfBytes [a, b, c, d, e, f, g, h] :: ·)
  | _ => none

def bytesOfWords (words : List UInt64) : List UInt8 :=
  words.flatMap bytesOfWord

/-- Sixteen bytes. -/
structure Block where
  high : UInt64
  low : UInt64
  deriving DecidableEq

namespace Block

def ofBytes? (bytes : List UInt8) : Option Block :=
  match words? bytes with
  | some [high, low] => some ⟨high, low⟩
  | _ => none

def bytes (b : Block) : List UInt8 :=
  bytesOfWord b.high ++ bytesOfWord b.low

def zero : Block := ⟨0, 0⟩

/-- The bits in which two blocks differ. -/
def xor (a b : Block) : Block :=
  ⟨a.high ^^^ b.high, a.low ^^^ b.low⟩

end Block

/-- Encryption and decryption of blocks under one key. -/
structure BlockCipher where
  encrypt : Block → Block
  decrypt : Block → Block

/-- Encryption and decryption undo each other. -/
def BlockCipher.IsInvertible (c : BlockCipher) : Prop :=
  (∀ b, c.decrypt (c.encrypt b) = b) ∧ ∀ b, c.encrypt (c.decrypt b) = b

end HeadEnd.Cipher
