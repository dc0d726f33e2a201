import HeadEnd.Cipher.Block
import HeadEnd.Failure.Cause

/-! # Key wrap

Keys encrypted with another key so that any change is noticed: six rounds over the words of the key
with a check word that goes through all of them (RFC 3394). Unwrapping takes the same steps back.
-/

namespace HeadEnd.Cipher.KeyWrap

def initialCheck : UInt64 := 0xA6A6A6A6A6A6A6A6

def rounds : Nat := 6

/-- One round over the words; the steps are numbered from `step` on. -/
def wrapRound (c : BlockCipher) (step : Nat) (check : UInt64) : List UInt64 → UInt64 × List UInt64
  | [] => (check, [])
  | word :: rest =>
    let block := c.encrypt ⟨check, word⟩
    let (check, rest) := wrapRound c (step + 1) (block.high ^^^ UInt64.ofNat step) rest
    (check, block.low :: rest)

def unwrapRound (c : BlockCipher) (step : Nat) (check : UInt64) :
    List UInt64 → UInt64 × List UInt64
  | [] => (check, [])
  | word :: rest =>
    let (check, rest) := unwrapRound c (step + 1) check rest
    let block := c.decrypt ⟨check ^^^ UInt64.ofNat step, word⟩
    (block.high, block.low :: rest)

/-- Several rounds, the steps of which are numbered from `step` on. -/
def wrapRounds (c : BlockCipher) (step : Nat) (check : UInt64) (words : List UInt64) :
    Nat → UInt64 × List UInt64
  | 0 => (check, words)
  | count + 1 =>
    let (check, words') := wrapRound c step check words
    wrapRounds c (step + words.length) check words' count

def unwrapRounds (c : BlockCipher) (step : Nat) (check : UInt64) (words : List UInt64) :
    Nat → UInt64 × List UInt64
  | 0 => (check, words)
  | count + 1 =>
    let (check, words') := unwrapRounds c (step + words.length) check words count
    unwrapRound c step check words'

/-- The words of data that are large enough and consist of whole words. -/
def inputWords (input : WrapInput) (data : List UInt8) : Except SecurityFault (List UInt64) :=
  match words? data with
  | some words =>
    if input.leastSize ≤ data.length then .ok words
    else .error (.wrapInputSize input data.length)
  | none => .error (.wrapInputSize input data.length)

/-- The cipher under a key of sixteen bytes. -/
def cipherOf (cipher : Block → BlockCipher) (key : List UInt8) :
    Except SecurityFault BlockCipher :=
  match Block.ofBytes? key with
  | some block => .ok (cipher block)
  | none => .error (.wrappingKeySize key.length)

def wrap (cipher : Block → BlockCipher) (wrappingKey key : List UInt8) :
    Except SecurityFault (List UInt8) := do
  let c ← cipherOf cipher wrappingKey
  let words ← inputWords .plain key
  let (check, words) := wrapRounds c 1 initialCheck words rounds
  return bytesOfWords (check :: words)

def unwrap (cipher : Block → BlockCipher) (wrappingKey data : List UInt8) :
    Except SecurityFault (List UInt8) := do
  let c ← cipherOf cipher wrappingKey
  match ← inputWords .wrapped data with
  | check :: words =>
    let (check, words) := unwrapRounds c 1 check words rounds
    if check = initialCheck then return bytesOfWords words else throw .notIntact
  | [] => throw .notIntact

end HeadEnd.Cipher.KeyWrap
