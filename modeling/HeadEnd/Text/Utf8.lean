/-! # UTF-8

Byte strings as text. A byte string that is not UTF-8 has a first offending place: either bytes
that no character starts with, or the beginning of a character cut off by the end.
-/

namespace HeadEnd.Utf8

/-- Where and how a byte string stops being UTF-8. -/
inductive Fault where
  /-- `length` bytes from `index` on are no character, whatever follows them. -/
  | invalid (length index : Nat)
  /-- The bytes from `index` on begin a character that the end cuts off. -/
  | incomplete (index : Nat)
  deriving DecidableEq

def Fault.message : Fault → String
  | .invalid length index =>
    "invalid utf-8 sequence of " ++ toString length ++ " bytes from index " ++ toString index
  | .incomplete index => "incomplete utf-8 byte sequence from index " ++ toString index

/-- What the bytes after a first byte make of it. -/
inductive Scan where
  /-- A character, which takes `more` bytes besides the first. -/
  | character (c : Char) (more : Nat)
  /-- No character: the first byte and `more` bytes after it are rejected together. -/
  | invalid (more : Nat)
  /-- All bytes belong to a character that is not complete. -/
  | incomplete

def isContinuation (b : UInt8) : Bool :=
  128 ≤ b.toNat && b.toNat ≤ 191

def payload (b : UInt8) : Nat :=
  b.toNat % 64

/-- The least second byte after the first byte `first`: shorter forms must not be lengthened. -/
def leastSecond (first : Nat) : Nat :=
  if first = 0xE0 then 0xA0 else if first = 0xF0 then 0x90 else 0x80

/-- The greatest second byte after the first byte `first`: surrogates and numbers above the last
code point are no characters. -/
def greatestSecond (first : Nat) : Nat :=
  if first = 0xED then 0x9F else if first = 0xF4 then 0x8F else 0xBF

/-- Whether `second` may follow `first` in a character of three or four bytes. -/
def allowsSecond (first : Nat) (second : UInt8) : Bool :=
  leastSecond first ≤ second.toNat && second.toNat ≤ greatestSecond first

/-- Reads one character from a first byte and the bytes after it. -/
def scan (first : UInt8) (rest : List UInt8) : Scan :=
  let f := first.toNat
  if f < 0x80 then .character (Char.ofNat f) 0
  else if f < 0xC2 then .invalid 0
  else if f < 0xE0 then
    match rest with
    | [] => .incomplete
    | b :: _ =>
      if isContinuation b then .character (Char.ofNat (f % 32 * 64 + payload b)) 1 else .invalid 0
  else if f < 0xF0 then
    match rest with
    | [] => .incomplete
    | b :: rest =>
      if !allowsSecond f b then .invalid 0 else
      match rest with
      | [] => .incomplete
      | c :: _ =>
        if isContinuation c then
          .character (Char.ofNat ((f % 16 * 64 + payload b) * 64 + payload c)) 2
        else .invalid 1
  else if f < 0xF5 then
    match rest with
    | [] => .incomplete
    | b :: rest =>
      if !allowsSecond f b then .invalid 0 else
      match rest with
      | [] => .incomplete
      | c :: rest =>
        if !isContinuation c then .invalid 1 else
        match rest with
        | [] => .incomplete
        | d :: _ =>
          if isContinuation d then
            .character (Char.ofNat (((f % 8 * 64 + payload b) * 64 + payload c) * 64 + payload d)) 3
          else .invalid 2
  else .invalid 0

/-- The characters of `bytes`, the first of which stands at `index`. -/
def decodeFrom (index : Nat) : List UInt8 → Except Fault (List Char)
  | [] => .ok []
  | first :: rest =>
    match scan first rest with
    | .character c more => (decodeFrom (index + 1 + more) (rest.drop more)).map (c :: ·)
    | .invalid more => .error (.invalid (more + 1) index)
    | .incomplete => .error (.incomplete index)
termination_by bytes => bytes.length
decreasing_by
  simp only [List.length_drop, List.length_cons]
  omega

def decode (bytes : List UInt8) : Except Fault (List Char) :=
  decodeFrom 0 bytes

/-- The character that stands for bytes that are none. -/
def replacement : Char :=
  Char.ofNat 0xFFFD

/-- The characters of `bytes`, with one replacement character for each stretch that is none. -/
def decodeLossy : List UInt8 → List Char
  | [] => []
  | first :: rest =>
    match scan first rest with
    | .character c more => c :: decodeLossy (rest.drop more)
    | .invalid more => replacement :: decodeLossy (rest.drop more)
    | .incomplete => [replacement]
termination_by bytes => bytes.length
decreasing_by all_goals
  simp only [List.length_drop, List.length_cons]
  omega

def encode (s : String) : List UInt8 :=
  s.toList.flatMap String.utf8EncodeChar

end HeadEnd.Utf8
