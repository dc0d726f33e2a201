import HeadEnd.Text.Escaped

/-! # Hexadecimal text of byte strings

Two digits for a byte, in lower case when written; both cases are read. Reading what was written
gives the bytes back.
-/

namespace HeadEnd.Hex

/-- Why a text is not the hexadecimal form of a byte string. -/
inductive Fault where
  /-- The text holds an odd number of bytes. -/
  | oddLength
  /-- The byte at `position` is no hexadecimal digit; `shown` is that byte read as a character. -/
  | badDigit (shown : Char) (position : Nat)
  deriving DecidableEq

def Fault.message : Fault → String
  | .oddLength => "Odd number of digits"
  | .badDigit shown position =>
    "Invalid character " ++ Escaped.quoted shown ++ " at position " ++ toString position

/-- The value of a hexadecimal digit of either case. -/
def digitValue? (c : Char) : Option Nat :=
  let n := c.toNat
  if 48 ≤ n ∧ n ≤ 57 then some (n - 48)
  else if 97 ≤ n ∧ n ≤ 102 then some (n - 87)
  else if 65 ≤ n ∧ n ≤ 70 then some (n - 55)
  else none

/-- The two lower-case digits of a byte. -/
def ofByte (b : UInt8) : List Char :=
  [Nat.digitChar (b.toNat / 16), Nat.digitChar (b.toNat % 16)]

def encode (bytes : List UInt8) : List Char :=
  bytes.flatMap ofByte

def text (bytes : List UInt8) : String :=
  String.ofList (encode bytes)

/-- The two upper-case digits of a byte. -/
def upperText (b : UInt8) : String :=
  String.ofList ((ofByte b).map Char.toUpper)

/-- The first byte of the UTF-8 form of `c`, read as a character. -/
def leadingByte (c : Char) : Char :=
  Char.ofNat ((String.utf8EncodeChar c).headD 0).toNat

/-- The bytes of pairs of digits, the first of which stands at `position`. -/
def decodePairs : Nat → List Char → Except Fault (List UInt8)
  | position, high :: low :: rest =>
    match digitValue? high, digitValue? low with
    | none, _ => .error (.badDigit (leadingByte high) position)
    | some _, none => .error (.badDigit (leadingByte low) (position + 1))
    | some h, some l =>
      match decodePairs (position + 2) rest with
      | .ok bytes => .ok (UInt8.ofNat (16 * h + l) :: bytes)
      | .error fault => .error fault
  | position, [last] => .error (.badDigit (leadingByte last) position)
  | _, [] => .ok []

/-- The byte string that `cs` is the hexadecimal form of. The length is looked at first, in bytes
of the text. -/
def decode (cs : List Char) : Except Fault (List UInt8) :=
  if (cs.flatMap String.utf8EncodeChar).length % 2 = 1 then .error .oddLength
  else decodePairs 0 cs

theorem digitValue?_digitChar {n : Nat} (h : n < 16) : digitValue? (Nat.digitChar n) = some n := by
  have hall : ∀ k : Fin 16, digitValue? (Nat.digitChar k.val) = some k.val := by decide
  exact hall ⟨n, h⟩

theorem length_utf8EncodeChar_digitChar {n : Nat} (h : n < 16) :
    (String.utf8EncodeChar (Nat.digitChar n)).length = 1 := by
  have hall : ∀ k : Fin 16, (String.utf8EncodeChar (Nat.digitChar k.val)).length = 1 := by decide
  exact hall ⟨n, h⟩

theorem digits_lt (b : UInt8) : b.toNat / 16 < 16 ∧ b.toNat % 16 < 16 := by
  have := UInt8.toNat_lt b
  omega

theorem decodePairs_encode (position : Nat) (bytes : List UInt8) :
    decodePairs position (encode bytes) = .ok bytes := by
  induction bytes generalizing position with
  | nil => rfl
  | cons b bytes ih =>
    obtain ⟨hhigh, hlow⟩ := digits_lt b
    have hbyte : UInt8.ofNat (16 * (b.toNat / 16) + b.toNat % 16) = b := by
      rw [Nat.div_add_mod, UInt8.ofNat_toNat]
    have hsplit : encode (b :: bytes) =
        Nat.digitChar (b.toNat / 16) :: Nat.digitChar (b.toNat % 16) :: encode bytes := rfl
    rw [hsplit, decodePairs]
    simp only [digitValue?_digitChar hhigh, digitValue?_digitChar hlow, ih, hbyte]

theorem decode_encode (bytes : List UInt8) : decode (encode bytes) = .ok bytes := by
  have hsize : ((encode bytes).flatMap String.utf8EncodeChar).length = 2 * bytes.length := by
    induction bytes with
    | nil => rfl
    | cons b bytes ih =>
      obtain ⟨hhigh, hlow⟩ := digits_lt b
      have hsplit : encode (b :: bytes) =
          Nat.digitChar (b.toNat / 16) :: Nat.digitChar (b.toNat % 16) :: encode bytes := rfl
      simp only [hsplit, List.flatMap_cons, List.length_append, List.length_cons, ih,
        length_utf8EncodeChar_digitChar hhigh, length_utf8EncodeChar_digitChar hlow]
      omega
  rw [decode, hsize, decodePairs_encode]
  simp

end HeadEnd.Hex
