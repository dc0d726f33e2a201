import HeadEnd.Cosem.Instant
import HeadEnd.Proofs.Cosem.DateTime
import Mathlib.Data.List.Forall2

/-! # What readers of values accept

A reader accepts the values that hold what it asks for, and reads just that. Any other value is a
failure to decode.
-/

namespace HeadEnd

/-! ## Outcomes -/

/-- The outcome is the result of which `means` holds, if there is one, and otherwise a failure to
decode. -/
structure Decodes {α : Type} (outcome : Outcome α) (means : α → Prop) : Prop where
  ok_iff : ∀ a, outcome = .ok a ↔ means a
  failure : ∀ failure, outcome = .error failure → ∃ context fault, failure = .decode context fault

section Combinators

variable {α β : Type} {outcome : Outcome α} {means means' : α → Prop}

theorem decodes_pure (a : α) : Decodes (pure a) fun b => b = a where
  ok_iff b := by simp [pure, Except.pure, eq_comm]
  failure _ h := by cases h

theorem decodes_error (context : String) (fault : Misreading) :
    Decodes (.error (.decode context fault) : Outcome α) fun _ => False where
  ok_iff _ := by simp
  failure failure h := ⟨context, fault, (Except.error.inj h).symm⟩

theorem Decodes.of_iff (h : Decodes outcome means) (hiff : ∀ a, means a ↔ means' a) :
    Decodes outcome means' where
  ok_iff a := (h.ok_iff a).trans (hiff a)
  failure := h.failure

theorem Decodes.bind {f : α → Outcome β} {r : α → β → Prop} (h : Decodes outcome means)
    (hf : ∀ a, means a → Decodes (f a) (r a)) :
    Decodes (outcome >>= f) fun b => ∃ a, means a ∧ r a b := by
  cases outcome with
  | error failure =>
      obtain ⟨context, fault, rfl⟩ := h.failure failure rfl
      refine (decodes_error context fault).of_iff fun b => ?_
      simp [← h.ok_iff]
  | ok a =>
      refine (hf a ((h.ok_iff a).mp rfl)).of_iff fun b => ?_
      simp [← h.ok_iff]

theorem Decodes.map {f : α → β} (h : Decodes outcome means) :
    Decodes (f <$> outcome) fun b => ∃ a, means a ∧ b = f a := by
  rw [map_eq_pure_bind]
  exact h.bind fun a _ => decodes_pure (f a)

/-- What is read of every element of a list is read of the list. -/
theorem decodes_mapM {f : α → Outcome β} {r : α → β → Prop} (hf : ∀ a, Decodes (f a) (r a))
    (xs : List α) : Decodes (xs.mapM f) (List.Forall₂ r xs) := by
  induction xs with
  | nil => exact (decodes_pure []).of_iff fun ys => by simp
  | cons x xs ih =>
      rw [List.mapM_cons]
      refine ((hf x).bind fun y _ => ih.bind fun ys _ => decodes_pure (y :: ys)).of_iff fun ys => ?_
      constructor
      · rintro ⟨y, hy, rest, hrest, rfl⟩
        exact .cons hy hrest
      · rintro (_ | ⟨hy, hrest⟩)
        exact ⟨_, hy, _, hrest, rfl⟩

end Combinators

/-! ## Numbers -/

namespace Value

/-- The number of a value that is an integer of any width, a code or a pair of digits. -/
def number? : Value → Option Int
  | int8 n => some n.toInt
  | int16 n => some n.toInt
  | int32 n => some n.toInt
  | int64 n => some n.toInt
  | uint8 n => some (n.toNat : Int)
  | uint16 n => some (n.toNat : Int)
  | uint32 n => some (n.toNat : Int)
  | uint64 n => some (n.toNat : Int)
  | enumerate n => some (n.toNat : Int)
  | bcd n => some (n.toNat : Int)
  | _ => none

/-- The value is null and there is no number, or it is the number. -/
def TellsNumber? {α : Type} (value : Value) (toInt : α → Int) (number : Option α) : Prop :=
  (value = .null ∧ number = none) ∨ ∃ n, value.number? = some (toInt n) ∧ number = some n

variable {value : Value} {context : String}

theorem ofNat_eq_iff {n : Nat} (h : n < 9223372036854775808) {number : Int64} :
    Int64.ofNat n = number ↔ (n : Int) = number.toInt := by
  rw [← Int64.toInt_inj, Int64.toInt_ofNat_of_lt h]

/-- An integer of 64 bits with a sign is read exactly if it is the number of the value. -/
theorem integer?_eq_some_iff {number : Int64} :
    value.integer? = some number ↔ value.number? = some number.toInt := by
  cases value with
  | int8 n => simp [integer?, number?, ← Int64.toInt_inj]
  | int16 n => simp [integer?, number?, ← Int64.toInt_inj]
  | int32 n => simp [integer?, number?, ← Int64.toInt_inj]
  | int64 n => simp [integer?, number?, ← Int64.toInt_inj]
  | uint8 n | enumerate n | bcd n =>
      have hn := n.toNat_lt
      simp [integer?, number?, ofNat_eq_iff (n := n.toNat) (by omega)]
  | uint16 n =>
      have hn := n.toNat_lt
      simp [integer?, number?, ofNat_eq_iff (n := n.toNat) (by omega)]
  | uint32 n =>
      have hn := n.toNat_lt
      simp [integer?, number?, ofNat_eq_iff (n := n.toNat) (by omega)]
  | uint64 n =>
      have hnumber := number.toInt_lt
      by_cases hn : n.toNat < 9223372036854775808
      · have hn' : n.toNat < Nat.pow 2 63 := hn
        simp [integer?, number?, hn', ofNat_eq_iff hn]
      · have hn' : ¬ n.toNat < Nat.pow 2 63 := hn
        simp only [integer?, number?, hn', if_false, Option.some.injEq, reduceCtorEq, false_iff]
        omega
  | _ => simp [integer?, number?]

/-- An integer of 64 bits with a sign that is the number of a byte is the number. -/
theorem exists_toInt_eq_iff {number : Option Int} {byte : UInt8} {p : Prop} :
    (∃ code : Int64, number = some code.toInt ∧ code.toInt = byte.toNat ∧ p) ↔
      number = some (byte.toNat : Int) ∧ p := by
  have hbyte := byte.toNat_lt
  have hcode : (Int64.ofInt byte.toNat).toInt = byte.toNat :=
    Int64.toInt_ofInt_of_le (by omega) (by omega)
  constructor
  · rintro ⟨code, hnumber, hcode, h⟩
    exact ⟨hcode ▸ hnumber, h⟩
  · rintro ⟨hnumber, h⟩
    exact ⟨_, hnumber.trans (congrArg some hcode.symm), hcode, h⟩

theorem decodes_toInteger? (value : Value) (context : String) :
    Decodes (value.toInteger? context) (value.TellsNumber? Int64.toInt) := by
  unfold TellsNumber?
  simp only [← integer?_eq_some_iff]
  unfold toInteger?
  cases hnull : value.isNull with
  | true =>
      obtain rfl : value = .null := by cases value <;> first | rfl | cases hnull
      exact (decodes_pure none).of_iff fun number => by simp [integer?]
  | false =>
      have hne : value ≠ .null := by
        rintro rfl
        cases hnull
      cases hinteger : value.integer? with
      | some n => exact (decodes_pure (some n)).of_iff fun number => by simp [hne]
      | none => exact (decodes_error context _).of_iff fun number => by simp [hne]

theorem decodes_toInteger (value : Value) (context : String) :
    Decodes (value.toInteger context) fun n => value.number? = some n.toInt := by
  refine ((value.decodes_toInteger? context).bind (r := fun number n => number = some n)
    fun number _ => ?_).of_iff fun n => by simp [TellsNumber?]
  cases number with
  | none => exact (decodes_error context _).of_iff fun n => by simp
  | some k => exact (decodes_pure k).of_iff fun n => by simp [eq_comm]

/-- What a table holds for the integer of a value. -/
def toCode {α : Type} (value : Value) (table : CodeTable) (ofCode? : Int64 → Option α)
    (context : String) : Outcome α := do
  let code ← value.toInteger context
  match ofCode? code with
  | some a => return a
  | none => throw (.decode context (.unknownCode table code))

theorem decodes_toCode {α : Type} (value : Value) (table : CodeTable)
    (ofCode? : Int64 → Option α) (context : String) :
    Decodes (value.toCode table ofCode? context) fun a =>
      ∃ code : Int64, value.number? = some code.toInt ∧ ofCode? code = some a := by
  refine (value.decodes_toInteger context).bind fun code _ => ?_
  cases ofCode? code with
  | none => exact (decodes_error context _).of_iff fun a => by simp
  | some a => exact (decodes_pure a).of_iff fun b => by simp [eq_comm]

section Narrow

variable {α : Type} [Narrow α] {toInt : α → Int}

theorem decodes_narrowed (hnarrow : ∀ (n : Int64) a, Narrow.narrow? n = some a ↔ n.toInt = toInt a)
    (number : Int64) (context : String) :
    Decodes (narrowed number context : Outcome α) fun a => number.toInt = toInt a := by
  unfold narrowed
  cases hn : (Narrow.narrow? number : Option α) with
  | some a =>
      exact (decodes_pure a).of_iff fun b => by rw [← hnarrow, hn, Option.some.injEq, eq_comm]
  | none => exact (decodes_error context _).of_iff fun b => by simp [← hnarrow, hn]

/-- A number is read as one of a narrower type exactly if it belongs to the type. -/
theorem decodes_toNarrow (hnarrow : ∀ (n : Int64) a, Narrow.narrow? n = some a ↔ n.toInt = toInt a)
    (hrange : ∀ a, -9223372036854775808 ≤ toInt a ∧ toInt a < 9223372036854775808) (value : Value)
    (context : String) :
    Decodes (value.toNarrow context : Outcome α) fun a => value.number? = some (toInt a) := by
  refine ((value.decodes_toInteger context).bind fun n _ =>
    decodes_narrowed hnarrow n context).of_iff fun a => ?_
  constructor
  · rintro ⟨n, hvalue, hn⟩
    rw [hvalue, hn]
  · intro hvalue
    have hn := Int64.toInt_ofInt_of_le (hrange a).1 (hrange a).2
    exact ⟨_, hvalue.trans (congrArg some hn.symm), hn⟩

/-- An optional number is read as one of a narrower type exactly if it belongs to the type. -/
theorem decodes_toNarrow? (hnarrow : ∀ (n : Int64) a, Narrow.narrow? n = some a ↔ n.toInt = toInt a)
    (hrange : ∀ a, -9223372036854775808 ≤ toInt a ∧ toInt a < 9223372036854775808) (value : Value)
    (context : String) :
    Decodes (value.toNarrow? context : Outcome (Option α)) (value.TellsNumber? toInt) := by
  refine ((value.decodes_toInteger? context).bind (r := fun n number =>
    (n = none ∧ number = none) ∨ ∃ k a, n = some k ∧ k.toInt = toInt a ∧ number = some a)
    fun n _ => ?_).of_iff fun number => ?_
  · cases n with
    | none => exact (decodes_pure none).of_iff fun number => by simp
    | some k =>
        refine (decodes_narrowed hnarrow k context).map.of_iff fun number => ?_
        simp
  · constructor
    · rintro ⟨_, ⟨hnull, rfl⟩ | ⟨n, hn, rfl⟩, ⟨hnone, hnumber⟩ | ⟨k, a, hk, ha, hnumber⟩⟩
      · exact .inl ⟨hnull, hnumber⟩
      · cases hk
      · cases hnone
      · cases hk
        exact .inr ⟨a, hn.trans (congrArg some ha), hnumber⟩
    · rintro (⟨hnull, rfl⟩ | ⟨a, hvalue, rfl⟩)
      · exact ⟨none, .inl ⟨hnull, rfl⟩, .inl ⟨rfl, rfl⟩⟩
      · have hn := Int64.toInt_ofInt_of_le (hrange a).1 (hrange a).2
        exact ⟨_, .inr ⟨_, hvalue.trans (congrArg some hn.symm), rfl⟩, .inr ⟨_, a, rfl, hn, rfl⟩⟩

end Narrow

/-! ### Numbers without a sign -/

theorem some_ofNat_eq_iff {α : Type} {ofNat : Nat → α} {toNat : α → Nat} {bound : Nat}
    (hofNat : ∀ m < bound, toNat (ofNat m) = m) (hlt : ∀ a, toNat a < bound)
    (hinj : ∀ a b, toNat a = toNat b → a = b) (n : Int) (a : α) :
    (if 0 ≤ n ∧ n < bound then some (ofNat n.toNat) else none) = some a ↔ n = toNat a := by
  have ha := hlt a
  split
  · have hn := hofNat n.toNat (by omega)
    rw [Option.some.injEq]
    constructor
    · rintro rfl
      omega
    · intro heq
      exact hinj _ _ (by omega)
  · simp
    omega

theorem narrow?_uint8_iff (n : Int64) (a : UInt8) :
    Narrow.narrow? n = some a ↔ n.toInt = (a.toNat : Int) :=
  some_ofNat_eq_iff (fun _ => UInt8.toNat_ofNat_of_lt') UInt8.toNat_lt
    (fun _ _ => UInt8.toNat_inj.mp) n.toInt a

theorem narrow?_uint16_iff (n : Int64) (a : UInt16) :
    Narrow.narrow? n = some a ↔ n.toInt = (a.toNat : Int) :=
  some_ofNat_eq_iff (fun _ => UInt16.toNat_ofNat_of_lt') UInt16.toNat_lt
    (fun _ _ => UInt16.toNat_inj.mp) n.toInt a

theorem narrow?_uint32_iff (n : Int64) (a : UInt32) :
    Narrow.narrow? n = some a ↔ n.toInt = (a.toNat : Int) :=
  some_ofNat_eq_iff (fun _ => UInt32.toNat_ofNat_of_lt') UInt32.toNat_lt
    (fun _ _ => UInt32.toNat_inj.mp) n.toInt a

theorem decodes_toUInt8 (value : Value) (context : String) :
    Decodes (value.toNarrow context : Outcome UInt8) fun n =>
      value.number? = some (n.toNat : Int) :=
  decodes_toNarrow narrow?_uint8_iff (fun a => by have ha := a.toNat_lt; omega) value context

theorem decodes_toUInt16 (value : Value) (context : String) :
    Decodes (value.toNarrow context : Outcome UInt16) fun n =>
      value.number? = some (n.toNat : Int) :=
  decodes_toNarrow narrow?_uint16_iff (fun a => by have ha := a.toNat_lt; omega) value context

theorem decodes_toUInt32 (value : Value) (context : String) :
    Decodes (value.toNarrow context : Outcome UInt32) fun n =>
      value.number? = some (n.toNat : Int) :=
  decodes_toNarrow narrow?_uint32_iff (fun a => by have ha := a.toNat_lt; omega) value context

theorem decodes_toUInt8? (value : Value) (context : String) :
    Decodes (value.toNarrow? context) (value.TellsNumber? fun n : UInt8 => n.toNat) :=
  decodes_toNarrow? narrow?_uint8_iff (fun a => by have ha := a.toNat_lt; omega) value context

theorem decodes_toUInt16? (value : Value) (context : String) :
    Decodes (value.toNarrow? context) (value.TellsNumber? fun n : UInt16 => n.toNat) :=
  decodes_toNarrow? narrow?_uint16_iff (fun a => by have ha := a.toNat_lt; omega) value context

/-! ### Numbers with a sign -/

theorem decodes_toInt8 (value : Value) (context : String) :
    Decodes (value.toNarrow context : Outcome Int8) fun n => value.number? = some n.toInt := by
  refine decodes_toNarrow (fun n a => ?_) (fun a => ?_) value context
  · have hle := a.le_toInt
    have hlt := a.toInt_lt
    change (if -128 ≤ n.toInt ∧ n.toInt ≤ 127 then some (Int8.ofInt n.toInt) else none) = some a ↔ _
    split
    · rename_i hn
      rw [Option.some.injEq, ← Int8.toInt_inj, Int8.toInt_ofInt_of_le (by omega) (by omega)]
    · simp
      omega
  · have hle := a.le_toInt
    have hlt := a.toInt_lt
    omega

/-! ## Strings -/

theorem decodes_toBytes? (value : Value) (context : String) :
    Decodes (value.toBytes? context) fun found => (value = .null ∧ found = none) ∨
      ∃ bytes, value.bytes? = some bytes ∧ found = some bytes := by
  cases value with
  | null => exact (decodes_pure none).of_iff fun found => by simp [bytes?]
  | octets bytes | visible bytes | utf8 bytes =>
      exact (decodes_pure (some bytes)).of_iff fun found => by simp [bytes?]
  | _ => exact (decodes_error context _).of_iff fun found => by simp [bytes?]

theorem decodes_toText? (value : Value) (context : String) :
    Decodes (value.toText? context) fun text => (value = .null ∧ text = none) ∨
      ∃ bytes s, value.bytes? = some bytes ∧ Utf8.decode bytes = .ok s.toList ∧ text = some s := by
  refine ((value.decodes_toBytes? context).bind (r := fun found text =>
    (found = none ∧ text = none) ∨ ∃ bytes s, found = some bytes ∧
      Utf8.decode bytes = .ok s.toList ∧ text = some s) fun found _ => ?_).of_iff fun text => ?_
  · cases found with
    | none => exact (decodes_pure none).of_iff fun text => by simp
    | some bytes =>
        dsimp only
        cases hdecode : Utf8.decode bytes with
        | ok cs =>
            refine (decodes_pure (some (String.ofList cs))).of_iff fun text => ?_
            constructor
            · rintro rfl
              exact .inr ⟨bytes, _, rfl, by rw [hdecode, String.toList_ofList], rfl⟩
            · rintro (⟨⟨⟩, -⟩ | ⟨_, s, ⟨⟩, hs, rfl⟩)
              rw [hdecode] at hs
              rw [Except.ok.inj hs, String.ofList_toList]
        | error fault => exact (decodes_error context _).of_iff fun text => by simp [hdecode]
  · constructor
    · rintro ⟨_, ⟨hnull, rfl⟩ | ⟨bytes, hbytes, rfl⟩, ⟨hnone, htext⟩ | ⟨_, s, hfound, hs, htext⟩⟩
      · exact .inl ⟨hnull, htext⟩
      · cases hfound
      · cases hnone
      · cases hfound
        exact .inr ⟨bytes, s, hbytes, hs, htext⟩
    · rintro (⟨hnull, rfl⟩ | ⟨bytes, s, hbytes, hs, rfl⟩)
      · exact ⟨none, .inl ⟨hnull, rfl⟩, .inl ⟨rfl, rfl⟩⟩
      · exact ⟨_, .inr ⟨bytes, hbytes, rfl⟩, .inr ⟨bytes, s, rfl, hs, rfl⟩⟩

/-- The value is a byte string of any kind and holds the text. -/
def IsTextOf (value : Value) (s : String) : Prop :=
  ∃ bytes, value.bytes? = some bytes ∧ Utf8.decode bytes = .ok s.toList

def toText (value : Value) (context : String) : Outcome String := do
  match ← value.toText? context with
  | some text => return text
  | none => throw (.unexpected context .destination value)

theorem decodes_toText (value : Value) (context : String) :
    Decodes (value.toText context) fun s => value.IsTextOf s := by
  refine ((value.decodes_toText? context).bind (r := fun text s => text = some s)
    fun text _ => ?_).of_iff fun s => ?_
  · cases text with
    | none => exact (decodes_error context _).of_iff fun s => by simp
    | some text => exact (decodes_pure text).of_iff fun s => by simp [eq_comm]
  · constructor
    · rintro ⟨_, ⟨-, rfl⟩ | ⟨bytes, _, hbytes, hs, rfl⟩, heq⟩
      · cases heq
      · cases heq
        exact ⟨bytes, hbytes, hs⟩
    · rintro ⟨bytes, hbytes, hs⟩
      exact ⟨_, .inr ⟨bytes, s, hbytes, hs, rfl⟩, rfl⟩

theorem decodes_toLogicalName (value : Value) (context : String) :
    Decodes (value.toLogicalName context) fun name => value = .octets name.bytes := by
  unfold toLogicalName
  split
  · refine (decodes_pure _).of_iff fun name => ?_
    cases name
    simp [ObisCode.bytes, eq_comm]
  · rename_i hother
    refine (decodes_error context _).of_iff fun name => ⟨False.elim, ?_⟩
    rintro rfl
    exact hother _ _ _ _ _ _ rfl

/-! ## Lists -/

/-- The value is a list of either kind with the elements, or null without any. -/
def IsListOf (value : Value) (elements : List Value) : Prop :=
  (value = .null ∧ elements = []) ∨ value = .array elements ∨ value = .tuple elements

@[simp] theorem isListOf_array {xs elements : List Value} :
    (array xs).IsListOf elements ↔ elements = xs := by
  simp [IsListOf, eq_comm]

/-- The value is null, or it is a list of which each element tells the item in its place. -/
def Lists {α : Type} (value : Value) (told : α → Value → Prop) (items : List α) : Prop :=
  ∃ elements, value.IsListOf elements ∧
    List.Forall₂ (fun element item => told item element) elements items

theorem decodes_toElements (value : Value) (context : String) :
    Decodes (value.toElements context) value.IsListOf := by
  unfold IsListOf
  cases value with
  | null => exact (decodes_pure []).of_iff fun elements => by simp
  | array xs => exact (decodes_pure xs).of_iff fun elements => by simp [eq_comm]
  | tuple xs => exact (decodes_pure xs).of_iff fun elements => by simp [eq_comm]
  | _ => exact (decodes_error context _).of_iff fun elements => by simp

theorem decodes_toStructure (value : Value) (context : String) (count : Nat) :
    Decodes (value.toStructure context count) fun elements => value = .tuple elements.val := by
  cases value with
  | tuple elements =>
      by_cases hlength : elements.length = count
      · have hread : (tuple elements).toStructure context count = .ok ⟨elements, hlength⟩ :=
          dif_pos hlength
        rw [hread]
        exact (decodes_pure _).of_iff fun other => by simp [Subtype.ext_iff, eq_comm]
      · have hread : (tuple elements).toStructure context count = .error _ := dif_neg hlength
        rw [hread]
        refine (decodes_error context _).of_iff fun other => ⟨False.elim, fun heq => ?_⟩
        cases heq
        exact hlength other.property
  | _ => exact (decodes_error context _).of_iff fun elements => by simp

/-- What is read of the elements of a structure is told by the structure. -/
theorem decodes_structure {α : Type} {count : Nat} {context : String} {value : Value}
    {read : { elements : List Value // elements.length = count } → Outcome α}
    {told : α → Value → Prop} (hshape : ∀ a value, told a value →
      ∃ elements : { elements : List Value // elements.length = count },
        value = .tuple elements.val)
    (hread : ∀ elements, Decodes (read elements) fun a => told a (.tuple elements.val)) :
    Decodes (value.toStructure context count >>= read) fun a => told a value := by
  refine ((value.decodes_toStructure context count).bind fun elements _ =>
    hread elements).of_iff fun a => ?_
  constructor
  · rintro ⟨elements, rfl, htold⟩
    exact htold
  · intro htold
    obtain ⟨elements, rfl⟩ := hshape a value htold
    exact ⟨elements, rfl, htold⟩

/-! ## Date-times -/

/-- The value is a date-time, given as such or by its twelve bytes, or null. -/
inductive IsTimestamp : Value → Prop
  | null : IsTimestamp .null
  | octets {bytes : List UInt8} : CosemDateTime.IsForm bytes → IsTimestamp (.octets bytes)
  | dateTime (t : CosemDateTime) : IsTimestamp (.dateTime t)

end Value

/-- The value is the date-time, given as such or by its twelve bytes. -/
inductive CosemDateTime.IsToldBy (t : CosemDateTime) : Value → Prop
  | octets : t.checked = .ok t → IsToldBy t (.octets t.encode)
  | dateTime : IsToldBy t (.dateTime t)

namespace Value

theorem decodes_toDateTime (value : Value) (context : String) :
    Decodes (value.toDateTime context) fun t => t.IsToldBy value := by
  cases value with
  | dateTime t =>
      refine (decodes_pure t).of_iff fun t' => ⟨?_, ?_⟩
      · rintro rfl
        exact .dateTime
      · rintro ⟨⟩
        rfl
  | octets bytes =>
      have htold (t : CosemDateTime) :
          t.IsToldBy (.octets bytes) ↔ CosemDateTime.decode bytes = .ok t := by
        constructor
        · rintro (hchecked | _)
          exact (CosemDateTime.decode_encode t).trans hchecked
        · intro hdecode
          obtain rfl := CosemDateTime.encode_of_decode hdecode
          exact .octets (CosemDateTime.checked_of_decode hdecode).2
      simp only [htold]
      cases hdecode : CosemDateTime.decode bytes with
      | ok t =>
          have hread : (octets bytes).toDateTime context = .ok t := by
            simp only [toDateTime, toDateTime?, if_pos (CosemDateTime.checked_of_decode hdecode).1,
              hdecode]
            rfl
          rw [hread]
          exact (decodes_pure t).of_iff fun t' => by simp [eq_comm]
      | error fault =>
          have hread : ∃ misreading, (octets bytes).toDateTime context =
              .error (.decode context misreading) := by
            simp only [toDateTime, toDateTime?, hdecode]
            split <;> exact ⟨_, rfl⟩
          obtain ⟨misreading, hread⟩ := hread
          rw [hread]
          exact (decodes_error context misreading).of_iff fun t => by simp
  | _ => exact (decodes_error context _).of_iff fun t => ⟨False.elim, nofun⟩

end Value

end HeadEnd
