import HeadEnd.Proofs.Time.Rfc3339
import HeadEnd.Stored.Time
import Mathlib.Data.List.Nodup

/-! # Data read back from documents

A datum is restored if every mode of reading gets it back from its document. The fields of a record
are restored one by one, so a record is restored as soon as its fields are.
-/

namespace HeadEnd

open Stored

/-! ## Records -/

namespace Document

variable {names : List String} {fields : List (String × Document)}

@[simp]
theorem fields?_record :
    fields? names (.record fields) = some ⟨names.map (field? fields), List.length_map _⟩ :=
  rfl

@[simp]
theorem field?_cons (name other : String) (document : Document) :
    field? ((name, document) :: fields) other =
      if name = other then some document else field? fields other := by
  by_cases h : name = other
  · simp [field?, h]
  · simp [field?, h]

end Document

namespace Stored

/-! ## What is restored -/

variable {α : Type} [Stored α]

/-- The datum is read back from its document. The document is not null, which in a field that may
be missing stands for no datum. -/
structure IsRestored (a : α) : Prop where
  read?_write : ∀ mode, read? mode (write a) = some a
  write_ne_null : write a ≠ .null

/-- A type all of whose members are restored. -/
class Restorable (α : Type) [Stored α] : Prop where
  isRestored : ∀ a : α, IsRestored a

theorem isRestored [Restorable α] (a : α) : IsRestored a :=
  Restorable.isRestored a

/-- A record is restored if it is read back from its fields. -/
theorem IsRestored.of_record {a : α} {fields : List (String × Document)}
    (hwrite : write a = .record fields) (hread : ∀ mode, read? mode (.record fields) = some a) :
    IsRestored a := by
  refine ⟨fun mode => ?_, ?_⟩
  · rw [hwrite]
    exact hread mode
  · rw [hwrite]
    exact Document.noConfusion

/-! ## Fields -/

@[simp]
theorem required?_write {a : α} (h : IsRestored a) (mode : ReadMode) :
    required? mode (some (write a)) = some a :=
  h.read?_write mode

@[simp]
theorem optional?_write {a : Option α} (h : ∀ b ∈ a, IsRestored b) (mode : ReadMode) :
    optional? mode (some (write a)) = some a := by
  cases a with
  | none => rfl
  | some b =>
      have hb := h b rfl
      have hwrite : write (some b) = write b := rfl
      rw [hwrite]
      unfold optional?
      split
      case h_1 hnone => cases hnone
      case h_2 hnull => exact absurd (Option.some.inj hnull) hb.write_ne_null
      case h_3 document hdocument =>
        cases hdocument
        rw [hb.read?_write]
        rfl

@[simp]
theorem required?_write_of_restorable [Restorable α] (a : α) (mode : ReadMode) :
    required? mode (some (write a)) = some a :=
  required?_write (isRestored a) mode

@[simp]
theorem optional?_write_of_restorable [Restorable α] (a : Option α) (mode : ReadMode) :
    optional? mode (some (write a)) = some a :=
  optional?_write (fun b _ => isRestored b) mode

/-! ## Lists -/

theorem mapM_read?_write {items : List α} (h : ∀ a ∈ items, IsRestored a) (mode : ReadMode) :
    (items.map write).mapM (read? mode) = some items := by
  induction items with
  | nil => rfl
  | cons a items ih =>
      have hrest := ih fun b hb => h b (List.mem_cons_of_mem a hb)
      rw [List.map_cons, List.mapM_cons, (h a List.mem_cons_self).read?_write, hrest]
      rfl

theorem IsRestored.list {items : List α} (h : ∀ a ∈ items, IsRestored a) : IsRestored items :=
  ⟨mapM_read?_write h, Document.noConfusion⟩

instance [Restorable α] : Restorable (List α) :=
  ⟨fun _ => .list fun a _ => isRestored a⟩

/-! ## Simple data -/

instance : Restorable Bool :=
  ⟨fun _ => ⟨fun _ => rfl, Document.noConfusion⟩⟩

instance : Restorable String :=
  ⟨fun _ => ⟨fun _ => rfl, Document.noConfusion⟩⟩

/-- A number that lies in the range that is asked for is restored. -/
theorem IsRestored.of_integer {a : α} {least greatest n : Int} {ofInteger : Int → α}
    (hwrite : write a = .integer n)
    (hread : ∀ mode document,
      read? mode document = (integerWithin? least greatest document).map ofInteger)
    (hrange : least ≤ n ∧ n ≤ greatest) (hback : ofInteger n = a) : IsRestored a := by
  refine ⟨fun mode => ?_, ?_⟩
  · have hwithin : integerWithin? least greatest (.integer n) = some n := if_pos hrange
    rw [hwrite, hread, hwithin, Option.map_some, hback]
  · rw [hwrite]
    exact Document.noConfusion

instance : Restorable UInt8 := by
  refine ⟨fun n => ?_⟩
  have hrange := n.toNat_lt
  exact .of_integer rfl (fun _ _ => rfl) (by omega) (by simp)

instance : Restorable UInt16 := by
  refine ⟨fun n => ?_⟩
  have hrange := n.toNat_lt
  exact .of_integer rfl (fun _ _ => rfl) (by omega) (by simp)

instance : Restorable Int8 := by
  refine ⟨fun n => ?_⟩
  have hrange := And.intro n.le_toInt n.toInt_lt
  exact .of_integer rfl (fun _ _ => rfl) (by omega) (by simp)

instance : Restorable Int16 := by
  refine ⟨fun n => ?_⟩
  have hrange := And.intro n.le_toInt n.toInt_lt
  exact .of_integer rfl (fun _ _ => rfl) (by omega) (by simp)

instance : Restorable Int32 := by
  refine ⟨fun n => ?_⟩
  have hrange := And.intro n.le_toInt n.toInt_lt
  exact .of_integer rfl (fun _ _ => rfl) (by omega) (by simp)

instance : Restorable Int64 := by
  refine ⟨fun n => ?_⟩
  have hrange := And.intro n.le_toInt n.toInt_lt
  exact .of_integer rfl (fun _ _ => rfl) (by omega) (by simp)

@[simp]
theorem readBytes?_write (bytes : List UInt8) (mode : ReadMode) :
    readBytes? mode (write bytes) = some bytes :=
  (isRestored bytes).read?_write mode

/-! ## Enumerations -/

/-- The list has every member of the enumeration, and no two of them have one name. -/
structure IsNaming {β : Type} (all : List β) (name : β → String) : Prop where
  complete : ∀ b, b ∈ all
  distinct : (all.map name).Nodup

variable {β : Type} {all : List β} {name : β → String}

theorem IsNaming.find?_eq (h : IsNaming all name) (b : β) :
    (all.find? fun other => name other == name b) = some b := by
  have hfound : (all.find? fun other => name other == name b).isSome = true :=
    List.find?_isSome.mpr ⟨b, h.complete b, beq_self_eq_true _⟩
  obtain ⟨other, hother⟩ := Option.isSome_iff_exists.mp hfound
  have hname : name other = name b := by simpa using List.find?_some hother
  rw [hother, List.inj_on_of_nodup_map h.distinct (h.complete other) (h.complete b) hname]

/-- A member of an enumeration is found by its name. -/
theorem IsRestored.of_naming (h : IsNaming all name) (b : β) :
    @IsRestored β (named all name) b := by
  let _ : Stored β := named all name
  exact ⟨fun _ => h.find?_eq b, Document.noConfusion⟩

/-- A member with a datum of its own is restored if no member without data has its name. -/
theorem IsRestored.of_variant [Stored β] [Restorable α] {b : β} {variant : String} {datum : α}
    {plain? : ReadMode → Document → Option β} {make : α → β}
    (hwrite : write b = writeVariant variant datum)
    (hread : ∀ mode document, read? mode document =
      (plain? mode document).or ((readVariant? variant mode document).map make))
    (hplain : ∀ mode, plain? mode (writeVariant variant datum) = none) (hmake : make datum = b) :
    IsRestored b := by
  refine ⟨fun mode => ?_, ?_⟩
  · have hdatum : readVariant? variant mode (writeVariant variant datum) = some datum := by
      rw [writeVariant, readVariant?, if_pos rfl]
      exact (isRestored datum).read?_write mode
    rw [hwrite, hread, hplain, hdatum, Option.map_some, hmake]
    rfl
  · rw [hwrite]
    exact Document.noConfusion

/-! ## Times -/

theorem isRestored_zonedTime {time : ZonedTime} (h : time.IsStorable) : IsRestored time :=
  ⟨fun _ => Rfc3339.read?_stored h, Document.noConfusion⟩

theorem isRestored_instant {t : Instant} (h : (ZonedTime.utc t).IsStorable) : IsRestored t := by
  refine ⟨fun mode => ?_, Document.noConfusion⟩
  have hread := Rfc3339.read?_stored h
  simp only [write, read?]
  rw [hread]
  rfl

end Stored

end HeadEnd
