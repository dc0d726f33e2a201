import HeadEnd.Association.ObjectList
import HeadEnd.Proofs.Cosem.Reading

/-! # What is read of an object list

Which values hold an object with the access to its attributes and methods, and that these values are
read and no others.
-/

namespace HeadEnd.Association

/-! ## Codes -/

/-- What a table of accesses holds for a number that is not negative. -/
theorem exists_getElem?_iff {α : Type} {all : List α} {ofCode? : Int64 → Option α}
    (hofCode : ∀ code, ofCode? code = if 0 ≤ code.toInt then all[code.toInt.toNat]? else none)
    (hlength : all.length ≤ 256) {number : Option Int} {access : α} :
    (∃ code : Int64, number = some code.toInt ∧ ofCode? code = some access) ↔
      ∃ index : Nat, number = some (index : Int) ∧ all[index]? = some access := by
  constructor
  · rintro ⟨code, hnumber, haccess⟩
    rw [hofCode] at haccess
    split at haccess
    · exact ⟨code.toInt.toNat, by rw [hnumber, Int.toNat_of_nonneg ‹_›], haccess⟩
    · cases haccess
  · rintro ⟨index, hnumber, haccess⟩
    obtain ⟨hindex, -⟩ := List.getElem?_eq_some_iff.mp haccess
    have hcode : (Int64.ofInt index).toInt = index :=
      Int64.toInt_ofInt_of_le (by omega) (by omega)
    refine ⟨Int64.ofInt index, hnumber.trans (congrArg some hcode.symm), ?_⟩
    rw [hofCode, hcode, if_pos (Int.natCast_nonneg index), Int.toNat_natCast, haccess]

theorem exists_attributeAccess_iff {number : Option Int} {access : AttributeAccess} :
    (∃ code : Int64, number = some code.toInt ∧ AttributeAccess.ofCode? code = some access) ↔
      ∃ index : Nat, number = some (index : Int) ∧ AttributeAccess.all[index]? = some access :=
  exists_getElem?_iff (fun _ => rfl) (by decide)

theorem exists_methodAccess_iff {number : Option Int} {access : MethodAccess} :
    (∃ code : Int64, number = some code.toInt ∧ MethodAccess.ofCode? code = some access) ↔
      ∃ index : Nat, number = some (index : Int) ∧ MethodAccess.all[index]? = some access :=
  exists_getElem?_iff (fun _ => rfl) (by decide)

/-! ## Values -/

/-- The structure holds the access to the attribute: its number, the place of the access among all
of them, and the selectors in their order. -/
def AttributeItem.IsToldBy (item : AttributeItem) (value : Value) : Prop :=
  ∃ id mode selectors, value = .tuple [id, mode, selectors] ∧
    id.number? = some item.attributeId.toInt ∧
    (∃ index : Nat, mode.number? = some (index : Int) ∧
      AttributeAccess.all[index]? = some item.access) ∧
    selectors.Lists (fun selector element => element.number? = some (selector.toNat : Int))
      item.selectors

/-- The value holds the access to a method: its place among all of them, or whether there is any. -/
inductive MethodAccess.IsToldBy (access : MethodAccess) : Value → Prop
  | allowed : access = .allowed → IsToldBy access (.boolean true)
  | noAccess : access = .noAccess → IsToldBy access (.boolean false)
  | number {value : Value} {index : Nat} : value.number? = some (index : Int) →
      MethodAccess.all[index]? = some access → IsToldBy access value

def MethodItem.IsToldBy (item : MethodItem) (value : Value) : Prop :=
  ∃ id mode, value = .tuple [id, mode] ∧ id.number? = some item.methodId.toInt ∧
    item.access.IsToldBy mode

/-- The value holds the access to an object: the attributes and the methods in their order. -/
def AccessRights.IsToldBy (rights : AccessRights) (value : Value) : Prop :=
  ∃ attributes methods, value = .tuple [attributes, methods] ∧
    attributes.Lists AttributeItem.IsToldBy rights.attributes ∧
    methods.Lists MethodItem.IsToldBy rights.methods

/-- The structure holds the object; in place of the access there may be null. -/
def ObjectItem.IsToldBy (item : ObjectItem) (value : Value) : Prop :=
  ∃ classId version rights,
    value = .tuple [classId, version, .octets item.logicalName.bytes, rights] ∧
      classId.number? = some (item.classId.toNat : Int) ∧
      version.number? = some (item.version.toNat : Int) ∧
      ((rights = .null ∧ item.rights = none) ∨
        ∃ told : AccessRights, told.IsToldBy rights ∧ item.rights = some told)

/-! ## Readers -/

/-- The access to an attribute is read element by element. -/
theorem readAttributeItem_eq (value : Value) :
    readAttributeItem value = value.toStructure "attribute access item" 3 >>= fun
      | ⟨[id, mode, selectors], _⟩ => do
        let attributeId ← id.toNarrow "attribute id"
        let access ← mode.toCode .accessMode AttributeAccess.ofCode? "attribute access mode"
        let selectors ← selectors.toElements "access selectors"
        let selectors ← selectors.mapM fun selector => selector.toNarrow "access selector"
        return { attributeId, access, selectors } := by
  refine congrArg (value.toStructure _ 3 >>= ·) (funext fun | ⟨[id, mode, selectors], _⟩ => ?_)
  simp only [Value.toCode, bind_assoc]
  refine congrArg (id.toNarrow _ >>= ·) (funext fun attributeId => ?_)
  refine congrArg (mode.toInteger _ >>= ·) (funext fun code => ?_)
  cases AttributeAccess.ofCode? code <;> rfl

theorem decodes_readAttributeItem (value : Value) :
    Decodes (readAttributeItem value) fun item => item.IsToldBy value := by
  rw [readAttributeItem_eq]
  refine Value.decodes_structure (fun item value => ?_) fun | ⟨[id, mode, selectors], _⟩ => ?_
  · rintro ⟨_, _, _, rfl, _⟩
    exact ⟨⟨_, rfl⟩, rfl⟩
  · refine ((id.decodes_toInt8 _).bind fun _ _ => (mode.decodes_toCode _ _ _).bind fun _ _ =>
      (selectors.decodes_toElements _).bind fun elements _ =>
      (decodes_mapM (fun selector => selector.decodes_toUInt8 _) elements).bind
        fun _ _ => decodes_pure _).of_iff fun item => ?_
    constructor
    · rintro ⟨_, hid, _, hmode, elements, hlist, _, hselectors, rfl⟩
      exact ⟨_, _, _, rfl, hid, exists_attributeAccess_iff.mp hmode, elements, hlist, hselectors⟩
    · rintro ⟨_, _, _, heq, hid, hmode, elements, hlist, hselectors⟩
      cases heq
      exact ⟨_, hid, _, exists_attributeAccess_iff.mpr hmode, elements, hlist, _, hselectors, rfl⟩

theorem readMethodAccess_eq {value : Value} (h : ∀ b, value ≠ .boolean b) :
    readMethodAccess value =
      value.toCode .accessMode MethodAccess.ofCode? "method access mode" := by
  unfold readMethodAccess
  split
  · exact absurd rfl (h true)
  · exact absurd rfl (h false)
  · exact congrArg (value.toInteger _ >>= ·) (funext fun code => by
      cases MethodAccess.ofCode? code <;> rfl)

theorem decodes_readMethodAccess (value : Value) :
    Decodes (readMethodAccess value) fun access => access.IsToldBy value := by
  by_cases hboolean : ∃ b, value = .boolean b
  · obtain ⟨b, rfl⟩ := hboolean
    cases b with
    | true =>
        refine (decodes_pure MethodAccess.allowed).of_iff fun access => ⟨.allowed, ?_⟩
        rintro (rfl | _ | ⟨⟨⟩, _⟩)
        rfl
    | false =>
        refine (decodes_pure MethodAccess.noAccess).of_iff fun access => ⟨.noAccess, ?_⟩
        rintro (_ | rfl | ⟨⟨⟩, _⟩)
        rfl
  · rw [readMethodAccess_eq fun b hvalue => hboolean ⟨b, hvalue⟩]
    refine (value.decodes_toCode _ _ _).of_iff fun access => ?_
    rw [exists_methodAccess_iff]
    constructor
    · rintro ⟨index, hnumber, haccess⟩
      exact .number hnumber haccess
    · rintro (_ | _ | ⟨hnumber, haccess⟩)
      · exact absurd ⟨true, rfl⟩ hboolean
      · exact absurd ⟨false, rfl⟩ hboolean
      · exact ⟨_, hnumber, haccess⟩

theorem decodes_readMethodItem (value : Value) :
    Decodes (readMethodItem value) fun item => item.IsToldBy value := by
  refine Value.decodes_structure (fun item value => ?_) fun | ⟨[id, mode], _⟩ => ?_
  · rintro ⟨_, _, rfl, _⟩
    exact ⟨⟨_, rfl⟩, rfl⟩
  · refine ((id.decodes_toInt8 _).bind fun _ _ => (decodes_readMethodAccess mode).bind
      fun _ _ => decodes_pure _).of_iff fun item => ?_
    constructor
    · rintro ⟨_, hid, _, hmode, rfl⟩
      exact ⟨_, _, rfl, hid, hmode⟩
    · rintro ⟨_, _, heq, hid, hmode⟩
      cases heq
      exact ⟨_, hid, _, hmode, rfl⟩

theorem decodes_readRights? (value : Value) :
    Decodes (readRights? value) fun rights => (value = .null ∧ rights = none) ∨
      ∃ told : AccessRights, told.IsToldBy value ∧ rights = some told := by
  unfold readRights?
  split
  · obtain rfl : value = .null := by cases value <;> first | rfl | contradiction
    refine (decodes_pure none).of_iff fun rights => ⟨fun hrights => .inl ⟨rfl, hrights⟩, ?_⟩
    rintro (⟨-, hrights⟩ | ⟨_, ⟨_, _, ⟨⟩, _⟩, _⟩)
    exact hrights
  · rename_i hnull
    have hne : value ≠ .null := by
      rintro rfl
      exact hnull rfl
    have hshape : ∀ (rights : Option AccessRights) (value : Value),
        (∃ told : AccessRights, told.IsToldBy value ∧ rights = some told) →
        ∃ elements : { elements : List Value // elements.length = 2 }, value = .tuple elements := by
      rintro _ _ ⟨_, ⟨_, _, rfl, _⟩, _⟩
      exact ⟨⟨_, rfl⟩, rfl⟩
    refine (Value.decodes_structure hshape fun | ⟨[attributes, methods], _⟩ => ?_).of_iff
      fun rights => by simp [hne]
    · refine ((attributes.decodes_toElements _).bind fun elements _ =>
        (decodes_mapM decodes_readAttributeItem elements).bind fun _ _ =>
        (methods.decodes_toElements _).bind fun elements _ =>
        (decodes_mapM decodes_readMethodItem elements).bind fun _ _ =>
        decodes_pure _).of_iff fun rights => ?_
      constructor
      · rintro ⟨_, hattributes, _, htold, _, hmethods, _, htold', rfl⟩
        exact ⟨_, ⟨_, _, rfl, ⟨_, hattributes, htold⟩, _, hmethods, htold'⟩, rfl⟩
      · rintro ⟨_, ⟨_, _, heq, ⟨_, hattributes, htold⟩, _, hmethods, htold'⟩, rfl⟩
        cases heq
        exact ⟨_, hattributes, _, htold, _, hmethods, _, htold', rfl⟩

theorem decodes_readObject (value : Value) :
    Decodes (readObject value) fun item => item.IsToldBy value := by
  refine Value.decodes_structure (fun item value => ?_) fun
    | ⟨[classId, version, logicalName, rights], _⟩ => ?_
  · rintro ⟨_, _, _, rfl, _⟩
    exact ⟨⟨_, rfl⟩, rfl⟩
  · refine ((classId.decodes_toUInt16 _).bind fun _ _ => (version.decodes_toUInt8 _).bind fun _ _ =>
      (logicalName.decodes_toLogicalName _).bind fun _ _ => (decodes_readRights? rights).bind
        fun _ _ => decodes_pure _).of_iff fun item => ?_
    constructor
    · rintro ⟨_, hclass, _, hversion, _, rfl, _, hrights, rfl⟩
      exact ⟨_, _, _, rfl, hclass, hversion, hrights⟩
    · rintro ⟨_, _, _, heq, hclass, hversion, hrights⟩
      cases heq
      exact ⟨_, hclass, _, hversion, _, rfl, _, hrights, rfl⟩

theorem decodes_readObjects (value : Value) (context : String) :
    Decodes (readObjects value context) (value.Lists ObjectItem.IsToldBy) :=
  (value.decodes_toElements context).bind fun elements _ =>
    decodes_mapM decodes_readObject elements

end HeadEnd.Association
