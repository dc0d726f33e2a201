import HeadEnd.Session.Reading

/-! # Object lists

The objects that a meter shows in an association, with the access that the association has to the
attributes and methods of each.
-/

namespace HeadEnd.Association

/-- What may be done with an attribute. -/
inductive AttributeAccess where
  | noAccess
  | readOnly
  | writeOnly
  | readAndWrite
  | authenticatedReadOnly
  | authenticatedWriteOnly
  | authenticatedReadAndWrite
  deriving DecidableEq

namespace AttributeAccess

/-- Every access, in the order of the codes. -/
def all : List AttributeAccess :=
  [noAccess, readOnly, writeOnly, readAndWrite, authenticatedReadOnly, authenticatedWriteOnly,
    authenticatedReadAndWrite]

def name : AttributeAccess → String
  | noAccess => "NO_ACCESS"
  | readOnly => "READ_ONLY"
  | writeOnly => "WRITE_ONLY"
  | readAndWrite => "READ_AND_WRITE"
  | authenticatedReadOnly => "AUTHENTICATED_READ_ONLY"
  | authenticatedWriteOnly => "AUTHENTICATED_WRITE_ONLY"
  | authenticatedReadAndWrite => "AUTHENTICATED_READ_AND_WRITE"

def ofCode? (code : Int64) : Option AttributeAccess :=
  if 0 ≤ code.toInt then all[code.toInt.toNat]? else none

end AttributeAccess

/-- What may be done with a method. -/
inductive MethodAccess where
  | noAccess
  | allowed
  | authenticated
  deriving DecidableEq

namespace MethodAccess

def all : List MethodAccess :=
  [noAccess, allowed, authenticated]

def name : MethodAccess → String
  | noAccess => "NO_ACCESS"
  | allowed => "ACCESS"
  | authenticated => "AUTHENTICATED_ACCESS"

def ofCode? (code : Int64) : Option MethodAccess :=
  if 0 ≤ code.toInt then all[code.toInt.toNat]? else none

end MethodAccess

/-- The access to one attribute. -/
structure AttributeItem where
  attributeId : Int8
  access : AttributeAccess
  /-- The selectors by which part of the attribute can be read. -/
  selectors : List UInt8
  deriving DecidableEq

structure MethodItem where
  methodId : Int8
  access : MethodAccess
  deriving DecidableEq

structure AccessRights where
  attributes : List AttributeItem
  methods : List MethodItem
  deriving DecidableEq

/-- An object of an association. -/
structure ObjectItem where
  classId : UInt16
  version : UInt8
  logicalName : ObisCode
  rights : Option AccessRights
  deriving DecidableEq

/-! ## Reading -/

/-- The access to an attribute that a structure of three elements holds. -/
def readAttributeItem (value : Value) : Outcome AttributeItem := do
  match ← value.toStructure "attribute access item" 3 with
  | ⟨[id, mode, selectors], _⟩ =>
    let attributeId ← id.toNarrow "attribute id"
    let code ← mode.toInteger "attribute access mode"
    let some access := AttributeAccess.ofCode? code
      | throw (.decode "attribute access mode" (.unknownCode .accessMode code))
    let selectors ← selectors.toElements "access selectors"
    let selectors ← selectors.mapM fun selector => selector.toNarrow "access selector"
    return { attributeId, access, selectors }

/-- The access to a method. Some meters tell only whether there is any. -/
def readMethodAccess (value : Value) : Outcome MethodAccess :=
  match value with
  | .boolean true => .ok .allowed
  | .boolean false => .ok .noAccess
  | value => do
    let code ← value.toInteger "method access mode"
    match MethodAccess.ofCode? code with
    | some access => return access
    | none => throw (.decode "method access mode" (.unknownCode .accessMode code))

def readMethodItem (value : Value) : Outcome MethodItem := do
  match ← value.toStructure "method access item" 2 with
  | ⟨[id, mode], _⟩ =>
    let methodId ← id.toNarrow "method id"
    let access ← readMethodAccess mode
    return { methodId, access }

def readRights? (value : Value) : Outcome (Option AccessRights) := do
  if value.isNull then return none
  match ← value.toStructure "access rights" 2 with
  | ⟨[attributes, methods], _⟩ =>
    let attributes ← (← attributes.toElements "attribute access").mapM readAttributeItem
    let methods ← (← methods.toElements "method access").mapM readMethodItem
    return some { attributes, methods }

def readObject (value : Value) : Outcome ObjectItem := do
  match ← value.toStructure "object list element" 4 with
  | ⟨[classId, version, logicalName, rights], _⟩ =>
    let classId ← classId.toNarrow "class id"
    let version ← version.toNarrow "version"
    let logicalName ← logicalName.toLogicalName "logical name"
    let rights ← readRights? rights
    return { classId, version, logicalName, rights }

def readObjects (value : Value) (context : String) : Outcome (List ObjectItem) := do
  (← value.toElements context).mapM readObject

/-- The attribute that holds the objects of the association in use. -/
def objectListAddress : AttributeAddress :=
  { classId := 15, name := ⟨0, 0, 40, 0, 0, 255⟩, attributeId := 2 }

def fetchObjects : Operation (List ObjectItem) := do
  Operation.describe
    ("RetrieveAssociationLnObjects, retrieve attribute: " ++ objectListAddress.text)
  let value ← Operation.readValue "association LN objects" objectListAddress
  readObjects value "association LN object list"

end HeadEnd.Association
