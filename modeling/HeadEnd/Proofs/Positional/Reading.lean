import HeadEnd.Proofs.Association.Reading
import HeadEnd.Proofs.Positional.Description
import HeadEnd.Proofs.Push.Reading

/-! # Reading structures by position

The readers of structures, with the elements picked by their position once their number has been
looked at. Each reads what the reader that takes the structure apart by its form reads, and fails as
it does.
-/

namespace HeadEnd.Breakable

variable {α : Type}

/-! ## Structures and lists -/

def toStructure (value : Value) (context : String) (count : Nat) :
    Breakable Outcome (List Value) :=
  Subtype.val <$> reading (value.toStructure context count)

/-- What goes on with a structure may pick its elements by position. -/
theorem toStructure_bind {value : Value} {context : String} {count : Nat}
    {byForm : { elements : List Value // elements.length = count } → Outcome α}
    {byPosition : List Value → Breakable Outcome α}
    (h : ∀ elements, byPosition elements.val = intact (byForm elements)) :
    toStructure value context count >>= byPosition =
      intact (value.toStructure context count >>= byForm) := by
  rw [toStructure, reading_eq, intact_bind, bind_map_left]
  exact bind_congr h

/-- What is read of the elements of a list. -/
def readElements (value : Value) (context : String) (read : Value → Breakable Outcome α) :
    Breakable Outcome (List α) := do
  (← reading (value.toElements context)).mapM read

theorem readElements_eq {byForm : Value → Outcome α} {byPosition : Value → Breakable Outcome α}
    (h : ∀ element, byPosition element = intact (byForm element)) (value : Value)
    (context : String) :
    readElements value context byPosition =
      intact (value.toElements context >>= fun elements => elements.mapM byForm) := by
  obtain rfl : byPosition = fun element => intact (byForm element) := funext h
  simp only [readElements, reading_eq, intact_bind, intact_mapM]

/-! ## Date-times -/

def toDateTime? (value : Value) (context : String) :
    Breakable Outcome (Option CosemDateTime) :=
  match value with
  | .octets bytes =>
    if bytes.length = 12 then do
      match ← decodeDateTime bytes with
      | .ok t => return some t
      | .error fault => fail (.decode context (.dateTime fault))
    else fail (.unexpected context .dateTimeBytes (.octets bytes))
  | value => reading (value.toDateTime? context)

theorem toDateTime?_eq (value : Value) (context : String) :
    toDateTime? value context = intact (value.toDateTime? context) := by
  unfold toDateTime?
  split
  · unfold Value.toDateTime?
    dsimp only
    split
    · rw [decodeDateTime_eq, pure_bind]
      cases CosemDateTime.decode _ with
      | ok t => rfl
      | error fault => exact fail_eq _
    · exact fail_eq _
  · exact reading_eq _

def toDateTime (value : Value) (context : String) : Breakable Outcome CosemDateTime := do
  match ← toDateTime? value context with
  | some t => return t
  | none => fail (.unexpected context .dateTime value)

theorem toDateTime_eq (value : Value) (context : String) :
    toDateTime value context = intact (value.toDateTime context) := by
  rw [toDateTime, Value.toDateTime, toDateTime?_eq, intact_bind]
  refine bind_congr fun t? => ?_
  cases t? with
  | some t => rfl
  | none => exact fail_eq _

/-! ## Push setups -/

def toPushDestination (value : Value) (context : String) : Breakable Outcome PushDestination := do
  let elements ← toStructure value context 3
  let service ← reading ((← elementAt elements 0).toCode .transportService TransportService.ofCode?
    ("Transport Service from " ++ context))
  let destination ← reading ((← elementAt elements 1).toText ("Destination from " ++ context))
  let message ← reading ((← elementAt elements 2).toCode .messageType MessageType.ofCode?
    ("Message from " ++ context))
  return ⟨service, destination, message⟩

theorem toPushDestination_eq (value : Value) (context : String) :
    toPushDestination value context = intact (value.toPushDestination context) := by
  rw [Value.toPushDestination_eq]
  refine toStructure_bind fun
    | ⟨[service, destination, message], _⟩ => ?_
  simp only [elementAt, List.getElem?_cons_zero, List.getElem?_cons_succ, pure_bind, reading_eq,
    intact_bind, intact_pure]

def toPushWindow (value : Value) (context : String) : Breakable Outcome PushWindow := do
  let elements ← toStructure value context 2
  let start ← toDateTime (← elementAt elements 0) ("Start Time from " ++ context)
  let finish ← toDateTime (← elementAt elements 1) ("End Time from " ++ context)
  return ⟨start, finish⟩

theorem toPushWindow_eq (value : Value) (context : String) :
    toPushWindow value context = intact (value.toPushWindow context) := by
  refine toStructure_bind fun
    | ⟨[start, finish], _⟩ => ?_
  simp only [elementAt, List.getElem?_cons_zero, List.getElem?_cons_succ, pure_bind, toDateTime_eq,
    intact_bind, intact_pure]

def toPushWindows (value : Value) (context : String) : Breakable Outcome (List PushWindow) :=
  readElements value context fun element =>
    toPushWindow element ("Window Element from " ++ context)

theorem toPushWindows_eq (value : Value) (context : String) :
    toPushWindows value context = intact (value.toPushWindows context) :=
  readElements_eq (fun element => toPushWindow_eq element _) value context

def toObjectDefinition (value : Value) (context : String) : Breakable Outcome ObjectDefinition := do
  let elements ← toStructure value context 4
  let classId ← reading ((← elementAt elements 0).toNarrow ("Class ID from " ++ context))
  let logicalName ←
    reading ((← elementAt elements 1).toLogicalName ("Logical Name from " ++ context))
  let attributeIndex ←
    reading ((← elementAt elements 2).toNarrow ("Attribute Index from " ++ context))
  let dataIndex ← reading ((← elementAt elements 3).toNarrow ("Data Index from " ++ context))
  return { classId, logicalName, attributeIndex, dataIndex }

theorem toObjectDefinition_eq (value : Value) (context : String) :
    toObjectDefinition value context = intact (value.toObjectDefinition context) := by
  refine toStructure_bind fun
    | ⟨[classId, logicalName, attributeIndex, dataIndex], _⟩ => ?_
  simp only [elementAt, List.getElem?_cons_zero, List.getElem?_cons_succ, pure_bind, reading_eq,
    intact_bind, intact_pure]

def toObjectDefinitions (value : Value) (context : String) :
    Breakable Outcome (List ObjectDefinition) :=
  readElements value context fun element =>
    toObjectDefinition element ("Object Definition from " ++ context)

theorem toObjectDefinitions_eq (value : Value) (context : String) :
    toObjectDefinitions value context = intact (value.toObjectDefinitions context) :=
  readElements_eq (fun element => toObjectDefinition_eq element _) value context

/-! ## Object lists -/

open Association

def readAttributeItem (value : Value) : Breakable Outcome AttributeItem := do
  let elements ← toStructure value "attribute access item" 3
  let attributeId ← reading ((← elementAt elements 0).toNarrow "attribute id")
  let access ← reading ((← elementAt elements 1).toCode .accessMode AttributeAccess.ofCode?
    "attribute access mode")
  let selectors ← readElements (← elementAt elements 2) "access selectors" fun selector =>
    reading (selector.toNarrow "access selector")
  return { attributeId, access, selectors }

theorem readAttributeItem_eq (value : Value) :
    readAttributeItem value = intact (Association.readAttributeItem value) := by
  rw [Association.readAttributeItem_eq]
  refine toStructure_bind fun
    | ⟨[id, mode, selectors], _⟩ => ?_
  simp only [elementAt, List.getElem?_cons_zero, List.getElem?_cons_succ, pure_bind, reading_eq,
    readElements, bind_assoc, intact_bind, intact_pure, intact_mapM]

def readMethodItem (value : Value) : Breakable Outcome MethodItem := do
  let elements ← toStructure value "method access item" 2
  let methodId ← reading ((← elementAt elements 0).toNarrow "method id")
  let access ← reading (readMethodAccess (← elementAt elements 1))
  return { methodId, access }

theorem readMethodItem_eq (value : Value) :
    readMethodItem value = intact (Association.readMethodItem value) := by
  refine toStructure_bind fun
    | ⟨[id, mode], _⟩ => ?_
  simp only [elementAt, List.getElem?_cons_zero, List.getElem?_cons_succ, pure_bind, reading_eq,
    intact_bind, intact_pure]

def readRights? (value : Value) : Breakable Outcome (Option AccessRights) :=
  if value.isNull then return none
  else do
    let elements ← toStructure value "access rights" 2
    let attributes ← readElements (← elementAt elements 0) "attribute access" readAttributeItem
    let methods ← readElements (← elementAt elements 1) "method access" readMethodItem
    return some { attributes, methods }

theorem readRights?_eq (value : Value) :
    readRights? value = intact (Association.readRights? value) := by
  unfold readRights? Association.readRights?
  split
  · rfl
  · refine toStructure_bind fun
      | ⟨[attributes, methods], _⟩ => ?_
    simp only [elementAt, List.getElem?_cons_zero, List.getElem?_cons_succ, pure_bind,
      readElements_eq readAttributeItem_eq, readElements_eq readMethodItem_eq, bind_assoc,
      intact_bind, intact_pure]

def readObject (value : Value) : Breakable Outcome ObjectItem := do
  let elements ← toStructure value "object list element" 4
  let classId ← reading ((← elementAt elements 0).toNarrow "class id")
  let version ← reading ((← elementAt elements 1).toNarrow "version")
  let logicalName ← reading ((← elementAt elements 2).toLogicalName "logical name")
  let rights ← readRights? (← elementAt elements 3)
  return { classId, version, logicalName, rights }

theorem readObject_eq (value : Value) :
    readObject value = intact (Association.readObject value) := by
  refine toStructure_bind fun
    | ⟨[classId, version, logicalName, rights], _⟩ => ?_
  simp only [elementAt, List.getElem?_cons_zero, List.getElem?_cons_succ, pure_bind, reading_eq,
    readRights?_eq, intact_bind, intact_pure]

def readObjects (value : Value) (context : String) : Breakable Outcome (List ObjectItem) :=
  readElements value context readObject

theorem readObjects_eq (value : Value) (context : String) :
    readObjects value context = intact (Association.readObjects value context) :=
  readElements_eq readObject_eq value context

end HeadEnd.Breakable
