import HeadEnd.Proofs.Cosem.Reading
import HeadEnd.Push.Destination
import HeadEnd.Push.ObjectDefinition
import HeadEnd.Push.Window

/-! # What is read of a push setup

Which values hold a destination, a window or the definition of an object, and that these values are
read and no others.
-/

namespace HeadEnd

/-! ## Codes -/

/-- A code that is left to manufacturers lies among those that are. -/
def TransportService.IsDocumented : TransportService → Prop
  | manufacturerSpecific code => 200 ≤ code.toNat
  | _ => True

def MessageType.IsDocumented : MessageType → Prop
  | manufacturerSpecific code => 128 ≤ code.toNat
  | _ => True

theorem TransportService.ofCode?_eq_some_iff {code : Int64} {service : TransportService} :
    ofCode? code = some service ↔ code.toInt = service.code.toNat ∧ service.IsDocumented := by
  constructor
  · intro h
    unfold ofCode? at h
    split at h
    case h_9 =>
      split at h
      · rename_i hrange
        cases h
        have hbyte : (UInt8.ofNat code.toInt.toNat).toNat = code.toInt.toNat :=
          UInt8.toNat_ofNat_of_lt' (show _ < 256 by omega)
        simp only [TransportService.code, IsDocumented, hbyte]
        omega
      · cases h
    all_goals
      rename_i hcode
      cases h
      exact ⟨hcode, trivial⟩
  · rintro ⟨hcode, hdocumented⟩
    cases service with
    | manufacturerSpecific byte =>
        have hbyte := byte.toNat_lt
        change code.toInt = byte.toNat at hcode
        change 200 ≤ byte.toNat at hdocumented
        unfold ofCode?
        split
        case h_9 => rw [if_pos (by omega), hcode, Int.toNat_natCast, UInt8.ofNat_toNat]
        all_goals omega
    | _ => simp [ofCode?, hcode, TransportService.code]

theorem MessageType.ofCode?_eq_some_iff {code : Int64} {message : MessageType} :
    ofCode? code = some message ↔ code.toInt = message.code.toNat ∧ message.IsDocumented := by
  constructor
  · intro h
    unfold ofCode? at h
    split at h
    case h_3 =>
      split at h
      · rename_i hrange
        cases h
        have hbyte : (UInt8.ofNat code.toInt.toNat).toNat = code.toInt.toNat :=
          UInt8.toNat_ofNat_of_lt' (show _ < 256 by omega)
        simp only [MessageType.code, IsDocumented, hbyte]
        omega
      · cases h
    all_goals
      rename_i hcode
      cases h
      exact ⟨hcode, trivial⟩
  · rintro ⟨hcode, hdocumented⟩
    cases message with
    | manufacturerSpecific byte =>
        have hbyte := byte.toNat_lt
        change code.toInt = byte.toNat at hcode
        change 128 ≤ byte.toNat at hdocumented
        unfold ofCode?
        split
        case h_3 => rw [if_pos (by omega), hcode, Int.toNat_natCast, UInt8.ofNat_toNat]
        all_goals omega
    | _ => simp [ofCode?, hcode, MessageType.code]

theorem TransportService.exists_ofCode?_iff {number : Option Int} {service : TransportService} :
    (∃ code : Int64, number = some code.toInt ∧ ofCode? code = some service) ↔
      number = some (service.code.toNat : Int) ∧ service.IsDocumented := by
  simp only [ofCode?_eq_some_iff, Value.exists_toInt_eq_iff]

theorem MessageType.exists_ofCode?_iff {number : Option Int} {message : MessageType} :
    (∃ code : Int64, number = some code.toInt ∧ ofCode? code = some message) ↔
      number = some (message.code.toNat : Int) ∧ message.IsDocumented := by
  simp only [ofCode?_eq_some_iff, Value.exists_toInt_eq_iff]

/-! ## Values -/

def ObjectDefinition.IsToldBy (d : ObjectDefinition) (value : Value) : Prop :=
  ∃ classId attributeIndex dataIndex,
    value = .tuple [classId, .octets d.logicalName.bytes, attributeIndex, dataIndex] ∧
      classId.number? = some (d.classId.toNat : Int) ∧
      attributeIndex.number? = some d.attributeIndex.toInt ∧
      dataIndex.number? = some (d.dataIndex.toNat : Int)

/-- The structure holds the destination, whose text may be a byte string of any kind. -/
def PushDestination.IsToldBy (d : PushDestination) (value : Value) : Prop :=
  ∃ service destination message, value = .tuple [service, destination, message] ∧
    (service.number? = some (d.service.code.toNat : Int) ∧ d.service.IsDocumented) ∧
    destination.IsTextOf d.destination ∧
    message.number? = some (d.message.code.toNat : Int) ∧ d.message.IsDocumented

def PushWindow.IsToldBy (w : PushWindow) (value : Value) : Prop :=
  ∃ start finish, value = .tuple [start, finish] ∧ w.start.IsToldBy start ∧ w.finish.IsToldBy finish

namespace Value

theorem decodes_toObjectDefinition (value : Value) (context : String) :
    Decodes (value.toObjectDefinition context) fun d => d.IsToldBy value := by
  refine decodes_structure (fun d value => ?_) fun
    | ⟨[classId, logicalName, attributeIndex, dataIndex], _⟩ => ?_
  · rintro ⟨_, _, _, rfl, _⟩
    exact ⟨⟨_, rfl⟩, rfl⟩
  · refine ((classId.decodes_toUInt16 _).bind fun _ _ =>
      (logicalName.decodes_toLogicalName _).bind fun _ _ =>
      (attributeIndex.decodes_toInt8 _).bind fun _ _ =>
      (dataIndex.decodes_toUInt16 _).bind fun _ _ => decodes_pure _).of_iff fun d => ?_
    constructor
    · rintro ⟨_, hclass, _, rfl, _, hattribute, _, hdata, rfl⟩
      exact ⟨_, _, _, rfl, hclass, hattribute, hdata⟩
    · rintro ⟨_, _, _, heq, hclass, hattribute, hdata⟩
      cases heq
      exact ⟨_, hclass, _, rfl, _, hattribute, _, hdata, rfl⟩

theorem decodes_toObjectDefinitions (value : Value) (context : String) :
    Decodes (value.toObjectDefinitions context) (value.Lists ObjectDefinition.IsToldBy) :=
  (value.decodes_toElements context).bind fun elements _ =>
    decodes_mapM (fun element => element.decodes_toObjectDefinition _) elements

/-- A destination is read element by element. -/
theorem toPushDestination_eq (value : Value) (context : String) :
    value.toPushDestination context = value.toStructure context 3 >>= fun
      | ⟨[service, destination, message], _⟩ => do
        let service ← service.toCode .transportService TransportService.ofCode?
          ("Transport Service from " ++ context)
        let destination ← destination.toText ("Destination from " ++ context)
        let message ← message.toCode .messageType MessageType.ofCode? ("Message from " ++ context)
        return ⟨service, destination, message⟩ := by
  refine congrArg (value.toStructure context 3 >>= ·) (funext fun
    | ⟨[service, destination, message], _⟩ => ?_)
  simp only [toCode, toText, bind_assoc]
  refine congrArg (service.toInteger _ >>= ·) (funext fun code => ?_)
  cases TransportService.ofCode? code with
  | none => rfl
  | some service =>
      refine congrArg (destination.toText? _ >>= ·) (funext fun text => ?_)
      cases text with
      | none => rfl
      | some text =>
          refine congrArg (message.toInteger _ >>= ·) (funext fun code => ?_)
          cases MessageType.ofCode? code <;> rfl

theorem decodes_toPushDestination (value : Value) (context : String) :
    Decodes (value.toPushDestination context) fun d => d.IsToldBy value := by
  rw [toPushDestination_eq]
  refine decodes_structure (fun d value => ?_) fun | ⟨[service, destination, message], _⟩ => ?_
  · rintro ⟨_, _, _, rfl, _⟩
    exact ⟨⟨_, rfl⟩, rfl⟩
  · refine ((service.decodes_toCode _ _ _).bind fun _ _ => (destination.decodes_toText _).bind
      fun _ _ => (message.decodes_toCode _ _ _).bind fun _ _ => decodes_pure _).of_iff fun d => ?_
    constructor
    · rintro ⟨_, hservice, _, hdestination, _, hmessage, rfl⟩
      exact ⟨_, _, _, rfl, TransportService.exists_ofCode?_iff.mp hservice, hdestination,
        MessageType.exists_ofCode?_iff.mp hmessage⟩
    · rintro ⟨_, _, _, heq, hservice, hdestination, hmessage⟩
      cases heq
      exact ⟨_, TransportService.exists_ofCode?_iff.mpr hservice, _, hdestination, _,
        MessageType.exists_ofCode?_iff.mpr hmessage, rfl⟩

theorem decodes_toPushWindow (value : Value) (context : String) :
    Decodes (value.toPushWindow context) fun w => w.IsToldBy value := by
  refine decodes_structure (fun w value => ?_) fun | ⟨[start, finish], _⟩ => ?_
  · rintro ⟨_, _, rfl, _⟩
    exact ⟨⟨_, rfl⟩, rfl⟩
  · refine ((start.decodes_toDateTime _).bind fun _ _ =>
      (finish.decodes_toDateTime _).bind fun _ _ => decodes_pure _).of_iff fun w => ?_
    constructor
    · rintro ⟨_, hstart, _, hfinish, rfl⟩
      exact ⟨_, _, rfl, hstart, hfinish⟩
    · rintro ⟨_, _, heq, hstart, hfinish⟩
      cases heq
      exact ⟨_, hstart, _, hfinish, rfl⟩

theorem decodes_toPushWindows (value : Value) (context : String) :
    Decodes (value.toPushWindows context) (value.Lists PushWindow.IsToldBy) :=
  (value.decodes_toElements context).bind fun elements _ =>
    decodes_mapM (fun element => element.decodes_toPushWindow _) elements

end Value

end HeadEnd
