import HeadEnd.Text.Screaming

/-! # Result codes

What a meter reports about a read, a write or a method call. A code that the standard leaves open is
kept as it is.
-/

namespace HeadEnd

/-- The result of reading or writing an attribute. -/
inductive AccessResult where
  | success
  | hardwareFault
  | temporaryFailure
  | readWriteDenied
  | objectUndefined
  | objectClassInconsistent
  | objectUnavailable
  | typeUnmatched
  | scopeOfAccessViolated
  | dataBlockUnavailable
  | longGetAborted
  | noLongGetInProgress
  | longSetAborted
  | noLongSetInProgress
  | dataBlockNumberInvalid
  | otherReason
  /-- A code that the standard does not define. -/
  | unknown (code : UInt8)
  deriving DecidableEq

namespace AccessResult

def ofCode (code : UInt8) : AccessResult :=
  match code.toNat with
  | 0 => success
  | 1 => hardwareFault
  | 2 => temporaryFailure
  | 3 => readWriteDenied
  | 4 => objectUndefined
  | 9 => objectClassInconsistent
  | 11 => objectUnavailable
  | 12 => typeUnmatched
  | 13 => scopeOfAccessViolated
  | 14 => dataBlockUnavailable
  | 15 => longGetAborted
  | 16 => noLongGetInProgress
  | 17 => longSetAborted
  | 18 => noLongSetInProgress
  | 19 => dataBlockNumberInvalid
  | 250 => otherReason
  | _ => unknown code

def code : AccessResult → UInt8
  | success => 0
  | hardwareFault => 1
  | temporaryFailure => 2
  | readWriteDenied => 3
  | objectUndefined => 4
  | objectClassInconsistent => 9
  | objectUnavailable => 11
  | typeUnmatched => 12
  | scopeOfAccessViolated => 13
  | dataBlockUnavailable => 14
  | longGetAborted => 15
  | noLongGetInProgress => 16
  | longSetAborted => 17
  | noLongSetInProgress => 18
  | dataBlockNumberInvalid => 19
  | otherReason => 250
  | unknown code => code

def named : List AccessResult :=
  [success, hardwareFault, temporaryFailure, readWriteDenied, objectUndefined,
    objectClassInconsistent, objectUnavailable, typeUnmatched, scopeOfAccessViolated,
    dataBlockUnavailable, longGetAborted, noLongGetInProgress, longSetAborted, noLongSetInProgress,
    dataBlockNumberInvalid, otherReason]

/-- The name of a result; all undefined codes share one. -/
def name : AccessResult → String
  | success => "Success"
  | hardwareFault => "HardwareFault"
  | temporaryFailure => "TemporaryFailure"
  | readWriteDenied => "ReadWriteDenied"
  | objectUndefined => "ObjectUndefined"
  | objectClassInconsistent => "ObjectClassInconsistent"
  | objectUnavailable => "ObjectUnavailable"
  | typeUnmatched => "TypeUnmatched"
  | scopeOfAccessViolated => "ScopeOfAccessViolated"
  | dataBlockUnavailable => "DataBlockUnavailable"
  | longGetAborted => "LongGetAborted"
  | noLongGetInProgress => "NoLongGetInProgress"
  | longSetAborted => "LongSetAborted"
  | noLongSetInProgress => "NoLongSetInProgress"
  | dataBlockNumberInvalid => "DataBlockNumberInvalid"
  | otherReason => "OtherReason"
  | unknown _ => "Unknown"

/-- How diagnostics show a result. -/
def label : AccessResult → String
  | unknown code => "UNKNOWN(" ++ toString code ++ ")"
  | result => Screaming.ofName result.name

def isSuccess : AccessResult → Bool
  | success => true
  | _ => false

theorem code_ofCode (code : UInt8) : (ofCode code).code = code := by
  unfold ofCode
  split
  case h_17 => rfl
  all_goals
    next h => exact UInt8.toNat_inj.mp h.symm

end AccessResult

/-- The result of a method call. -/
inductive MethodResult where
  | success
  | hardwareFault
  | temporaryFailure
  | readWriteDenied
  | objectUndefined
  | objectClassInconsistent
  | objectUnavailable
  | typeUnmatched
  | scopeOfAccessViolated
  | dataBlockUnavailable
  | longActionAborted
  | noLongActionInProgress
  | otherReason
  /-- A code that the standard does not define. -/
  | unknown (code : UInt8)
  deriving DecidableEq

namespace MethodResult

def ofCode (code : UInt8) : MethodResult :=
  match code.toNat with
  | 0 => success
  | 1 => hardwareFault
  | 2 => temporaryFailure
  | 3 => readWriteDenied
  | 4 => objectUndefined
  | 9 => objectClassInconsistent
  | 11 => objectUnavailable
  | 12 => typeUnmatched
  | 13 => scopeOfAccessViolated
  | 14 => dataBlockUnavailable
  | 15 => longActionAborted
  | 16 => noLongActionInProgress
  | 250 => otherReason
  | _ => unknown code

def code : MethodResult → UInt8
  | success => 0
  | hardwareFault => 1
  | temporaryFailure => 2
  | readWriteDenied => 3
  | objectUndefined => 4
  | objectClassInconsistent => 9
  | objectUnavailable => 11
  | typeUnmatched => 12
  | scopeOfAccessViolated => 13
  | dataBlockUnavailable => 14
  | longActionAborted => 15
  | noLongActionInProgress => 16
  | otherReason => 250
  | unknown code => code

def named : List MethodResult :=
  [success, hardwareFault, temporaryFailure, readWriteDenied, objectUndefined,
    objectClassInconsistent, objectUnavailable, typeUnmatched, scopeOfAccessViolated,
    dataBlockUnavailable, longActionAborted, noLongActionInProgress, otherReason]

/-- The name of a result; all undefined codes share one. -/
def name : MethodResult → String
  | success => "Success"
  | hardwareFault => "HardwareFault"
  | temporaryFailure => "TemporaryFailure"
  | readWriteDenied => "ReadWriteDenied"
  | objectUndefined => "ObjectUndefined"
  | objectClassInconsistent => "ObjectClassInconsistent"
  | objectUnavailable => "ObjectUnavailable"
  | typeUnmatched => "TypeUnmatched"
  | scopeOfAccessViolated => "ScopeOfAccessViolated"
  | dataBlockUnavailable => "DataBlockUnavailable"
  | longActionAborted => "LongActionAborted"
  | noLongActionInProgress => "NoLongActionInProgress"
  | otherReason => "OtherReason"
  | unknown _ => "Unknown"

def label : MethodResult → String
  | unknown code => "UNKNOWN(" ++ toString code ++ ")"
  | result => Screaming.ofName result.name

def isSuccess : MethodResult → Bool
  | success => true
  | _ => false

theorem code_ofCode (code : UInt8) : (ofCode code).code = code := by
  unfold ofCode
  split
  case h_14 => rfl
  all_goals
    next h => exact UInt8.toNat_inj.mp h.symm

end MethodResult

end HeadEnd
