import HeadEnd.Cosem.ResultCode
import HeadEnd.Failure.Cause
import HeadEnd.Failure.Misreading

/-! # Failures

Everything that an operation can fail with. A failure of the connection ends the session; after any
other failure the session can be used on.
-/

namespace HeadEnd

/-- Why an operation failed. -/
inductive Failure where
  /-- The connection to the meter is lost. -/
  | connectionLost (cause : String)
  /-- The meter did not answer in time; the connection is lost as well. -/
  | timeout
  | protocol (fault : ProtocolFault)
  /-- A value, named by `context`, could not be read. -/
  | decode (context : String) (misreading : Misreading)
  /-- The meter refused to read or write an attribute. -/
  | accessRefused (context : String) (result : AccessResult)
  /-- The meter refused to carry out a method. -/
  | methodRefused (context : String) (result : MethodResult)
  | configuration (fault : ConfigurationFault)
  | encryption (fault : EncryptionFault)
  | security (fault : SecurityFault)
  | invalidData (fault : DataFault)

namespace Failure

def message : Failure → String
  | connectionLost cause => "Connection error: " ++ cause
  | timeout => "Timeout"
  | protocol fault => "Protocol error: " ++ fault.message
  | decode context misreading => "Decode error in " ++ context ++ ": " ++ misreading.message
  | accessRefused context result =>
    "No success retrieving " ++ context ++ ": AccessResultCode = " ++ result.label
  | methodRefused context result =>
    "No success invoking " ++ context ++ ": MethodResultCode = " ++ result.label
  | configuration fault => "Configuration error: " ++ fault.message
  | encryption fault => "Encryption error: " ++ fault.message
  | security fault => "Security error: " ++ fault.message
  | invalidData fault => "Invalid data: " ++ fault.message

/-- The name of the family a failure belongs to. -/
def family : Failure → String
  | connectionLost _ => "ConnectionError"
  | timeout => "TimeoutError"
  | protocol _ => "ProtocolError"
  | decode _ _ => "DecodeError"
  | accessRefused _ _ => "AccessResultError"
  | methodRefused _ _ => "MethodResultError"
  | configuration _ => "ConfigurationError"
  | encryption _ => "EncryptionError"
  | security _ => "SecurityError"
  | invalidData _ => "InvalidDataError"

def isConnectionLoss : Failure → Bool
  | connectionLost _ => true
  | timeout => true
  | _ => false

/-- The meter answered, but not as expected. -/
def isProtocol : Failure → Bool
  | protocol _ => true
  | decode _ _ => true
  | accessRefused _ _ => true
  | methodRefused _ _ => true
  | _ => false

/-- The result code that a meter refused with. -/
def code? : Failure → Option UInt8
  | accessRefused _ result => some result.code
  | methodRefused _ result => some result.code
  | _ => none

/-- What an operator is told, unless the failure means little without its surroundings. -/
def userMessage? : Failure → Option String
  | protocol fault => some fault.message
  | configuration fault => some fault.message
  | accessRefused context result => some (accessRefused context result).message
  | methodRefused context result => some (methodRefused context result).message
  | _ => none

end Failure

end HeadEnd
