import HeadEnd.Cosem.ObisCode
import HeadEnd.Cosem.Value
import HeadEnd.Key.Kind
import HeadEnd.Push.Target
import HeadEnd.Request.Kind

/-! # Causes of failures

What went wrong, one type for each family of failures. A cause that comes from the world outside is
kept in its own words.
-/

namespace HeadEnd

/-- A meter, or its record, is not in the state that an operation needs. -/
inductive ProtocolFault where
  /-- A read of a list was answered with a different number of results. -/
  | resultCount (expected actual : Nat)
  /-- A command was given a request of another kind. -/
  | misdirected (command : String) (kind : RequestKind)
  | noValidKey (kind : KeyKind) (device : String)
  | noNewKey (kind : KeyKind) (device : String)
  | noPushDestination (target : PushTarget)
  | noAdministrativeStatus
  | stated (words : String)

def ProtocolFault.message : ProtocolFault → String
  | resultCount expected actual =>
    "Expected " ++ toString expected ++ " results reading with list, got " ++ toString actual
  | misdirected command kind => command ++ " cannot handle bundle request " ++ kind.name
  | noValidKey kind device => "No valid " ++ kind.label ++ " key for device " ++ device
  | noNewKey kind device => "No new " ++ kind.label ++ " key to promote for device " ++ device
  | noPushDestination target =>
    "Error setting " ++ target.label ++ " push setup data. No destination and method data"
  | noAdministrativeStatus => "Received no administrative status"
  | stated words => words

/-- An operation was asked for something that is not supported. -/
inductive ConfigurationFault where
  /-- Channels are numbered from 1 to 4. -/
  | channel (number : UInt8)
  | tooManySpecialDays (count : Nat)
  | irreplaceableKey (kind : KeyKind)
  | timeZoneOffset (minutes : Int16)
  /-- The command answers no kind of request. -/
  | standaloneCommand (command : String)
  /-- Another command answers the kind of request already. -/
  | kindTaken (command : String) (kind : RequestKind) (holder : String)
  | stated (words : String)

def ConfigurationFault.message : ConfigurationFault → String
  | channel number => "Channel " ++ toString number ++ " not supported, expected 1 to 4"
  | tooManySpecialDays count => "Too many special days: " ++ toString count
  | irreplaceableKey kind => "Replacing the " ++ kind.label ++ " key is not supported"
  | timeZoneOffset minutes => "Time zone offset " ++ toString minutes.toInt ++ " out of range"
  | standaloneCommand command =>
    command ++ " cannot be registered, it does not handle bundle requests"
  | kindTaken command kind holder =>
    command ++ " cannot be registered for " ++ kind.name ++ ", already handled by " ++ holder
  | stated words => words

/-- Stored key material cannot be opened. -/
inductive EncryptionFault where
  /-- The data leave no room for more than the nonce. -/
  | tooShort (count : Nat)
  /-- The tag does not belong to the data. -/
  | notAuthentic
  | stated (words : String)

def EncryptionFault.message : EncryptionFault → String
  | tooShort count => "Encrypted data too short: " ++ toString count ++ " bytes"
  | notAuthentic => "Decryption failed: aead::Error"
  | stated words => words

/-- Data to be put into a key wrap, or taken out of it. -/
inductive WrapInput where
  | plain
  | wrapped
  deriving DecidableEq

def WrapInput.leastSize : WrapInput → Nat
  | plain => 16
  | wrapped => 24

def WrapInput.text : WrapInput → String
  | plain => "Key to wrap"
  | wrapped => "Wrapped key"

/-- Key material cannot be used. -/
inductive SecurityFault where
  /-- A key encryption key has sixteen bytes. -/
  | wrappingKeySize (count : Nat)
  /-- Wrapped data consist of whole blocks of eight bytes. -/
  | wrapInputSize (input : WrapInput) (count : Nat)
  /-- The integrity check of a key wrap failed. -/
  | notIntact
  | unknownKeyId (id : UInt8)
  /-- A storage key has sixteen bytes. -/
  | storageKeySize (count : Nat)
  /-- The record of a key does not hold bytes. -/
  | storedKey (kind : KeyKind) (fault : Hex.Fault)
  | stated (words : String)

def SecurityFault.message : SecurityFault → String
  | wrappingKeySize count => "KEK must be 16 bytes, got " ++ toString count
  | wrapInputSize input count =>
    input.text ++ " must be a multiple of 8 bytes and at least " ++ toString input.leastSize ++
      " bytes, got " ++ toString count
  | notIntact => "Key unwrapping failed: integrity check mismatch"
  | unknownKeyId id => "Invalid key ID: " ++ toString id
  | storageKeySize count =>
    "Invalid AES-128 key length: expected 16 bytes, got " ++ toString count
  | storedKey kind fault => "Stored " ++ kind.label ++ " key is not valid hex: " ++ fault.message
  | stated words => words

/-- Data do not have the form that their type asks for. -/
inductive DataFault where
  | obisCode (fault : ObisCode.Fault)
  | bitString (fault : BitString.Fault)
  | date (fault : CosemDate.Fault)
  | dateTime (fault : CosemDateTime.Fault)
  | array (fault : Value.MixedTypes)
  /-- A year that sixteen bits do not hold. -/
  | year (number : Int)
  /-- An offset that a deviation does not hold. -/
  | offset (minutes : Int)
  /-- Local time at the deviation lies outside the years of the clock arithmetic. -/
  | deviation (minutes : Int16)
  | stated (words : String)

def DataFault.message : DataFault → String
  | obisCode fault => fault.message
  | bitString fault => fault.message
  | date fault => fault.message
  | dateTime fault => fault.message
  | array fault => fault.message
  | year number => "Year " ++ toString number ++ " cannot be encoded"
  | offset minutes => "Offset of " ++ toString minutes ++ " minutes cannot be encoded"
  | deviation minutes => "Deviation " ++ toString minutes.toInt ++ " out of range"
  | stated words => words

end HeadEnd
