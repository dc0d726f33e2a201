/-! # Kinds of keys

What a security key of a meter is for, and the number by which a key transfer names it.
-/

namespace HeadEnd

/-- What a security key is for. -/
inductive KeyKind where
  /-- Encrypts other keys, and so authorises changing them. -/
  | master
  | authentication
  | encryption
  deriving DecidableEq

namespace KeyKind

def all : List KeyKind :=
  [master, authentication, encryption]

def name : KeyKind → String
  | master => "Master"
  | authentication => "Authentication"
  | encryption => "Encryption"

/-- How messages show a kind. -/
def label : KeyKind → String
  | master => "E_METER_MASTER"
  | authentication => "E_METER_AUTHENTICATION"
  | encryption => "E_METER_ENCRYPTION"

end KeyKind

/-- The role of a key in a key transfer. -/
inductive KeyRole where
  | globalUnicastEncryption
  | globalBroadcastEncryption
  | authentication
  | master
  deriving DecidableEq

namespace KeyRole

def id : KeyRole → UInt8
  | globalUnicastEncryption => 0
  | globalBroadcastEncryption => 1
  | authentication => 2
  | master => 3

def ofId? (id : UInt8) : Option KeyRole :=
  match id.toNat with
  | 0 => some globalUnicastEncryption
  | 1 => some globalBroadcastEncryption
  | 2 => some authentication
  | 3 => some master
  | _ => none

def name : KeyRole → String
  | globalUnicastEncryption => "GlobalUnicastEncryptionKey"
  | globalBroadcastEncryption => "GlobalBroadcastEncryptionKey"
  | authentication => "AuthenticationKey"
  | master => "MasterKey"

end KeyRole

end HeadEnd
