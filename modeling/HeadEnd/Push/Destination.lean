import HeadEnd.Cosem.Value.Reading

/-! # Push destinations

Where a meter pushes its messages to, by which service, and how they are encoded.
-/

namespace HeadEnd

/-- The service that carries pushed messages. -/
inductive TransportService where
  | tcp
  | udp
  | ftp
  | smtp
  | sms
  | hdlc
  | mBus
  | zigBee
  /-- The codes from 200 on are left to manufacturers. -/
  | manufacturerSpecific (code : UInt8)
  deriving DecidableEq

namespace TransportService

def ofCode? (code : Int64) : Option TransportService :=
  match code.toInt with
  | 0 => some tcp
  | 1 => some udp
  | 2 => some ftp
  | 3 => some smtp
  | 4 => some sms
  | 5 => some hdlc
  | 6 => some mBus
  | 7 => some zigBee
  | n => if 200 ≤ n ∧ n ≤ 255 then some (manufacturerSpecific (UInt8.ofNat n.toNat)) else none

def code : TransportService → UInt8
  | tcp => 0
  | udp => 1
  | ftp => 2
  | smtp => 3
  | sms => 4
  | hdlc => 5
  | mBus => 6
  | zigBee => 7
  | manufacturerSpecific code => code

end TransportService

/-- The encoding of pushed messages. -/
inductive MessageType where
  | aXdr
  | xml
  /-- The codes from 128 on are left to manufacturers. -/
  | manufacturerSpecific (code : UInt8)
  deriving DecidableEq

namespace MessageType

def ofCode? (code : Int64) : Option MessageType :=
  match code.toInt with
  | 0 => some aXdr
  | 1 => some xml
  | n => if 128 ≤ n ∧ n ≤ 255 then some (manufacturerSpecific (UInt8.ofNat n.toNat)) else none

def code : MessageType → UInt8
  | aXdr => 0
  | xml => 1
  | manufacturerSpecific code => code

end MessageType

/-- Where and how to push. -/
structure PushDestination where
  service : TransportService
  destination : String
  message : MessageType
  deriving DecidableEq

def PushDestination.toValue (d : PushDestination) : Value :=
  .tuple [.enumerate d.service.code, .octets (Utf8.encode d.destination),
    .enumerate d.message.code]

def Value.toPushDestination (value : Value) (context : String) : Outcome PushDestination := do
  let serviceContext := "Transport Service from " ++ context
  let destinationContext := "Destination from " ++ context
  let messageContext := "Message from " ++ context
  match ← value.toStructure context 3 with
  | ⟨[service, destination, message], _⟩ =>
    let serviceCode ← service.toInteger serviceContext
    let some service := TransportService.ofCode? serviceCode
      | throw (.decode serviceContext (.unknownCode .transportService serviceCode))
    let some text ← destination.toText? destinationContext
      | throw (.unexpected destinationContext .destination destination)
    let messageCode ← message.toInteger messageContext
    let some message := MessageType.ofCode? messageCode
      | throw (.decode messageContext (.unknownCode .messageType messageCode))
    return ⟨service, text, message⟩

end HeadEnd
