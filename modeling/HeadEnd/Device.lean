import HeadEnd.Failure.Cause
import HeadEnd.Key.Basic

/-! # Devices

The record of a meter: what it is capable of and its security keys. Changing a key is done in two
steps, so that no key is lost when the outcome of the change is in doubt: the key is stored as new,
and promoted once the meter is known to use it.
-/

namespace HeadEnd

/-- The record of a meter. -/
structure Device where
  identification : String
  hls3Active : Bool := false
  hls4Active : Bool := false
  hls5Active : Bool := true
  /-- The meter answers requests for several attributes at once. -/
  supportsBatchedRead : Bool := false
  /-- The meter can answer with part of a profile. -/
  supportsSelectiveAccess : Bool := false
  /-- Sessions with the meter are logged. -/
  inDebugMode : Bool := false
  keys : List SecurityKey := []
  deriving DecidableEq

namespace Device

/-- The first key of a kind in a state. -/
def key? (device : Device) (kind : KeyKind) (state : KeyState) (now : Instant) :
    Option SecurityKey :=
  device.keys.find? fun key => key.is kind state now

def validKey? (device : Device) (kind : KeyKind) (now : Instant) : Option SecurityKey :=
  device.key? kind .valid now

/-- The key of a kind that the meter has not confirmed. -/
def newKey? (device : Device) (kind : KeyKind) (now : Instant) : Option SecurityKey :=
  device.key? kind .new now

def hasNewKeys (device : Device) (now : Instant) : Bool :=
  device.keys.any fun key => key.isIn .new now

def discardNewKeys (device : Device) (kind : KeyKind) (now : Instant) : Device :=
  { device with keys := device.keys.filter fun key => !key.is kind .new now }

/-- The device with `material` as its only unconfirmed key of the kind. -/
def addNewKey (device : Device) (kind : KeyKind) (material : String) (now : Instant) : Device :=
  let device := device.discardNewKeys kind now
  { device with keys := device.keys ++ [.unconfirmed kind material] }

/-- The keys with those of the kind that are in use taken out of use. -/
def endValidKeys (kind : KeyKind) (now : Instant) (keys : List SecurityKey) : List SecurityKey :=
  keys.map fun key => if key.is kind .valid now then key.endedAt now else key

/-- The keys with the first unconfirmed one of the kind taken into use, if there is any. -/
def beginNewKey? (kind : KeyKind) (now : Instant) : List SecurityKey → Option (List SecurityKey)
  | [] => none
  | key :: rest =>
    if key.is kind .new now then some (key.begunAt now :: rest)
    else (beginNewKey? kind now rest).map (key :: ·)

/-- The device with its unconfirmed key of the kind in use from `now` on, in place of the key that
was in use. -/
def promoteNewKey (device : Device) (kind : KeyKind) (now : Instant) :
    Except ProtocolFault Device :=
  match beginNewKey? kind now (endValidKeys kind now device.keys) with
  | some keys => .ok { device with keys := keys }
  | none => .error (.noNewKey kind device.identification)

end Device

end HeadEnd
