import HeadEnd.Session.Reading

/-! # The configuration object

The operation mode of the mobile network and a string of flags. A change names what is to be
different and keeps everything else. Flags that select the security level of an interface cannot be
changed here.
-/

namespace HeadEnd

/-- When a meter is connected to the mobile network. -/
inductive GprsMode where
  | alwaysOn
  | triggered
  deriving DecidableEq

namespace GprsMode

def all : List GprsMode :=
  [alwaysOn, triggered]

def name : GprsMode → String
  | alwaysOn => "ALWAYS_ON"
  | triggered => "TRIGGERED"

def code : GprsMode → UInt8
  | alwaysOn => 1
  | triggered => 2

def ofCode? (code : Int64) : Option GprsMode :=
  if code = 1 then some alwaysOn else if code = 2 then some triggered else none

end GprsMode

inductive ConfigurationFlag where
  | discoverOnOpenCover
  | discoverOnPowerOn
  | dynamicMbusAddress
  | poEnable
  | hls3OnP3Enable
  | hls4OnP3Enable
  | hls5OnP3Enable
  | hls3OnPoEnable
  | hls4OnPoEnable
  | hls5OnPoEnable
  deriving DecidableEq

namespace ConfigurationFlag

/-- Every flag, in the order of the bits. -/
def all : List ConfigurationFlag :=
  [discoverOnOpenCover, discoverOnPowerOn, dynamicMbusAddress, poEnable, hls3OnP3Enable,
    hls4OnP3Enable, hls5OnP3Enable, hls3OnPoEnable, hls4OnPoEnable, hls5OnPoEnable]

def position : ConfigurationFlag → Nat
  | discoverOnOpenCover => 0
  | discoverOnPowerOn => 1
  | dynamicMbusAddress => 2
  | poEnable => 3
  | hls3OnP3Enable => 4
  | hls4OnP3Enable => 5
  | hls5OnP3Enable => 6
  | hls3OnPoEnable => 7
  | hls4OnPoEnable => 8
  | hls5OnPoEnable => 9

/-- Whether a change may name the flag. -/
def isSettable : ConfigurationFlag → Bool
  | discoverOnOpenCover => true
  | discoverOnPowerOn => true
  | dynamicMbusAddress => true
  | _ => false

def name : ConfigurationFlag → String
  | discoverOnOpenCover => "DISCOVER_ON_OPEN_COVER"
  | discoverOnPowerOn => "DISCOVER_ON_POWER_ON"
  | dynamicMbusAddress => "DYNAMIC_MBUS_ADDRESS"
  | poEnable => "PO_ENABLE"
  | hls3OnP3Enable => "HLS3_ON_P3_ENABLE"
  | hls4OnP3Enable => "HLS4_ON_P3_ENABLE"
  | hls5OnP3Enable => "HLS5_ON_P3_ENABLE"
  | hls3OnPoEnable => "HLS3_ON_PO_ENABLE"
  | hls4OnPoEnable => "HLS4_ON_PO_ENABLE"
  | hls5OnPoEnable => "HLS5_ON_PO_ENABLE"

end ConfigurationFlag

structure FlagSetting where
  flag : ConfigurationFlag
  enabled : Bool
  deriving DecidableEq

/-- The mode and the flags of a meter, or those that are to be changed. -/
structure ConfigurationObject where
  mode : Option GprsMode
  flags : List FlagSetting
  deriving DecidableEq

namespace ConfigurationObject

/-- What the first setting of a flag says. -/
def enabled? (c : ConfigurationObject) (flag : ConfigurationFlag) : Option Bool :=
  (c.flags.find? fun setting => setting.flag == flag).map FlagSetting.enabled

/-! ## Reading -/

/-- The settings that a bit string holds; it may be too short for some flags. -/
def readFlags (bits : BitString) : List FlagSetting :=
  ConfigurationFlag.all.filterMap fun flag =>
    if h : flag.position < bits.size then some ⟨flag, bits.bit ⟨flag.position, h⟩⟩ else none

/-- The configuration that a list of two elements holds; a mode that is not known is left out. -/
def ofValue (value : Value) : Outcome ConfigurationObject := do
  match ← value.toElements "configuration object" with
  | [mode, flags] =>
    let mode ← mode.toInteger? "GPRS operation mode"
    let bits ← flags.toBits "configuration flags"
    return ⟨mode.bind GprsMode.ofCode?, readFlags bits⟩
  | _ => throw (.unexpected "configuration object" .modeAndFlags value)

/-! ## Changing -/

/-- A flag after the change `requested` to `current`: the request counts only if the flag may be
changed, and a flag that is nowhere set is off. -/
def mergedFlag (requested current : ConfigurationObject) (flag : ConfigurationFlag) : Bool :=
  let wanted := if flag.isSettable then requested.enabled? flag else none
  (wanted.or (current.enabled? flag)).getD false

/-- All sixteen bits after the change `requested` to `current`. -/
def mergedBits (requested current : ConfigurationObject) : BitString :=
  BitString.ofList
    (ConfigurationFlag.all.map (mergedFlag requested current) ++ List.replicate 6 false)

/-- The value to write for the change `requested` to `current`. -/
def mergedValue (requested current : ConfigurationObject) : Value :=
  let bits := Value.bits (mergedBits requested current)
  match requested.mode.or current.mode with
  | some mode => .tuple [.enumerate mode.code, bits]
  | none => .tuple [bits]

def address : AttributeAddress :=
  { classId := 1, name := ⟨0, 1, 94, 31, 3, 255⟩, attributeId := 2 }

def install (requested : ConfigurationObject) : Operation AccessResult := do
  Operation.describe ("SetConfigurationObject, retrieve attribute: " ++ address.text)
  let value ← Operation.readValue "current configuration object" address
  let current ← ofValue value
  Operation.describe ("SetConfigurationObject, set attribute: " ++ address.text)
  Operation.writeAttribute address (mergedValue requested current)

end ConfigurationObject

end HeadEnd
