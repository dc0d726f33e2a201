import HeadEnd.Proofs.ConfigurationObject
import HeadEnd.Proofs.Key.Promotion
import HeadEnd.Proofs.Positional.Description

/-! # Changes by position

The flags of the configuration object are bits at fixed positions, which are picked one by one when
they are read and set one by one when they are written. The keys that a new one replaces are counted
back, and a key is promoted at the place where it was found.
-/

namespace HeadEnd.Breakable

variable {α β : Type}

/-! ## Flags that are read -/

/-- Leaving elements out first and converting the others is leaving out what has no conversion. -/
theorem mapM_filter {keep : α → Bool} {byPosition : α → Breakable Outcome β}
    {byForm : α → Option β} (hkept : ∀ a, keep a = true →
      ∃ b, byPosition a = pure b ∧ byForm a = some b)
    (hleft : ∀ a, keep a = false → byForm a = none) (elements : List α) :
    (elements.filter keep).mapM byPosition = pure (elements.filterMap byForm) := by
  induction elements with
  | nil => rfl
  | cons a rest ih =>
      cases hkeep : keep a with
      | true =>
          obtain ⟨b, hposition, hform⟩ := hkept a hkeep
          rw [List.filter_cons_of_pos hkeep, List.mapM_cons, hposition, ih,
            List.filterMap_cons_some hform]
          rfl
      | false =>
          rw [List.filter_cons_of_neg (by simp [hkeep]), ih,
            List.filterMap_cons_none (hleft a hkeep)]

def readFlags (bits : BitString) : Breakable Outcome (List FlagSetting) :=
  (ConfigurationFlag.all.filter fun flag => flag.position < bits.size).mapM fun flag => do
    match ← getBit bits flag.position with
    | .ok enabled => return ⟨flag, enabled⟩
    | .error fault => fail (.invalidData (.bitString fault))

theorem readFlags_eq (bits : BitString) :
    readFlags bits = pure (ConfigurationObject.readFlags bits) := by
  refine mapM_filter (fun flag hkeep => ?_) (fun flag hkeep => ?_) ConfigurationFlag.all
  · have h : flag.position < bits.size := of_decide_eq_true hkeep
    refine ⟨⟨flag, bits.bit ⟨flag.position, h⟩⟩, ?_, dif_pos h⟩
    rw [getBit_eq, pure_bind, BitString.get, dif_pos h]
  · exact dif_neg (of_decide_eq_false hkeep)

def readConfiguration (value : Value) : Breakable Outcome ConfigurationObject := do
  match ← reading (value.toElements "configuration object") with
  | [mode, flags] =>
    let mode ← reading (mode.toInteger? "GPRS operation mode")
    let bits ← reading (flags.toBits "configuration flags")
    return ⟨mode.bind GprsMode.ofCode?, ← readFlags bits⟩
  | _ => fail (.unexpected "configuration object" .modeAndFlags value)

theorem readConfiguration_eq (value : Value) :
    readConfiguration value = intact (ConfigurationObject.ofValue value) := by
  rw [readConfiguration, ConfigurationObject.ofValue, reading_eq, intact_bind]
  refine bind_congr fun elements => ?_
  match elements with
  | [_, _] => simp only [reading_eq, readFlags_eq, pure_bind, intact_bind, intact_pure]
  | [] | [_] | _ :: _ :: _ :: _ => exact fail_eq _

/-! ## Flags that are written -/

/-- The bytes with the bit at a position set. -/
def setBit (bytes : List UInt8) (position : Nat) : Breakable Outcome (List UInt8) := do
  let byte ← elementAt bytes (position / 8)
  return bytes.set (position / 8) (byte ||| 0x80 >>> UInt8.ofNat (position % 8))

/-- The bytes with the bits of those flags set that are on. -/
def setFlags (isOn : ConfigurationFlag → Bool) (flags : List ConfigurationFlag)
    (bytes : List UInt8) : Breakable Outcome (List UInt8) :=
  flags.foldlM (fun bytes flag => if isOn flag then setBit bytes flag.position else return bytes)
    bytes

def mergedBits (requested current : ConfigurationObject) : Breakable Outcome BitString := do
  let isOn := ConfigurationObject.mergedFlag requested current
  let bytes ← setFlags isOn ConfigurationFlag.all [0, 0]
  match BitString.ofBytes bytes 16 with
  | .ok bits => return bits
  | .error fault => fail (.invalidData (.bitString fault))

/-- A byte with the bit at a place, counted from the most significant one, set if it is wanted. -/
def withBit (byte : UInt8) (wanted : Bool) (place : Nat) : UInt8 :=
  if wanted then byte ||| 0x80 >>> UInt8.ofNat place else byte

theorem setBit_if {bytes : List UInt8} {position : Nat} (h : position / 8 < bytes.length)
    (wanted : Bool) :
    (if wanted then setBit bytes position else return bytes) =
      (pure (bytes.modify (position / 8) fun byte => withBit byte wanted (position % 8)) :
        Breakable Outcome (List UInt8)) := by
  cases wanted with
  | false => exact congrArg pure (List.modify_id _ _).symm
  | true =>
      rw [if_pos rfl, setBit, elementAt_of_getElem? (List.getElem?_eq_getElem h), pure_bind,
        List.modify_eq_set_get _ h]
      rfl

/-- Flags whose bits one byte holds are set in that byte. -/
theorem setFlags_of_byte (isOn : ConfigurationFlag → Bool) {flags : List ConfigurationFlag}
    {place : Nat} (hflags : ∀ flag ∈ flags, flag.position / 8 = place) {bytes : List UInt8}
    (h : place < bytes.length) :
    setFlags isOn flags bytes = pure (bytes.modify place fun byte =>
      flags.foldl (fun byte flag => withBit byte (isOn flag) (flag.position % 8)) byte) := by
  unfold setFlags
  induction flags generalizing bytes with
  | nil => exact congrArg pure (List.modify_id _ _).symm
  | cons flag rest ih =>
      obtain ⟨hflag, hrest⟩ := List.forall_mem_cons.mp hflags
      have hposition : flag.position / 8 < bytes.length := hflag ▸ h
      rw [List.foldlM_cons, setBit_if hposition, pure_bind, ih hrest (by rwa [List.length_modify]),
        hflag, List.modify_modify_eq]
      rfl

/-- A byte is packed from its bits one by one. -/
theorem packByte_eq : ∀ b0 b1 b2 b3 b4 b5 b6 b7 : Bool,
    BitString.packByte [b0, b1, b2, b3, b4, b5, b6, b7] =
      withBit (withBit (withBit (withBit (withBit (withBit (withBit (withBit 0
        b0 0) b1 1) b2 2) b3 3) b4 4) b5 5) b6 6) b7 7 := by
  decide +kernel

/-- Setting the flags one by one gives the bytes that are packed from all sixteen bits. -/
theorem setFlags_all (isOn : ConfigurationFlag → Bool) :
    setFlags isOn ConfigurationFlag.all [0, 0] =
      pure (BitString.pack (ConfigurationFlag.all.map isOn ++ List.replicate 6 false)) := by
  have hfirst : ∀ flag ∈ ConfigurationFlag.all.take 8, flag.position / 8 = 0 := by decide
  have hsecond : ∀ flag ∈ ConfigurationFlag.all.drop 8, flag.position / 8 = 1 := by decide
  have hpack : BitString.pack (ConfigurationFlag.all.map isOn ++ List.replicate 6 false) =
      [BitString.packByte [isOn .discoverOnOpenCover, isOn .discoverOnPowerOn,
          isOn .dynamicMbusAddress, isOn .poEnable, isOn .hls3OnP3Enable, isOn .hls4OnP3Enable,
          isOn .hls5OnP3Enable, isOn .hls3OnPoEnable],
        BitString.packByte [isOn .hls4OnPoEnable, isOn .hls5OnPoEnable, false, false, false, false,
          false, false]] := by
    simp [ConfigurationFlag.all, BitString.pack]
  calc setFlags isOn ConfigurationFlag.all [0, 0]
      = setFlags isOn (ConfigurationFlag.all.take 8) [0, 0] >>=
          setFlags isOn (ConfigurationFlag.all.drop 8) :=
        List.foldlM_append (l := ConfigurationFlag.all.take 8)
    _ = pure (BitString.pack (ConfigurationFlag.all.map isOn ++ List.replicate 6 false)) := by
        rw [setFlags_of_byte isOn hfirst (by decide), pure_bind,
          setFlags_of_byte isOn hsecond (by simp), hpack, packByte_eq, packByte_eq]
        rfl

theorem mergedBits_eq (requested current : ConfigurationObject) :
    mergedBits requested current = pure (ConfigurationObject.mergedBits requested current) := by
  have hsize : 16 ≤ 8 * (BitString.pack (ConfigurationFlag.all.map
      (ConfigurationObject.mergedFlag requested current) ++ List.replicate 6 false)).length := by
    rw [← ConfigurationObject.length_merged requested current]
    exact BitString.length_le_pack _
  rw [mergedBits, setFlags_all, pure_bind, BitString.ofBytes, dif_pos hsize]
  rfl

def mergedValue (requested current : ConfigurationObject) : Breakable Outcome Value := do
  let bits ← mergedBits requested current
  match requested.mode.or current.mode with
  | some mode => return .tuple [.enumerate mode.code, .bits bits]
  | none => return .tuple [.bits bits]

theorem mergedValue_eq (requested current : ConfigurationObject) :
    mergedValue requested current = pure (ConfigurationObject.mergedValue requested current) := by
  rw [mergedValue, mergedBits_eq, pure_bind, ConfigurationObject.mergedValue]
  cases requested.mode.or current.mode with
  | some mode => rfl
  | none => rfl

/-! ## Keys -/

/-- The device with `material` as its only unconfirmed key of the kind. How many others there were
is the difference of the numbers of keys. -/
def addNewKey (device : Device) (kind : KeyKind) (material : String) (now : Instant) :
    Breakable Outcome Device := do
  let kept := device.discardNewKeys kind now
  let _ ← difference device.keys.length kept.keys.length
  return { kept with keys := kept.keys ++ [.unconfirmed kind material] }

theorem addNewKey_eq (device : Device) (kind : KeyKind) (material : String) (now : Instant) :
    addNewKey device kind material now = pure (device.addNewKey kind material now) := by
  have hkept : ((device.discardNewKeys kind now).keys.length : Int) ≤ device.keys.length :=
    Int.ofNat_le.mpr (List.length_filter_le _ _)
  rw [addNewKey, difference_of_le hkept]
  rfl

def promoteNewKey (device : Device) (kind : KeyKind) (now : Instant) : Breakable Outcome Device :=
  match Device.newPlace? device.keys kind now with
  | none => fail (.protocol (.noNewKey kind device.identification))
  | some place => do
    let keys := Device.endValidKeys kind now device.keys
    let key ← elementAt keys place
    return { device with keys := keys.set place (key.begunAt now) }

theorem promoteNewKey_eq (device : Device) (kind : KeyKind) (now : Instant) :
    promoteNewKey device kind now =
      intact ((device.promoteNewKey kind now).mapError Failure.protocol) := by
  rw [promoteNewKey, Device.promoteNewKey, Device.beginNewKey?_eq_modify,
    Device.newPlace?_endValidKeys]
  cases hplace : Device.newPlace? device.keys kind now with
  | none => exact fail_eq _
  | some place =>
      obtain ⟨hlt, -⟩ := List.findIdx?_eq_some_iff_getElem.mp hplace
      have hended : place < (Device.endValidKeys kind now device.keys).length := by
        rwa [Device.endValidKeys, List.length_map]
      dsimp only
      rw [elementAt_of_getElem? (List.getElem?_eq_getElem hended), pure_bind, Option.map_some,
        List.modify_eq_set_get _ hended]
      rfl

end HeadEnd.Breakable
