import HeadEnd.Command.Catalogue
import HeadEnd.Proofs.Cosem.BitString
import HeadEnd.Proofs.Key.Staging

/-! # Changes of the configuration

The configuration that is written is put together from what was read and what was asked for. Flags
that were not asked for are kept; the bits that no flag stands for are not.
-/

namespace HeadEnd

namespace ConfigurationFlag

theorem mem_all (flag : ConfigurationFlag) : flag ∈ all := by
  cases flag <;> decide

@[simp] theorem length_all : all.length = 10 := rfl

theorem position_lt (flag : ConfigurationFlag) : flag.position < all.length := by
  cases flag <;> decide

theorem getElem?_position (flag : ConfigurationFlag) : all[flag.position]? = some flag := by
  cases flag <;> rfl

theorem position_getElem : ∀ index, (h : index < all.length) → all[index].position = index := by
  decide

end ConfigurationFlag

namespace ConfigurationObject

variable {requested current : ConfigurationObject} {bits : BitString}

/-! ## Flags that were read -/

/-- Each flag within the string is read once. -/
theorem find?_settings {flags : List ConfigurationFlag} {flag : ConfigurationFlag}
    (hflag : flag ∈ flags) (hsize : ∀ flag ∈ flags, flag.position < bits.size) :
    (flags.filterMap fun flag =>
        if h : flag.position < bits.size then some ⟨flag, bits.bit ⟨flag.position, h⟩⟩
        else none).find? (fun setting : FlagSetting => setting.flag == flag) =
      some ⟨flag, bits.bit ⟨flag.position, hsize flag hflag⟩⟩ := by
  induction flags with
  | nil => cases hflag
  | cons first rest ih =>
      obtain ⟨hfirst, hrest⟩ := List.forall_mem_cons.mp hsize
      rw [List.filterMap_cons_some (dif_pos hfirst)]
      by_cases heq : first = flag
      · subst heq
        simp
      · have hmem : flag ∈ rest := (List.mem_cons.mp hflag).resolve_left (Ne.symm heq)
        rw [List.find?_cons_of_neg (by simpa using heq)]
        exact ih hmem hrest

/-- A flag that was read from a string of sixteen bits is that of its position. -/
theorem get_of_flags_eq (hflags : current.flags = readFlags bits) (hsize : bits.size = 16)
    (flag : ConfigurationFlag) :
    ∃ value, current.enabled? flag = some value ∧ bits.get flag.position = .ok value := by
  have hwithin : ∀ flag : ConfigurationFlag, flag.position < bits.size := by
    intro flag
    have hposition := flag.position_lt
    rw [ConfigurationFlag.length_all] at hposition
    omega
  refine ⟨bits.bit ⟨flag.position, hwithin flag⟩, ?_, dif_pos (hwithin flag)⟩
  rw [enabled?, hflags, readFlags, find?_settings flag.mem_all fun flag _ => hwithin flag,
    Option.map_some]

/-- What is accepted as a configuration holds a mode and a string of flags. -/
theorem flags_of_ofValue {value mode : Value} (h : ofValue value = .ok current)
    (helements : value.elements? = some [mode, .bits bits]) : current.flags = readFlags bits := by
  have hlist : value.toElements "configuration object" = .ok [mode, .bits bits] := by
    cases value <;> cases helements <;> rfl
  unfold ofValue at h
  rw [hlist] at h
  cases hmode : mode.toInteger? "GPRS operation mode" with
  | error failure =>
      simp only [bind, Except.bind, hmode] at h
      cases h
  | ok code =>
      simp only [bind, Except.bind, hmode] at h
      cases h
      rfl

/-! ## Flags that are written -/

theorem length_merged (requested current : ConfigurationObject) :
    (ConfigurationFlag.all.map (mergedFlag requested current) ++
      List.replicate 6 false).length = 16 := by
  rfl

theorem get_mergedBits_position (requested current : ConfigurationObject)
    (flag : ConfigurationFlag) :
    (mergedBits requested current).get flag.position = .ok (mergedFlag requested current flag) := by
  have hposition := flag.position_lt
  have hall := ConfigurationFlag.length_all
  have hlength := length_merged requested current
  rw [mergedBits, BitString.get_ofList (by omega), List.getD_eq_getElem?_getD,
    List.getElem?_append_left (by simpa using hposition), List.getElem?_map, flag.getElem?_position]
  rfl

/-- The bits that no flag stands for are off. -/
theorem get_mergedBits_of_le (requested current : ConfigurationObject) {index : Nat}
    (hfirst : ConfigurationFlag.all.length ≤ index) (hlast : index < 16) :
    (mergedBits requested current).get index = .ok false := by
  have hlength := length_merged requested current
  rw [mergedBits, BitString.get_ofList (by omega), List.getD_eq_getElem?_getD,
    List.getElem?_append_right (by simpa using hfirst), List.getElem?_replicate]
  split <;> rfl

/-- The string of sixteen flags that is written for a request: settable flags that were asked for are
as the request says first, the other flags are as they were read, and the bits that no flag stands for
are off. -/
structure Merges (requested : ConfigurationObject) (bits flags : BitString) : Prop where
  size : flags.size = 16
  named : ∀ flag value, flag.isSettable = true → requested.enabled? flag = some value →
    flags.get flag.position = .ok value
  kept : ∀ flag, (flag.isSettable = true → requested.enabled? flag = none) →
    flags.get flag.position = bits.get flag.position
  cleared : ∀ index < 16, (∀ flag : ConfigurationFlag, flag.position ≠ index) →
    flags.get index = .ok false

theorem merges_mergedBits (hflags : current.flags = readFlags bits) (hsize : bits.size = 16) :
    requested.Merges bits (mergedBits requested current) where
  size := length_merged requested current
  named := by
    intro flag value hsettable hvalue
    rw [get_mergedBits_position, mergedFlag, if_pos hsettable, hvalue]
    rfl
  kept := by
    intro flag hunnamed
    obtain ⟨value, hvalue, hbit⟩ := get_of_flags_eq hflags hsize flag
    have hwanted : (if flag.isSettable then requested.enabled? flag else none) = none := by
      split
      · exact hunnamed ‹_›
      · rfl
    rw [get_mergedBits_position, mergedFlag, hwanted, hvalue, hbit]
    rfl
  cleared := by
    intro index hlast hnone
    refine get_mergedBits_of_le requested current (Nat.le_of_not_lt fun hindex => ?_) hlast
    exact hnone _ (ConfigurationFlag.position_getElem index hindex)

theorem mergedValue_eq (requested current : ConfigurationObject) :
    mergedValue requested current =
      .tuple ((requested.mode.or current.mode).toList.map (fun mode => .enumerate mode.code) ++
        [.bits (mergedBits requested current)]) := by
  unfold mergedValue
  cases requested.mode.or current.mode <;> rfl

/-! ## Runs -/

theorem ensures_install (requested : ConfigurationObject) {value : Value}
    (hcurrent : ofValue value = .ok current) (device : Device) :
    Task.Ensures (recording (Turn.ReadsAs address value)) requested.install device []
      fun _ d history => d = device ∧ writes history = [⟨address, mergedValue requested current⟩] := by
  rw [install, Task.ensures_bind, Operation.ensures_describe]
  rintro _ ⟨_, rfl⟩
  dsimp only
  -- Whatever the read looks like, nothing is written before the merged value is.
  have hrest : ∀ turn : Turn Answer, turn.write? = none →
      Task.Ensures (recording (Turn.ReadsAs address value)) (do
        let current ← ofValue value
        Operation.describe ("SetConfigurationObject, set attribute: " ++ address.text)
        Operation.writeAttribute address (mergedValue requested current) : Operation AccessResult)
        device
        ([⟨.describe ("SetConfigurationObject, retrieve attribute: " ++ address.text), ()⟩] ++ [turn])
        fun _ d history =>
          d = device ∧ writes history = [⟨address, mergedValue requested current⟩] := by
    intro turn hturn
    rw [hcurrent, Task.ensures_bind, Operation.ensures_lift]
    dsimp only
    rw [Task.ensures_bind, Operation.ensures_describe]
    rintro _ ⟨_, rfl⟩
    dsimp only
    rw [Operation.ensures_writeAttribute]
    rintro result _ ⟨_, rfl⟩
    refine ⟨rfl, ?_⟩
    rw [writes_append, writes_append, writes_snoc_of_none hturn]
    rfl
  rw [Task.ensures_bind]
  refine Operation.ensures_readValue value _ ?_ ?_
  · rintro answer _ ⟨hread, rfl⟩
    exact ⟨hread rfl, hrest ⟨.read address, answer⟩ rfl⟩
  · rintro answer _ ⟨hread, rfl⟩
    exact ⟨hread rfl, hrest ⟨.readBatch [address], answer⟩ rfl⟩

/-- If the configuration of a meter can be read and has sixteen flags, exactly one value is written
for a request, the mode and the flags of which are those that were asked for and otherwise those that
were read. Of the bits that no flag stands for nothing is kept. -/
theorem install_merges {value mode : Value} (hcurrent : ofValue value = .ok current)
    (helements : value.elements? = some [mode, .bits bits]) (hsize : bits.size = 16)
    {device d : Device} {r : Outcome AccessResult} {history : List (Turn Answer)}
    (hruns : Dialogue.Runs (recording (Turn.ReadsAs address value))
      ((Command.setConfigurationObject.execute requested).run.run device) [] (r, d) history) :
    d = device ∧ ∃ flags, requested.Merges bits flags ∧ writes history =
      [⟨address, .tuple ((requested.mode.or current.mode).toList.map (fun mode =>
        .enumerate mode.code) ++ [.bits flags])⟩] := by
  obtain ⟨hdevice, hwrites⟩ := ensures_install requested hcurrent device _ _ hruns
  have hmerges : requested.Merges bits (mergedBits requested current) :=
    merges_mergedBits (flags_of_ofValue hcurrent helements) hsize
  rw [mergedValue_eq] at hwrites
  exact ⟨hdevice, _, hmerges, hwrites⟩

/-- A world in which nothing goes wrong and every attribute holds the value. -/
def uniformAnswer (value : Value) : (question : Question) → Answer question
  | .read _ => .ok (.success value)
  | .readBatch _ => .ok [.success value]
  | question => obligingAnswer question

theorem readsAs_uniformAnswer (address : AttributeAddress) (value : Value) (question : Question) :
    Turn.ReadsAs address value ⟨question, uniformAnswer value question⟩ := by
  cases question
  case read => exact fun _ => rfl
  case readBatch => exact fun _ => rfl
  all_goals trivial

def uniformRun (value : Value) (requested : ConfigurationObject) :
    (Outcome AccessResult × Device) × List (Turn Answer) :=
  (requested.install.run.run keyedDevice).run
    (fun question past => (uniformAnswer value question,
      past ++ [⟨question, uniformAnswer value question⟩])) []

theorem runs_uniformRun (value : Value) (requested : ConfigurationObject) :
    Dialogue.Runs (recording (Turn.ReadsAs address value))
      ((Command.setConfigurationObject.execute requested).run.run keyedDevice) []
      (uniformRun value requested).1 (uniformRun value requested).2 :=
  Dialogue.runs_recorded (readsAs_uniformAnswer address value) _ []

/-- Two flags are asked for, one of them twice, and one that may not be changed. -/
theorem install_merges_of_repeated_flag :
    ∃ history flags, Dialogue.Runs
        (recording (Turn.ReadsAs address (.tuple [.enumerate 1, .bits ⟨[0xA4, 0x80], 16, by decide⟩])))
        ((Command.setConfigurationObject.execute ⟨none, [⟨.dynamicMbusAddress, false⟩,
          ⟨.poEnable, true⟩, ⟨.discoverOnPowerOn, true⟩, ⟨.dynamicMbusAddress, true⟩]⟩).run.run
            keyedDevice) [] (.ok .success, keyedDevice) history ∧
      writes history = [⟨address, .tuple [.enumerate 1, .bits flags]⟩] ∧
      flags.get 0 = .ok true ∧ flags.get 1 = .ok true ∧ flags.get 2 = .ok false ∧
      flags.get 3 = .ok false ∧ flags.get 5 = .ok true ∧ flags.get 8 = .ok true := by
  have hruns := runs_uniformRun (.tuple [.enumerate 1, .bits ⟨[0xA4, 0x80], 16, by decide⟩])
    ⟨none, [⟨.dynamicMbusAddress, false⟩, ⟨.poEnable, true⟩, ⟨.discoverOnPowerOn, true⟩,
      ⟨.dynamicMbusAddress, true⟩]⟩
  obtain ⟨_, flags, hmerges, hwrites⟩ := install_merges rfl rfl rfl hruns
  refine ⟨_, flags, hruns, hwrites, hmerges.kept .discoverOnOpenCover ?_,
    hmerges.named .discoverOnPowerOn true rfl rfl, hmerges.named .dynamicMbusAddress false rfl rfl,
    hmerges.kept .poEnable ?_, hmerges.kept .hls4OnP3Enable ?_, hmerges.kept .hls4OnPoEnable ?_⟩
  all_goals decide

/-- A bit that no flag stands for is lost by a change that asks for nothing. -/
theorem not_install_keeps_unnamed_bits :
    ¬ ∀ (requested current : ConfigurationObject) (bits : BitString) (value mode : Value)
        (device d : Device) (r : Outcome AccessResult) (history : List (Turn Answer)),
      ofValue value = .ok current → value.elements? = some [mode, .bits bits] → bits.size = 16 →
      Dialogue.Runs (recording (Turn.ReadsAs address value))
        ((Command.setConfigurationObject.execute requested).run.run device) [] (r, d) history →
      ∃ elements flags, writes history = [⟨address, .tuple (elements ++ [.bits flags])⟩] ∧
        ∀ index < 16, (∀ flag : ConfigurationFlag, flag.isSettable = true → flag.position = index →
          requested.enabled? flag = none) → flags.get index = bits.get index := by
  intro h
  obtain ⟨elements, flags, hwrites, hkept⟩ := h _ _ _ _ _ _ _ _ _ rfl rfl rfl
    (runs_uniformRun (.tuple [.enumerate 1, .bits ⟨[0x00, 0x20], 16, by decide⟩]) ⟨none, []⟩)
  have hvalue : (⟨address, .tuple ([.enumerate 1] ++ [.bits (mergedBits ⟨none, []⟩
      ⟨some .alwaysOn, readFlags ⟨[0x00, 0x20], 16, by decide⟩⟩)])⟩ : SetParameter) =
      ⟨address, .tuple (elements ++ [.bits flags])⟩ := List.head_eq_of_cons_eq hwrites
  obtain ⟨_, hbits⟩ := List.append_inj' (Value.tuple.inj (SetParameter.mk.inj hvalue).2) rfl
  cases hbits
  have hbit := hkept 10 (by decide) fun _ _ _ => rfl
  rw [get_mergedBits_of_le _ _ (by decide) (by decide)] at hbit
  cases hbit

end ConfigurationObject

end HeadEnd
