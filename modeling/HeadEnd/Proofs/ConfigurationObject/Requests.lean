import HeadEnd.Proofs.ConfigurationObject
import HeadEnd.Proofs.Session.Reading

/-! # Requests for a configuration

Only the mode and the first setting of each flag that may be changed count in a request. Whatever the
meter answers, its configuration is read once and written at most once, and what was written is read
as the configuration that was put together.
-/

namespace HeadEnd

namespace ConfigurationObject

variable {requested requested' current : ConfigurationObject} {fair : Turn Answer → Prop}

/-! ## What counts in a request -/

/-- Both requests have the same mode and the same first setting of each flag that may be changed. -/
structure Agrees (requested requested' : ConfigurationObject) : Prop where
  mode : requested.mode = requested'.mode
  enabled : ∀ flag, flag.isSettable = true → requested.enabled? flag = requested'.enabled? flag

theorem Agrees.mergedFlag_eq (h : requested.Agrees requested') (current : ConfigurationObject)
    (flag : ConfigurationFlag) :
    mergedFlag requested current flag = mergedFlag requested' current flag := by
  unfold mergedFlag
  cases hsettable : flag.isSettable with
  | true => simp only [if_pos, h.enabled flag hsettable]
  | false => rfl

theorem Agrees.mergedValue_eq (h : requested.Agrees requested') (current : ConfigurationObject) :
    mergedValue requested current = mergedValue requested' current := by
  have hbits : mergedBits requested current = mergedBits requested' current := by
    unfold mergedBits
    rw [funext (h.mergedFlag_eq current)]
  unfold mergedValue
  rw [hbits, h.mode]

/-- Requests that agree are carried out in the same way. -/
theorem Agrees.install_eq (h : requested.Agrees requested') :
    requested.install = requested'.install := by
  unfold install
  simp only [h.mergedValue_eq]

/-! ## What a request does -/

/-- How a request is carried out for the device: the configuration is read once. If it is refused or
is none, nothing is written; otherwise what was put together is written once, and the answer is the
result. -/
inductive Course (requested : ConfigurationObject) (device : Device) :
    Outcome AccessResult → List (Turn Answer) → Prop
  | refused {failure : Failure} {read : Turn Answer}
      (hread : read.Reads device "current configuration object" address (.error failure)) :
      Course requested device (.error failure)
        [⟨.describe ("SetConfigurationObject, retrieve attribute: " ++ address.text), ()⟩, read]
  | undecodable {value : Value} {failure : Failure} {read : Turn Answer}
      (hread : read.Reads device "current configuration object" address (.ok value))
      (hvalue : ofValue value = .error failure) :
      Course requested device (.error failure)
        [⟨.describe ("SetConfigurationObject, retrieve attribute: " ++ address.text), ()⟩, read]
  | written {value : Value} {current : ConfigurationObject} {read : Turn Answer}
      (answer : Outcome AccessResult)
      (hread : read.Reads device "current configuration object" address (.ok value))
      (hvalue : ofValue value = .ok current) :
      Course requested device answer
        [⟨.describe ("SetConfigurationObject, retrieve attribute: " ++ address.text), ()⟩, read,
          ⟨.describe ("SetConfigurationObject, set attribute: " ++ address.text), ()⟩,
          ⟨.write ⟨address, mergedValue requested current⟩, answer⟩]

theorem ensures_install_course (requested : ConfigurationObject) (device : Device) :
    Task.Ensures (recording fair) requested.install device [] fun outcome d history =>
      d = device ∧ requested.Course device outcome history := by
  rw [install, Task.ensures_bind, Operation.ensures_describe]
  rintro _ ⟨-, rfl⟩
  dsimp only
  rw [Task.ensures_bind]
  refine (Operation.ensures_readValue_turn device _ address _).imp ?_
  rintro (failure | value) _ _ ⟨rfl, read, rfl, hread⟩
  · exact ⟨rfl, .refused hread⟩
  dsimp only
  rw [Task.ensures_bind, Operation.ensures_lift]
  cases hvalue : ofValue value with
  | error failure => exact ⟨rfl, .undecodable hread hvalue⟩
  | ok current =>
      dsimp only
      rw [Task.ensures_bind, Operation.ensures_describe]
      rintro _ ⟨-, rfl⟩
      dsimp only
      rw [Operation.ensures_writeAttribute]
      rintro answer _ ⟨-, rfl⟩
      exact ⟨rfl, .written answer hread hvalue⟩

/-! ## What is written -/

/-- The configuration that is put together, if it has the mode. -/
def merged (requested current : ConfigurationObject) (mode : GprsMode) : ConfigurationObject :=
  ⟨some mode, ConfigurationFlag.all.map fun flag => ⟨flag, mergedFlag requested current flag⟩⟩

theorem readFlags_eq {bits : BitString} {enabled : ConfigurationFlag → Bool}
    (h : ∀ flag : ConfigurationFlag, bits.get flag.position = .ok (enabled flag)) :
    readFlags bits = ConfigurationFlag.all.map fun flag => ⟨flag, enabled flag⟩ := by
  have hread : ∀ flag : ConfigurationFlag,
      (if h : flag.position < bits.size then some ⟨flag, bits.bit ⟨flag.position, h⟩⟩ else none) =
        some (⟨flag, enabled flag⟩ : FlagSetting) := by
    intro flag
    have hflag := h flag
    unfold BitString.get at hflag
    split at hflag
    · rename_i hposition
      rw [dif_pos hposition, Except.ok.inj hflag]
    · cases hflag
  unfold readFlags
  simp only [hread]
  exact congrFun List.filterMap_eq_map ConfigurationFlag.all

theorem enabled?_merged (requested current : ConfigurationObject) (mode : GprsMode)
    (flag : ConfigurationFlag) :
    (merged requested current mode).enabled? flag = some (mergedFlag requested current flag) := by
  cases flag <;> rfl

/-- What was written is read as the configuration that was put together. -/
theorem ofValue_mergedValue {mode : GprsMode} (h : requested.mode.or current.mode = some mode) :
    ofValue (mergedValue requested current) = .ok (merged requested current mode) := by
  have hflags := readFlags_eq (get_mergedBits_position requested current)
  unfold mergedValue
  rw [h]
  change Except.ok (⟨GprsMode.ofCode? _, readFlags _⟩ : ConfigurationObject) = _
  rw [hflags]
  cases mode <;> rfl

theorem mergedFlag_merged (requested current : ConfigurationObject) (mode : GprsMode)
    (flag : ConfigurationFlag) :
    mergedFlag requested (merged requested current mode) flag =
      mergedFlag requested current flag := by
  rw [mergedFlag, enabled?_merged, mergedFlag]
  cases if flag.isSettable then requested.enabled? flag else none <;> rfl

/-- A request that is repeated puts together the same value. -/
theorem mergedValue_merged {mode : GprsMode} (h : requested.mode.or current.mode = some mode) :
    mergedValue requested (merged requested current mode) = mergedValue requested current := by
  have hmode : requested.mode.or (merged requested current mode).mode = some mode := by
    cases hrequested : requested.mode with
    | none => rfl
    | some wanted =>
        rw [hrequested] at h
        exact h
  have hbits : mergedBits requested (merged requested current mode) =
      mergedBits requested current := by
    unfold mergedBits
    rw [funext (mergedFlag_merged requested current mode)]
  unfold mergedValue
  rw [hmode, hbits, h]

/-! ## Requests -/

/-- Requests with the same mode and the same first setting of each flag that may be changed are
carried out in the same way. In every run the configuration is read once; nothing is written if it
is refused or is none, and otherwise what was put together is written, once. If the request or the
meter names a mode, what was written is read as that mode with all flags as they were put together:
those that may be changed as the request says first and then the meter, the others as the meter says.
On a meter that holds it the request writes it again. -/
theorem install_ignores_locked_flags :
    (∀ requested requested' : ConfigurationObject, requested.Agrees requested' →
      Command.setConfigurationObject.execute requested =
        Command.setConfigurationObject.execute requested') ∧
    ∀ requested : ConfigurationObject,
      (∀ fair device outcome d history, Dialogue.Runs (recording fair)
          ((Command.setConfigurationObject.execute requested).run.run device) [] (outcome, d)
            history →
        d = device ∧ requested.Course device outcome history) ∧
      ∀ current mode, requested.mode.or current.mode = some mode →
        ofValue (mergedValue requested current) = .ok (merged requested current mode) ∧
        (∀ flag, (merged requested current mode).enabled? flag =
          some (((if flag.isSettable then requested.enabled? flag else none).or
            (current.enabled? flag)).getD false)) ∧
        ∀ device outcome d history, Dialogue.Runs
            (recording (Turn.ReadsAs address (mergedValue requested current)))
            ((Command.setConfigurationObject.execute requested).run.run device) [] (outcome, d)
              history →
          writes history = [⟨address, mergedValue requested current⟩] := by
  refine ⟨fun _ _ hagrees => hagrees.install_eq, fun requested => ⟨?_, ?_⟩⟩
  · intro fair device outcome d history hruns
    exact ensures_install_course requested device _ _ hruns
  · intro current mode hmode
    have hread := ofValue_mergedValue hmode
    refine ⟨hread, enabled?_merged requested current mode, fun device outcome d history hruns => ?_⟩
    obtain ⟨-, hwrites⟩ := ensures_install requested hread device _ _ hruns
    rwa [mergedValue_merged hmode] at hwrites

/-- A request that names flags which may not be changed, and one flag twice. -/
def strayRequest : ConfigurationObject :=
  ⟨some .triggered, [⟨.hls5OnPoEnable, true⟩, ⟨.dynamicMbusAddress, false⟩, ⟨.hls3OnP3Enable, false⟩,
    ⟨.dynamicMbusAddress, true⟩]⟩

/-- What counts in it. -/
def plainRequest : ConfigurationObject :=
  ⟨some .triggered, [⟨.dynamicMbusAddress, false⟩]⟩

theorem agrees_strayRequest : strayRequest.Agrees plainRequest where
  mode := rfl
  enabled flag hsettable := by cases flag <;> first | rfl | cases hsettable

/-- The request reaches a meter that holds another mode and on which two flags of ports are set. -/
theorem install_ignores_locked_flags_of_stray :
    ∃ current history again,
      Command.setConfigurationObject.execute strayRequest =
        Command.setConfigurationObject.execute plainRequest ∧
      Dialogue.Runs
        (recording (Turn.ReadsAs address (.tuple [.enumerate 1, .bits ⟨[0x28, 0x80], 16, by decide⟩])))
        ((Command.setConfigurationObject.execute strayRequest).run.run keyedDevice) []
        (.ok .success, keyedDevice) history ∧
      strayRequest.Course keyedDevice (.ok .success) history ∧
      ofValue (mergedValue strayRequest current) = .ok (merged strayRequest current .triggered) ∧
      (merged strayRequest current .triggered).enabled? .hls3OnP3Enable = some true ∧
      (merged strayRequest current .triggered).enabled? .hls5OnPoEnable = some false ∧
      Dialogue.Runs (recording (Turn.ReadsAs address (mergedValue strayRequest current)))
        ((Command.setConfigurationObject.execute strayRequest).run.run keyedDevice) []
        (.ok .success, keyedDevice) again ∧
      writes again = [⟨address, mergedValue strayRequest current⟩] := by
  have hruns := runs_uniformRun (.tuple [.enumerate 1, .bits ⟨[0x28, 0x80], 16, by decide⟩])
    strayRequest
  obtain ⟨hsame, hrequests⟩ := install_ignores_locked_flags
  obtain ⟨hcourse, hwritten⟩ := hrequests strayRequest
  obtain ⟨hread, hflags, hagain⟩ := hwritten
    ⟨some .alwaysOn, readFlags ⟨[0x28, 0x80], 16, by decide⟩⟩ .triggered rfl
  have hrepeated := runs_uniformRun (mergedValue strayRequest
    ⟨some .alwaysOn, readFlags ⟨[0x28, 0x80], 16, by decide⟩⟩) strayRequest
  exact ⟨_, _, _, hsame _ _ agrees_strayRequest, hruns, (hcourse _ _ _ _ _ hruns).2, hread,
    hflags .hls3OnP3Enable, hflags .hls5OnPoEnable, hrepeated, hagain _ _ _ _ hrepeated⟩

end ConfigurationObject

end HeadEnd
