import HeadEnd.Command.Catalogue
import HeadEnd.Proofs.Cosem.Normalization
import HeadEnd.Proofs.Push.Reading
import HeadEnd.Proofs.Session.Storage
import HeadEnd.Proofs.Text.Utf8

/-! # Push setups that are read as they were written

What is written of a setup is read as it was, whatever kinds of values the meter used before. A
setup that was written to a meter is what is read from it, and nothing else of the meter has
changed.
-/

namespace HeadEnd

/-! ## Values that are written -/

/-- The codes of a destination lie in the ranges that are documented for them. -/
def PushDestination.IsDocumented (d : PushDestination) : Prop :=
  d.service.IsDocumented ∧ d.message.IsDocumented

/-- Both ends of the window are date-times as programs come by them. -/
def PushWindow.IsObtained (w : PushWindow) : Prop :=
  w.start.IsObtained ∧ w.finish.IsObtained

theorem PushDestination.isToldBy_toValue {d : PushDestination} (h : d.IsDocumented) :
    d.IsToldBy d.toValue :=
  ⟨_, _, _, rfl, ⟨rfl, h.1⟩, ⟨_, rfl, Utf8.decode_encode d.destination⟩, rfl, h.2⟩

theorem PushWindow.isToldBy_toValue {w : PushWindow} (h : w.IsObtained) : w.IsToldBy w.toValue :=
  ⟨_, _, rfl, .octets h.1.checked, .octets h.2.checked⟩

theorem PushWindow.lists_toValue {windows : List PushWindow} (h : ∀ w ∈ windows, w.IsObtained) :
    (Value.array (windows.map toValue)).Lists IsToldBy windows := by
  refine ⟨_, .inr (.inl rfl), ?_⟩
  rw [List.forall₂_map_left_iff, List.forall₂_same]
  exact fun w hw => isToldBy_toValue (h w hw)

/-- What was read as a destination is written as a value that is read in the same way. -/
theorem PushDestination.toPushDestination_toValue {value : Value} {context : String}
    {d : PushDestination} (h : value.toPushDestination context = .ok d) (context' : String) :
    d.toValue.toPushDestination context' = .ok d := by
  obtain ⟨_, _, _, -, ⟨-, hservice⟩, -, -, hmessage⟩ :=
    ((value.decodes_toPushDestination context).ok_iff d).mp h
  exact ((d.toValue.decodes_toPushDestination context').ok_iff d).mpr
    (isToldBy_toValue ⟨hservice, hmessage⟩)

/-- A date-time that stands in the structure as such is one as programs come by them. -/
def Value.HoldsObtained (value : Value) : Prop :=
  ∀ elements t, value = .tuple elements → .dateTime t ∈ elements → t.IsObtained

theorem CosemDateTime.isObtained_of_checked {t : CosemDateTime} (h : t.checked = .ok t) :
    t.IsObtained :=
  .read ((decode_encode t).trans h)

theorem CosemDateTime.IsToldBy.isObtained {t : CosemDateTime} {value : Value} (h : t.IsToldBy value)
    (hobtained : value = .dateTime t → t.IsObtained) : t.IsObtained := by
  cases h with
  | octets hchecked => exact isObtained_of_checked hchecked
  | dateTime => exact hobtained rfl

/-- What was read as a window is written as a value that is read in the same way. -/
theorem PushWindow.toPushWindow_toValue {value : Value} (hvalue : value.HoldsObtained)
    {context : String} {w : PushWindow} (h : value.toPushWindow context = .ok w)
    (context' : String) :
    w.toValue.toPushWindow context' = .ok w := by
  obtain ⟨start, finish, rfl, hstart, hfinish⟩ :=
    ((value.decodes_toPushWindow context).ok_iff w).mp h
  refine ((w.toValue.decodes_toPushWindow context').ok_iff w).mpr (isToldBy_toValue ⟨?_, ?_⟩)
  · exact hstart.isObtained fun heq => hvalue _ _ rfl (by simp [heq])
  · exact hfinish.isObtained fun heq => hvalue _ _ rfl (by simp [heq])

namespace PushSetup

variable {target : PushTarget} {setup : PushSetup}

/-! ## What is written -/

/-- How a setup is written. Without a destination nothing is; otherwise the destination is written,
and the windows, if there are any, only after it was accepted. The answer to the last write is the
result. -/
inductive Course (target : PushTarget) (setup : PushSetup) :
    Outcome AccessResult → List (Turn Answer) → Prop
  | missing (hdestination : setup.destination = none) :
      Course target setup (.error (.protocol (.noPushDestination target))) []
  | refused {destination : PushDestination} (answer : Outcome AccessResult)
      (hdestination : setup.destination = some destination) (hrefused : answer ≠ .ok .success) :
      Course target setup answer
        [⟨.describe (installName target ++ ", set attribute: " ++ (address target 3).text), ()⟩,
          ⟨.write ⟨address target 3, destination.toValue⟩, answer⟩]
  | destination {destination : PushDestination}
      (hdestination : setup.destination = some destination)
      (hwindows : setup.windows = none) :
      Course target setup (.ok .success)
        [⟨.describe (installName target ++ ", set attribute: " ++ (address target 3).text), ()⟩,
          ⟨.write ⟨address target 3, destination.toValue⟩, .ok .success⟩]
  | windows {destination : PushDestination} {windows : List PushWindow}
      (answer : Outcome AccessResult) (hdestination : setup.destination = some destination)
      (hwindows : setup.windows = some windows) :
      Course target setup answer
        [⟨.describe (installName target ++ ", set attribute: " ++ (address target 3).text), ()⟩,
          ⟨.write ⟨address target 3, destination.toValue⟩, .ok .success⟩,
          ⟨.describe (installName target ++ ", set attribute: " ++ (address target 4).text), ()⟩,
          ⟨.write ⟨address target 4, .array (windows.map PushWindow.toValue)⟩, answer⟩]

theorem isSuccess_iff {result : AccessResult} : result.isSuccess = true ↔ result = .success := by
  cases result <;> simp [AccessResult.isSuccess]

theorem ensures_writeSetting {σ : Type} {rules : Rules Answer σ} {id : Int8} {value : Value}
    {device : Device} {s : σ} {post : Outcome AccessResult → Device → σ → Prop} :
    Task.Ensures rules (writeSetting target id value) device s post ↔
      ∀ t, rules (.describe (installName target ++ ", set attribute: " ++ (address target id).text))
        s () t → ∀ answer u, rules (.write ⟨address target id, value⟩) t answer u →
          post answer device u := by
  unfold writeSetting
  simp only [Task.ensures_bind, Operation.ensures_describe, Operation.ensures_writeAttribute]

theorem ensures_install_course {fair : Turn Answer → Prop} (target : PushTarget)
    (setup : PushSetup) (device : Device) :
    Task.Ensures (recording fair) (install target setup) device [] fun outcome d history =>
      d = device ∧ Course target setup outcome history := by
  unfold install
  cases hdestination : setup.destination with
  | none => exact Task.ensures_throw.mpr ⟨rfl, .missing hdestination⟩
  | some destination =>
      dsimp only
      rw [Task.ensures_bind, ensures_writeSetting]
      rintro _ ⟨-, rfl⟩ answer _ ⟨-, rfl⟩
      rcases answer with failure | result
      · exact ⟨rfl, .refused _ hdestination nofun⟩
      dsimp only
      by_cases hresult : result = .success
      · subst hresult
        cases hwindows : setup.windows with
        | none => exact Task.ensures_pure.mpr ⟨rfl, .destination hdestination hwindows⟩
        | some windows =>
            refine ensures_writeSetting.mpr ?_
            rintro _ ⟨-, rfl⟩ answer _ ⟨-, rfl⟩
            exact ⟨rfl, .windows answer hdestination hwindows⟩
      · have hrefused : (!result.isSuccess) = true := by simpa [← isSuccess_iff] using hresult
        rw [if_pos hrefused, Task.ensures_pure]
        exact ⟨rfl, .refused _ hdestination fun heq => hresult (Except.ok.inj heq)⟩

/-! ## What a meter holds -/

def attributeOf (target : PushTarget) (id : Int8) : Attribute :=
  ⟨40, target.logicalName, id⟩

/-- The attribute of the object holds a value that tells what is asked for. -/
def Holds (held : Attribute → Option Value) (target : PushTarget) (id : Int8)
    (told : Value → Prop) : Prop :=
  ∃ value, held (attributeOf target id) = some value ∧ told value

variable {held held' : Attribute → Option Value}

/-- The meter holds what the setup says and what cannot be written. -/
structure RestIsHeld (setup : PushSetup) (target : PushTarget) (held : Attribute → Option Value) :
    Prop where
  objects : ∃ objects, setup.objects = some objects ∧
    Holds held target 2 fun value => value.Lists ObjectDefinition.IsToldBy objects
  interval : Holds held target 5 fun value =>
    value.TellsNumber? (fun n : UInt16 => n.toNat) setup.randomisationStartInterval
  retries : Holds held target 6 fun value =>
    value.TellsNumber? (fun n : UInt8 => n.toNat) setup.numberOfRetries
  delay : Holds held target 7 fun value =>
    value.TellsNumber? (fun n : UInt16 => n.toNat) setup.repetitionDelay

def DestinationIsHeld (setup : PushSetup) (target : PushTarget)
    (held : Attribute → Option Value) : Prop :=
  ∃ destination, setup.destination = some destination ∧
    Holds held target 3 fun value => destination.IsToldBy value

def WindowsAreHeld (setup : PushSetup) (target : PushTarget)
    (held : Attribute → Option Value) : Prop :=
  ∃ windows, setup.windows = some windows ∧
    Holds held target 4 fun value => value.Lists PushWindow.IsToldBy windows

/-- What a meter holds changes in nothing but that it holds the destination of the setup and, if
there are any, its windows. -/
structure Replaces (setup : PushSetup) (target : PushTarget)
    (before after : Attribute → Option Value) : Prop where
  destination : ∃ destination, setup.destination = some destination ∧
    after (attributeOf target 3) = some destination.toValue
  windows : ∀ windows, setup.windows = some windows →
    after (attributeOf target 4) = some (.array (windows.map PushWindow.toValue))
  others : ∀ a, a ≠ attributeOf target 3 → (a = attributeOf target 4 → setup.windows = none) →
    after a = before a

theorem Replaces.attributeOf_eq {before after : Attribute → Option Value}
    (h : setup.Replaces target before after) {id : Int8} (hthree : id ≠ 3) (hfour : id ≠ 4) :
    after (attributeOf target id) = before (attributeOf target id) :=
  h.others _ (by simpa [attributeOf] using hthree)
    fun heq => absurd (congrArg Attribute.attributeId heq) hfour

theorem logicalName_ne {other : PushTarget} (h : other ≠ target) :
    other.logicalName ≠ target.logicalName := by
  cases other <;> cases target <;> first | decide | exact absurd rfl h

theorem Replaces.other_eq {before after : Attribute → Option Value}
    (h : setup.Replaces target before after) {other : PushTarget} (hother : other ≠ target)
    (id : Int8) : after (attributeOf other id) = before (attributeOf other id) :=
  h.others _ (fun heq => logicalName_ne hother (congrArg Attribute.name heq))
    fun heq => absurd (congrArg Attribute.name heq) (logicalName_ne hother)

/-- The setup that a meter holds afterwards: what was written, and the rest as it was. -/
theorem Replaces.isHeld {before after : Attribute → Option Value} {previous : PushSetup}
    (h : setup.Replaces target before after)
    (hdestination : ∀ destination, setup.destination = some destination → destination.IsDocumented)
    (hwindows : ∀ windows, setup.windows = some windows → ∀ w ∈ windows, w.IsObtained)
    (hrest : previous.RestIsHeld target before)
    (hprevious : setup.windows = none → previous.WindowsAreHeld target before) :
    let now : PushSetup := { previous with
      destination := setup.destination, windows := setup.windows.or previous.windows }
    now.RestIsHeld target after ∧ now.DestinationIsHeld target after ∧
      now.WindowsAreHeld target after := by
  have hkept {id : Int8} {told : Value → Prop} (hthree : id ≠ 3) (hfour : id ≠ 4) :
      Holds before target id told → Holds after target id told := by
    rintro ⟨value, hvalue, htold⟩
    exact ⟨value, (h.attributeOf_eq hthree hfour).trans hvalue, htold⟩
  refine ⟨⟨?_, hkept (by decide) (by decide) hrest.interval,
    hkept (by decide) (by decide) hrest.retries, hkept (by decide) (by decide) hrest.delay⟩, ?_, ?_⟩
  · obtain ⟨objects, hobjects, hheld⟩ := hrest.objects
    exact ⟨objects, hobjects, hkept (by decide) (by decide) hheld⟩
  · obtain ⟨destination, hsetup, hheld⟩ := h.destination
    exact ⟨destination, hsetup, _, hheld,
      PushDestination.isToldBy_toValue (hdestination destination hsetup)⟩
  · cases hsetup : setup.windows with
    | none =>
        obtain ⟨windows, hwindows, value, hvalue, htold⟩ := hprevious hsetup
        refine ⟨windows, hwindows, value, (h.others _ ?_ fun _ => hsetup).trans hvalue, htold⟩
        simp [attributeOf]
    | some windows =>
        exact ⟨windows, rfl, _, h.windows windows hsetup,
          PushWindow.lists_toValue (hwindows windows hsetup)⟩

section Storage

variable {σ : Type} {rules : Rules Answer σ} {held : σ → Attribute → Option Value} {s : σ}

/-- The setup that a meter holds is read from it. -/
theorem ensures_fetch_of_held (hstores : StoresWrites rules held)
    (hrest : setup.RestIsHeld target (held s))
    (hdestination : setup.DestinationIsHeld target (held s))
    (hwindows : setup.WindowsAreHeld target (held s)) (device : Device) :
    Task.Ensures rules (fetch target) device s fun outcome d _ =>
      outcome = .ok setup ∧ d = device := by
  obtain ⟨objects, hobjects, value₂, hheld₂, htold₂⟩ := hrest.objects
  obtain ⟨destination, hsetup₃, value₃, hheld₃, htold₃⟩ := hdestination
  obtain ⟨windows, hsetup₄, value₄, hheld₄, htold₄⟩ := hwindows
  obtain ⟨value₅, hheld₅, htold₅⟩ := hrest.interval
  obtain ⟨value₆, hheld₆, htold₆⟩ := hrest.retries
  obtain ⟨value₇, hheld₇, htold₇⟩ := hrest.delay
  unfold fetch
  dsimp only
  rw [Task.ensures_bind, Operation.ensures_describe]
  intro t hdescribe
  have hkept := hstores.held_eq_of_describe hdescribe
  rw [← hkept] at hheld₂ hheld₃ hheld₄ hheld₅ hheld₆ hheld₇
  dsimp only
  rw [Task.ensures_bind]
  refine (Operation.ensures_readValues_of_held hstores ("push setup " ++ target.label)
    (.cons hheld₂ (.cons hheld₃ (.cons hheld₄ (.cons hheld₅ (.cons hheld₆ (.cons hheld₇
      .nil))))))).imp ?_
  rintro _ _ u ⟨⟨_, rfl⟩, rfl, -⟩
  have hread₂ := fun context =>
    ((value₂.decodes_toObjectDefinitions context).ok_iff objects).mpr htold₂
  have hread₃ := fun context =>
    ((value₃.decodes_toPushDestination context).ok_iff destination).mpr htold₃
  have hread₄ := fun context => ((value₄.decodes_toPushWindows context).ok_iff windows).mpr htold₄
  have hread₅ := fun context => ((value₅.decodes_toUInt16? context).ok_iff _).mpr htold₅
  have hread₆ := fun context => ((value₆.decodes_toUInt8? context).ok_iff _).mpr htold₆
  have hread₇ := fun context => ((value₇.decodes_toUInt16? context).ok_iff _).mpr htold₇
  simp only [Task.ensures_bind, Operation.ensures_lift, hread₂, hread₃, hread₄, hread₅, hread₆,
    hread₇, Task.ensures_pure]
  rw [← hobjects, ← hsetup₃, ← hsetup₄]
  exact ⟨rfl, trivial⟩

/-- A setup that was written with success is held, and the rest of the meter is as it was. -/
theorem ensures_install_of_stores (hstores : StoresWrites rules held) (target : PushTarget)
    (setup : PushSetup) (device : Device) :
    Task.Ensures rules (install target setup) device s fun outcome _ t =>
      outcome = .ok .success → setup.Replaces target (held s) (held t) := by
  unfold install
  cases hdestination : setup.destination with
  | none => exact Task.ensures_throw.mpr nofun
  | some destination =>
      dsimp only
      rw [Task.ensures_bind, ensures_writeSetting]
      intro t₁ hdescribe₁ answer t₂ hwrite₃
      have hkept₁ := hstores.held_eq_of_describe hdescribe₁
      rcases answer with failure | result
      · exact nofun
      dsimp only
      by_cases hresult : result = .success
      · subst hresult
        have hstored₃ := hstores.write (a := attributeOf target 3) hwrite₃
        have hspared₃ : ∀ a, a ≠ attributeOf target 3 → held t₂ a = held s a := fun a ha =>
          (hstores.spared (show Question.Spares a (.write ⟨address target 3, _⟩) from ha.symm)
            hwrite₃).trans (congrFun hkept₁ a)
        cases hwindows : setup.windows with
        | none =>
            refine Task.ensures_pure.mpr fun _ => ⟨⟨_, hdestination, hstored₃⟩, ?_, ?_⟩
            · simp [hwindows]
            · exact fun a ha _ => hspared₃ a ha
        | some windows =>
            refine ensures_writeSetting.mpr fun t₃ hdescribe₃ answer t hwrite₄ => ?_
            rintro rfl
            have hkept₃ := hstores.held_eq_of_describe hdescribe₃
            have hspared₄ : ∀ a, a ≠ attributeOf target 4 → held t a = held t₂ a := fun a ha =>
              (hstores.spared (show Question.Spares a (.write ⟨address target 4, _⟩) from ha.symm)
                hwrite₄).trans (congrFun hkept₃ a)
            refine ⟨⟨_, hdestination, (hspared₄ _ ?_).trans hstored₃⟩, ?_, ?_⟩
            · simp [attributeOf]
            · rw [hwindows]
              rintro _ ⟨⟩
              exact hstores.write (a := attributeOf target 4) hwrite₄
            · intro a ha hnone
              have ha' : a ≠ attributeOf target 4 := fun heq => by
                rw [hnone heq] at hwindows
                cases hwindows
              exact (hspared₄ a ha').trans (hspared₃ a ha)
      · have hrefused : (!result.isSuccess) = true := by simpa [← isSuccess_iff] using hresult
        rw [if_pos hrefused, Task.ensures_pure]
        exact fun heq => absurd (Except.ok.inj heq) hresult

end Storage

/-! ## Reading after writing -/

/-- A setup is written destination first; the windows follow only after that was accepted. Once this
has succeeded on a meter that stores what is written, nothing but what was written has changed, and
if the rest of the setup can be read, reading it gives the destination and the windows that were
written and the rest as it was. What was read as a destination or as a window can be written and
read in this way, whatever kinds of values the meter used. -/
theorem fetch_after_install (target : PushTarget) :
    (∀ setup fair device outcome d history, Dialogue.Runs (recording fair)
        (((Command.setPushSetup target).execute setup).run.run device) [] (outcome, d) history →
      d = device ∧ Course target setup outcome history) ∧
    (∀ (σ : Type) (rules : Rules Answer σ) (held : σ → Attribute → Option Value),
      StoresWrites rules held → ∀ setup : PushSetup,
      (∀ destination, setup.destination = some destination → destination.IsDocumented) →
      (∀ windows, setup.windows = some windows → ∀ w ∈ windows, w.IsObtained) →
      ∀ s t device d, Dialogue.Runs rules
        (((Command.setPushSetup target).execute setup).run.run device) s (.ok .success, d) t →
      setup.Replaces target (held s) (held t) ∧
      (∀ id : Int8, id ∈ [2, 5, 6, 7] →
        held t (attributeOf target id) = held s (attributeOf target id)) ∧
      (∀ other id, other ≠ target →
        held t (attributeOf other id) = held s (attributeOf other id)) ∧
      ∀ previous : PushSetup, previous.RestIsHeld target (held s) →
        (setup.windows = none → previous.WindowsAreHeld target (held s)) →
        ∀ device' outcome d' u, Dialogue.Runs rules
          (((Command.getPushSetup target).execute ()).run.run device') t (outcome, d') u →
        outcome = .ok { previous with
          destination := setup.destination, windows := setup.windows.or previous.windows }) ∧
    (∀ (value : Value) context destination, value.toPushDestination context = .ok destination →
      ∀ context', destination.toValue.toPushDestination context' = .ok destination) ∧
    ∀ (value : Value) context window, value.HoldsObtained →
      value.toPushWindow context = .ok window →
      ∀ context', window.toValue.toPushWindow context' = .ok window := by
  refine ⟨fun setup fair device outcome d history hruns =>
      ensures_install_course target setup device _ _ hruns, ?_,
    fun _ _ _ => PushDestination.toPushDestination_toValue,
    fun _ _ _ hvalue => PushWindow.toPushWindow_toValue hvalue⟩
  intro σ rules held hstores setup hdestination hwindows s t device d hruns
  have hreplaces : setup.Replaces target (held s) (held t) :=
    ensures_install_of_stores hstores target setup device _ _ hruns rfl
  refine ⟨hreplaces, fun id hid => ?_, fun other id hother => hreplaces.other_eq hother id, ?_⟩
  · exact hreplaces.attributeOf_eq (by rintro rfl; revert hid; decide)
      (by rintro rfl; revert hid; decide)
  · intro previous hrest hprevious device' outcome d' u hfetch
    obtain ⟨hrest', hdestination', hwindows'⟩ :=
      hreplaces.isHeld hdestination hwindows hrest hprevious
    exact (ensures_fetch_of_held hstores hrest' hdestination' hwindows' device' _ _ hfetch).1

/-- Every day from the hour on, in local time. -/
def dailyAt (hour : UInt8) : CosemDateTime :=
  ⟨0xFFFF, 0xFF, 0xFF, 0xFF, hour, 0, 0, 0xFF, -32768, 0⟩

/-- A setup with a service of a manufacturer and two windows. -/
def nightlySetup : PushSetup where
  objects := none
  destination := some ⟨.manufacturerSpecific 200, "+31 6", .xml⟩
  windows := some [⟨dailyAt 1, dailyAt 3⟩, ⟨dailyAt 22, dailyAt 23⟩]
  randomisationStartInterval := none
  numberOfRetries := none
  repetitionDelay := none

/-- What a meter holds that pushes one attribute and has no destination. -/
def unsetPush (a : Attribute) : Option Value :=
  if a = attributeOf .sms 2 then
    some (.array [.tuple [.uint16 40, .octets [0, 2, 25, 9, 0, 255], .int8 1, .uint8 0]])
  else if a = attributeOf .sms 5 then some (.uint16 30)
  else if a = attributeOf .sms 6 then some (.enumerate 3)
  else some .null

/-- What is read of it besides the destination and the windows. -/
def unsetSetup : PushSetup where
  objects := some [⟨40, ⟨0, 2, 25, 9, 0, 255⟩, 1, 0⟩]
  destination := none
  windows := none
  randomisationStartInterval := some 30
  numberOfRetries := some 3
  repetitionDelay := none

theorem restIsHeld_unsetSetup : unsetSetup.RestIsHeld .sms unsetPush where
  objects := ⟨_, rfl, _, rfl, _, .inr (.inl rfl),
    .cons ⟨_, _, _, rfl, rfl, rfl, rfl⟩ .nil⟩
  interval := ⟨_, rfl, .inr ⟨30, rfl, rfl⟩⟩
  retries := ⟨_, rfl, .inr ⟨3, rfl, rfl⟩⟩
  delay := ⟨_, rfl, .inl ⟨rfl, rfl⟩⟩

/-- The setup is written to this meter. -/
theorem fetch_after_install_of_nightly :
    ∃ held again device,
      Dialogue.Runs (fun question s answer t => storingWorld question s = (answer, t))
        (((Command.setPushSetup .sms).execute nightlySetup).run.run keyedDevice) unsetPush
        (.ok .success, keyedDevice) held ∧
      held (attributeOf .sms 6) = some (.enumerate 3) ∧
      held (attributeOf .alarm 3) = some .null ∧
      Dialogue.Runs (fun question s answer t => storingWorld question s = (answer, t))
        (((Command.getPushSetup .sms).execute ()).run.run keyedDevice) held
        (.ok { unsetSetup with
          destination := nightlySetup.destination, windows := nightlySetup.windows }, device)
        again ∧
      (PushWindow.toValue ⟨dailyAt 1, dailyAt 3⟩).toPushWindow "window" =
        .ok ⟨dailyAt 1, dailyAt 3⟩ := by
  obtain ⟨-, hwritten, -, hwindow⟩ := fetch_after_install .sms
  have hobtained (hour : UInt8) (h : (dailyAt hour).fieldsInRange = true) :
      (dailyAt hour).IsObtained :=
    CosemDateTime.isObtained_of_checked (by rw [CosemDateTime.checked, h]; rfl)
  have hwindows : ∀ w ∈ [(⟨dailyAt 1, dailyAt 3⟩ : PushWindow), ⟨dailyAt 22, dailyAt 23⟩],
      w.IsObtained := by
    rintro w (_ | ⟨_, _ | ⟨_, ⟨⟩⟩⟩)
    · exact ⟨hobtained 1 rfl, hobtained 3 rfl⟩
    · exact ⟨hobtained 22 rfl, hobtained 23 rfl⟩
  obtain ⟨held, hinstall⟩ : ∃ held,
      Dialogue.Runs (fun question s answer t => storingWorld question s = (answer, t))
        (((Command.setPushSetup .sms).execute nightlySetup).run.run keyedDevice) unsetPush
        (.ok .success, keyedDevice) held := ⟨_, runs_storingWorld _ _⟩
  obtain ⟨-, hkept, hother, hread⟩ := hwritten _ _ _ storesWrites_storingWorld nightlySetup
    (by rintro _ ⟨⟩; exact ⟨show 200 ≤ UInt8.toNat 200 by decide, trivial⟩)
    (by rintro _ ⟨⟩; exact hwindows) _ _ _ _ hinstall
  obtain ⟨⟨⟨outcome, device⟩, again⟩, hfetch⟩ :
      ∃ e : (Outcome PushSetup × Device) × (Attribute → Option Value),
        Dialogue.Runs (fun question s answer t => storingWorld question s = (answer, t))
          (((Command.getPushSetup .sms).execute ()).run.run keyedDevice) held e.1 e.2 :=
    ⟨_, runs_storingWorld _ _⟩
  obtain rfl := hread unsetSetup restIsHeld_unsetSetup (by rintro ⟨⟩) _ _ _ _ hfetch
  refine ⟨held, again, device, hinstall, hkept 6 (by decide), hother .alarm 3 (by decide), hfetch,
    hwindow (.tuple [.dateTime (dailyAt 1), .octets (dailyAt 3).encode]) "window" _ ?_ rfl "window"⟩
  rintro _ t ⟨⟩ (_ | ⟨_, _ | ⟨_, ⟨⟩⟩⟩)
  exact hobtained 1 rfl

end PushSetup

end HeadEnd
