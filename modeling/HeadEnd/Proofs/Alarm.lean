import HeadEnd.Command.Catalogue
import HeadEnd.Proofs.Cosem.Reading
import HeadEnd.Proofs.Session.Reading
import HeadEnd.Proofs.Session.Storage
import Mathlib.Data.List.Induction
import Mathlib.Data.List.Nodup
import Mathlib.Data.Nat.Bitwise

/-! # Changes of the alarm filter

Each type of alarm has a bit of the filter to itself. Of the notifications of a type the last one
counts, bits of no type are kept, and a filter is written only if that changes it. What a list is taken
to say of a type is its first notification, which is another matter if the list contradicts itself.
-/

namespace HeadEnd

/-! ## Bits -/

namespace AlarmType

theorem mem_all (type : AlarmType) : type ∈ all := by
  cases type <;> decide

theorem bit_lt (type : AlarmType) : type.bit < 32 := by
  cases type <;> decide

theorem bit_inj {type other : AlarmType} : type.bit = other.bit ↔ type = other := by
  have hdistinct : (all.map bit).Nodup := by decide
  exact ⟨fun h => List.inj_on_of_nodup_map hdistinct type.mem_all other.mem_all h,
    fun h => congrArg bit h⟩

theorem toNat_mask (type : AlarmType) : type.mask.toNat = 2 ^ type.bit :=
  UInt32.toNat_ofNat_of_lt' (Nat.pow_lt_pow_right (by decide) type.bit_lt)

/-- A mask leaves the bit of its type. -/
theorem and_mask_bne_zero (type : AlarmType) (filter : UInt32) :
    (filter &&& type.mask != 0) = filter.toNat.testBit type.bit := by
  have hmasked :
      (filter &&& type.mask).toNat = (filter.toNat.testBit type.bit).toNat * 2 ^ type.bit := by
    rw [UInt32.toNat_and, toNat_mask, Nat.and_two_pow]
  rw [Bool.eq_iff_iff, bne_iff_ne, ne_eq, ← UInt32.toNat_inj, hmasked]
  cases filter.toNat.testBit type.bit <;> simp

end AlarmType

theorem testBit_toNat (filter : UInt32) (index : Nat) :
    filter.toNat.testBit index = filter.toBitVec.getLsbD index :=
  BitVec.testBit_toNat filter.toBitVec

/-- Filters with the same bits are the same. -/
theorem filter_ext {filter other : UInt32}
    (h : ∀ index, filter.toNat.testBit index = other.toNat.testBit index) : filter = other :=
  UInt32.toNat_inj.mp (Nat.eq_of_testBit_eq h)

/-- A notification sets or clears the bit of its type and no other. -/
theorem AlarmNotification.testBit_applyTo (n : AlarmNotification) (filter : UInt32) (index : Nat) :
    (n.applyTo filter).toNat.testBit index =
      if n.type.bit = index then n.enabled else filter.toNat.testBit index := by
  have hmask : n.type.mask.toBitVec.getLsbD index = decide (n.type.bit = index) := by
    rw [← testBit_toNat, AlarmType.toNat_mask, Nat.testBit_two_pow]
  unfold applyTo
  cases n.enabled with
  | true =>
      rw [if_pos rfl, testBit_toNat, testBit_toNat, UInt32.toBitVec_or, BitVec.getLsbD_or, hmask]
      by_cases h : n.type.bit = index <;> simp [h]
  | false =>
      rw [if_neg Bool.false_ne_true, testBit_toNat, testBit_toNat, UInt32.toBitVec_and,
        UInt32.toBitVec_not, BitVec.getLsbD_and, BitVec.getLsbD_not, hmask]
      by_cases h : n.type.bit = index
      · simp [h]
      · -- Beyond the last bit both filters are clear.
        cases hbit : filter.toBitVec.getLsbD index with
        | false => simp [h]
        | true => simp [h, BitVec.lt_of_getLsbD hbit]

namespace AlarmNotifications

variable (notifications : List AlarmNotification) (filter : UInt32)

/-- What the last notification of a type says. -/
def lastEnabled? (type : AlarmType) : Option Bool :=
  isEnabled? notifications.reverse type

/-- At each bit the last notification counts that sets or clears it. -/
theorem testBit_applyTo (index : Nat) :
    (applyTo notifications filter).toNat.testBit index =
      ((notifications.reverse.find? fun n => n.type.bit == index).map
        AlarmNotification.enabled).getD (filter.toNat.testBit index) := by
  induction notifications using List.reverseRecOn with
  | nil => rfl
  | append_singleton rest n ih =>
      have hlast : applyTo (rest ++ [n]) filter = n.applyTo (applyTo rest filter) :=
        List.foldl_append
      rw [hlast, n.testBit_applyTo, ih, List.reverse_append, List.reverse_singleton,
        List.singleton_append, List.find?_cons]
      by_cases h : n.type.bit = index
      · simp [h]
      · rw [if_neg h, beq_eq_false_iff_ne.mpr h]

theorem testBit_applyTo_bit (type : AlarmType) :
    (applyTo notifications filter).toNat.testBit type.bit =
      (lastEnabled? notifications type).getD (filter.toNat.testBit type.bit) := by
  have hsame : (fun n : AlarmNotification => n.type.bit == type.bit) = fun n => n.type == type := by
    funext n
    rw [Bool.eq_iff_iff, beq_iff_eq, beq_iff_eq, AlarmType.bit_inj]
  rw [testBit_applyTo, hsame]
  rfl

theorem testBit_applyTo_of_no_type {index : Nat} (h : ∀ type : AlarmType, type.bit ≠ index) :
    (applyTo notifications filter).toNat.testBit index = filter.toNat.testBit index := by
  have hnone : notifications.reverse.find? (fun n => n.type.bit == index) = none :=
    List.find?_eq_none.mpr fun n _ => by simpa using h n.type
  rw [testBit_applyTo, hnone]
  rfl

/-- Notifications that are applied again change nothing. -/
theorem applyTo_applyTo :
    applyTo notifications (applyTo notifications filter) = applyTo notifications filter := by
  refine filter_ext fun index => ?_
  rw [testBit_applyTo, testBit_applyTo]
  cases (notifications.reverse.find? fun n => n.type.bit == index).map
    AlarmNotification.enabled <;> rfl

/-- What all notifications of a type say is what is told of it, if there are any. -/
theorem isEnabled?_eq_some {notifications : List AlarmNotification} {type : AlarmType}
    {enabled : Bool} (hnamed : ∃ n ∈ notifications, n.type = type)
    (htells : ∀ n ∈ notifications, n.type = type → n.enabled = enabled) :
    isEnabled? notifications type = some enabled := by
  unfold isEnabled?
  cases hfound : notifications.find? fun n => n.type == type with
  | none =>
      obtain ⟨n, hmem, rfl⟩ := hnamed
      simpa using List.find?_eq_none.mp hfound n hmem
  | some n =>
      have htype : n.type = type := by simpa using List.find?_some hfound
      exact congrArg some (htells n (List.mem_of_find?_eq_some hfound) htype)

theorem isEnabled?_eq_none_iff {notifications : List AlarmNotification} {type : AlarmType} :
    isEnabled? notifications type = none ↔ ∀ n ∈ notifications, n.type ≠ type := by
  simp [isEnabled?]

/-- The notifications of a filter tell the bit of each type. -/
theorem isEnabled?_ofFilter (type : AlarmType) :
    isEnabled? (ofFilter filter) type = some (filter.toNat.testBit type.bit) := by
  apply isEnabled?_eq_some
  · exact ⟨_, List.mem_map_of_mem type.mem_all, rfl⟩
  · intro n hmem htype
    obtain ⟨other, -, rfl⟩ := List.mem_map.mp hmem
    obtain rfl : other = type := htype
    exact other.and_mask_bne_zero filter

/-- If no two notifications of a type contradict each other, the first and the last of them say the
same. -/
theorem isEnabled?_eq_lastEnabled? {notifications : List AlarmNotification} {type : AlarmType}
    (h : ∀ n ∈ notifications, ∀ m ∈ notifications, n.type = type → m.type = type →
      n.enabled = m.enabled) : isEnabled? notifications type = lastEnabled? notifications type := by
  by_cases hnamed : ∃ n ∈ notifications, n.type = type
  · obtain ⟨n, hmem, htype⟩ := hnamed
    have htells : ∀ m ∈ notifications, m.type = type → m.enabled = n.enabled :=
      fun m hmem' htype' => h m hmem' n hmem htype' htype
    have hfirst : isEnabled? notifications type = some n.enabled :=
      isEnabled?_eq_some ⟨n, hmem, htype⟩ htells
    have hlast : lastEnabled? notifications type = some n.enabled := by
      apply isEnabled?_eq_some
      · exact ⟨n, List.mem_reverse.mpr hmem, htype⟩
      · intro m hmem'
        exact htells m (List.mem_reverse.mp hmem')
    rw [hfirst, hlast]
  · have hnone : ∀ n ∈ notifications, n.type ≠ type := fun n hmem htype => hnamed ⟨n, hmem, htype⟩
    have hlast : lastEnabled? notifications type = none :=
      isEnabled?_eq_none_iff.mpr fun n hmem => hnone n (List.mem_reverse.mp hmem)
    rw [isEnabled?_eq_none_iff.mpr hnone, hlast]

theorem lastEnabled?_eq_none_iff {type : AlarmType} :
    lastEnabled? notifications type = none ↔ isEnabled? notifications type = none := by
  simp [lastEnabled?, isEnabled?_eq_none_iff]

theorem lastEnabled?_ofFilter (type : AlarmType) :
    lastEnabled? (ofFilter filter) type = some (filter.toNat.testBit type.bit) := by
  rw [← isEnabled?_eq_lastEnabled?, isEnabled?_ofFilter]
  -- The notifications of a filter are one for each type.
  intro n hn m hm htype htype'
  obtain ⟨other, -, rfl⟩ := List.mem_map.mp hn
  obtain ⟨other', -, rfl⟩ := List.mem_map.mp hm
  obtain rfl : other = type := htype
  obtain rfl : other' = other := htype'
  rfl

/-! ## Runs -/

/-- How a request is carried out for the device: the filter is read once. If it is refused or is no
number of 32 bits, or if the notifications leave it as it is, nothing is written; otherwise the
filter that they make of it is written once, and the answer is the result. -/
inductive Course (notifications : List AlarmNotification) (device : Device) :
    Outcome AccessResult → List (Turn Answer) → Prop
  | refused {failure : Failure} {read : Turn Answer}
      (hread : read.Reads device "alarm filter" address (.error failure)) :
      Course notifications device (.error failure)
        [⟨.describe ("SetAlarmNotifications, retrieve attribute: " ++ address.text), ()⟩, read]
  | undecodable {value : Value} {context : String} {fault : Misreading} {read : Turn Answer}
      (hread : read.Reads device "alarm filter" address (.ok value))
      (hvalue : ∀ filter : UInt32, value.number? ≠ some (filter.toNat : Int)) :
      Course notifications device (.error (.decode context fault))
        [⟨.describe ("SetAlarmNotifications, retrieve attribute: " ++ address.text), ()⟩, read]
  | unchanged {value : Value} {filter : UInt32} {read : Turn Answer}
      (hread : read.Reads device "alarm filter" address (.ok value))
      (hvalue : value.number? = some (filter.toNat : Int))
      (hsame : applyTo notifications filter = filter) :
      Course notifications device (.ok .success)
        [⟨.describe ("SetAlarmNotifications, retrieve attribute: " ++ address.text), ()⟩, read]
  | written {value : Value} {filter : UInt32} {read : Turn Answer} (answer : Outcome AccessResult)
      (hread : read.Reads device "alarm filter" address (.ok value))
      (hvalue : value.number? = some (filter.toNat : Int))
      (hchanged : applyTo notifications filter ≠ filter) :
      Course notifications device answer
        [⟨.describe ("SetAlarmNotifications, retrieve attribute: " ++ address.text), ()⟩, read,
          ⟨.describe ("SetAlarmNotifications, set attribute: " ++ address.text), ()⟩,
          ⟨.write ⟨address, .uint32 (applyTo notifications filter)⟩, answer⟩]

theorem ensures_install_course {fair : Turn Answer → Prop} (device : Device) :
    Task.Ensures (recording fair) (install notifications) device [] fun outcome d history =>
      d = device ∧ Course notifications device outcome history := by
  rw [install, Task.ensures_bind, Operation.ensures_describe]
  rintro _ ⟨-, rfl⟩
  dsimp only
  rw [Task.ensures_bind]
  refine (Operation.ensures_readValue_turn device _ address _).imp ?_
  rintro (failure | value) _ _ ⟨rfl, read, rfl, hread⟩
  · exact ⟨rfl, .refused hread⟩
  dsimp only
  have hdecodes := value.decodes_toUInt32 "alarm filter"
  rw [Task.ensures_bind, Operation.ensures_lift]
  cases hvalue : (value.toNarrow "alarm filter" : Outcome UInt32) with
  | error failure =>
      obtain ⟨context, fault, rfl⟩ := hdecodes.failure failure hvalue
      refine ⟨rfl, .undecodable hread fun filter hfilter => ?_⟩
      rw [(hdecodes.ok_iff filter).mpr hfilter] at hvalue
      cases hvalue
  | ok filter =>
      have hfilter := (hdecodes.ok_iff filter).mp hvalue
      dsimp only
      split
      case isTrue hsame => exact Task.ensures_pure.mpr ⟨rfl, .unchanged hread hfilter hsame⟩
      case isFalse hchanged =>
        rw [Task.ensures_bind, Operation.ensures_describe]
        rintro _ ⟨-, rfl⟩
        dsimp only
        rw [Operation.ensures_writeAttribute]
        rintro answer _ ⟨-, rfl⟩
        exact ⟨rfl, .written answer hread hfilter hchanged⟩

def filterAttribute : Attribute :=
  ⟨1, ⟨0, 0, 97, 98, 10, 255⟩, 2⟩

/-- On a meter that holds a value and stores what is written, a request succeeds only if the value
is a filter, and leaves the filter that the notifications make of it; if that is the same, nothing
is written. -/
theorem ensures_install_of_held {σ : Type} {rules : Rules Answer σ}
    {held : σ → Attribute → Option Value} (hstores : StoresWrites rules held) {s : σ}
    {value : Value}
    (hheld : held s filterAttribute = some value) (device : Device) (log : List (Turn Answer)) :
    Task.Ensures (logging rules) (install notifications) device (s, log) fun outcome _ t =>
      (outcome = .ok .success → ∃ (filter : UInt32) (stored : Value),
        held t.1 filterAttribute = some stored ∧
          stored.number? = some ((applyTo notifications filter).toNat : Int)) ∧
      ∀ filter : UInt32, value.number? = some (filter.toNat : Int) →
        applyTo notifications filter = filter →
          outcome = .ok .success ∧ writes t.2 = writes log := by
  rw [install, Task.ensures_bind, Operation.ensures_describe]
  rintro ⟨t, _⟩ ⟨hdescribe, rfl⟩
  rw [← hstores.held_eq_of_describe hdescribe] at hheld
  dsimp only
  rw [Task.ensures_bind]
  refine (Operation.ensures_readValue_logged hstores "alarm filter" hheld _).imp ?_
  rintro _ _ ⟨t, _⟩ ⟨rfl, rfl, hkept, rfl⟩
  dsimp only at hkept
  rw [← hkept] at hheld
  dsimp only
  have hdecodes := value.decodes_toUInt32 "alarm filter"
  rw [Task.ensures_bind, Operation.ensures_lift]
  cases hvalue : (value.toNarrow "alarm filter" : Outcome UInt32) with
  | error failure =>
      refine ⟨nofun, fun filter hfilter => ?_⟩
      rw [(hdecodes.ok_iff filter).mpr hfilter] at hvalue
      cases hvalue
  | ok current =>
      have hcurrent := (hdecodes.ok_iff current).mp hvalue
      dsimp only
      split
      case isTrue hsame =>
        refine Task.ensures_pure.mpr ⟨fun _ => ⟨current, value, hheld, ?_⟩, fun _ _ _ => ⟨rfl, ?_⟩⟩
        · rw [hsame, hcurrent]
        · rw [writes_append]
          exact List.append_nil _
      case isFalse hchanged =>
        rw [Task.ensures_bind, Operation.ensures_describe]
        rintro ⟨t, _⟩ ⟨-, rfl⟩
        dsimp only
        rw [Operation.ensures_writeAttribute]
        rintro answer ⟨t, _⟩ ⟨hwrite, rfl⟩
        constructor
        · rintro rfl
          exact ⟨current, _, hstores.write hwrite, rfl⟩
        · intro filter hfilter hsame
          obtain rfl : current = filter :=
            Except.ok.inj (hvalue.symm.trans ((hdecodes.ok_iff filter).mpr hfilter))
          exact absurd hsame hchanged

/-- The filter that notifications make of a filter has at the bit of each type what the last
notification of the type says, or what the filter has if there is none, and is the filter at every
other bit. So to apply notifications again changes nothing, and those of a filter carry its bits of
alarms over to any other. In every run the filter is read once, and written, at most once, exactly
if it is a number of 32 bits that the notifications change. On a meter that stores what is written a
request that succeeded has nothing to write when it is repeated. -/
theorem install_applies_last_notifications :
    (∀ (notifications : List AlarmNotification) (filter : UInt32),
      (∀ type : AlarmType, (applyTo notifications filter).toNat.testBit type.bit =
        (lastEnabled? notifications type).getD (filter.toNat.testBit type.bit)) ∧
      (∀ index, (∀ type : AlarmType, type.bit ≠ index) →
        (applyTo notifications filter).toNat.testBit index = filter.toNat.testBit index) ∧
      applyTo notifications (applyTo notifications filter) = applyTo notifications filter) ∧
    (∀ filter other : UInt32,
      (∀ type : AlarmType, (applyTo (ofFilter filter) other).toNat.testBit type.bit =
        filter.toNat.testBit type.bit) ∧
      ∀ index, (∀ type : AlarmType, type.bit ≠ index) →
        (applyTo (ofFilter filter) other).toNat.testBit index = other.toNat.testBit index) ∧
    ∀ notifications : List AlarmNotification,
      (∀ fair device outcome d history, Dialogue.Runs (recording fair)
          ((Command.setAlarmNotifications.execute notifications).run.run device) [] (outcome, d)
            history →
        d = device ∧ Course notifications device outcome history) ∧
      ∀ (σ : Type) (rules : Rules Answer σ) (held : σ → Attribute → Option Value),
        StoresWrites rules held → ∀ s t device d value, held s filterAttribute = some value →
        Dialogue.Runs rules ((Command.setAlarmNotifications.execute notifications).run.run device) s
          (.ok .success, d) t →
        ∀ device' outcome d' u log, Dialogue.Runs (logging rules)
          ((Command.setAlarmNotifications.execute notifications).run.run device') (t, [])
            (outcome, d') (u, log) →
        outcome = .ok .success ∧ writes log = [] := by
  refine ⟨fun notifications filter => ⟨testBit_applyTo_bit notifications filter,
    fun _ => testBit_applyTo_of_no_type notifications filter, applyTo_applyTo notifications filter⟩,
    fun filter other => ⟨fun type => ?_, fun _ => testBit_applyTo_of_no_type _ other⟩,
    fun notifications => ⟨fun fair device outcome d history hruns => ?_, ?_⟩⟩
  · rw [testBit_applyTo_bit, lastEnabled?_ofFilter, Option.getD_some]
  · exact ensures_install_course notifications device _ _ hruns
  · intro σ rules held hstores s t device d value hheld hruns device' outcome d' u log hagain
    obtain ⟨before, hlogged⟩ := exists_log hruns []
    obtain ⟨filter, stored, hstored, hfilter⟩ :=
      (ensures_install_of_held notifications hstores hheld device [] _ _ hlogged).1 rfl
    exact (ensures_install_of_held notifications hstores hstored device' [] _ _ hagain).2 _ hfilter
      (applyTo_applyTo notifications filter)

/-- A request with two notifications of one type. -/
def repeatedNotifications : List AlarmNotification :=
  [⟨.clockInvalid, true⟩, ⟨.ramError, true⟩, ⟨.clockInvalid, false⟩]

/-- What a meter holds whose filter is the value. -/
def holding (value : Value) (a : Attribute) : Option Value :=
  if a = filterAttribute then some value else none

/-- The request reaches a meter that reports an invalid clock and a power-up. -/
theorem install_applies_last_notifications_of_repeated :
    ∃ held history log,
      Dialogue.Runs (recording fun _ => True)
        ((Command.setAlarmNotifications.execute repeatedNotifications).run.run keyedDevice) []
        (.ok .success, keyedDevice) history ∧
      Course repeatedNotifications keyedDevice (.ok .success) history ∧
      Dialogue.Runs (fun question s answer t => storingWorld question s = (answer, t))
        ((Command.setAlarmNotifications.execute repeatedNotifications).run.run keyedDevice)
        (holding (.uint32 0b0101)) (.ok .success, keyedDevice) held ∧
      held filterAttribute = some (.uint32 0b0010_0000_0100) ∧
      Dialogue.Runs (logging fun question s answer t => storingWorld question s = (answer, t))
        ((Command.setAlarmNotifications.execute repeatedNotifications).run.run keyedDevice)
        (held, []) (.ok .success, keyedDevice) (held, log) ∧
      writes log = [] := by
  obtain ⟨-, -, hrequests⟩ := install_applies_last_notifications
  obtain ⟨hcourse, hagain⟩ := hrequests repeatedNotifications
  have hrecorded := @Dialogue.runs_recorded _ _ _ (fun _ => True)
    (fun question => (storingWorld question (holding (.uint32 0b0101))).1) (fun _ => trivial)
    ((Command.setAlarmNotifications.execute repeatedNotifications).run.run keyedDevice) []
  have hfirst := runs_storingWorld
    ((Command.setAlarmNotifications.execute repeatedNotifications).run.run keyedDevice)
    (holding (.uint32 0b0101))
  obtain ⟨log, hlogged⟩ := exists_log (runs_storingWorld
    ((Command.setAlarmNotifications.execute repeatedNotifications).run.run keyedDevice) _) []
  exact ⟨_, _, log, hrecorded, (hcourse _ _ _ _ _ hrecorded).2, hfirst, rfl, hlogged,
    (hagain _ _ _ storesWrites_storingWorld _ _ _ _ _ rfl hfirst _ _ _ _ _ hlogged).2⟩

/-! ## What a list says and what it does -/

/-- After notifications have been applied, the state of a type is what the last of them says of it,
or what it was if there is none. What the list is taken to say of the type is its first
notification, so the two agree exactly if the first and the last say the same, as they do where no
notification of the type contradicts another. -/
theorem applyTo_shows_last_notification (notifications : List AlarmNotification) (filter : UInt32)
    (type : AlarmType) :
    isEnabled? (ofFilter (applyTo notifications filter)) type =
        (lastEnabled? notifications type).or (isEnabled? (ofFilter filter) type) ∧
      (isEnabled? (ofFilter (applyTo notifications filter)) type =
          (isEnabled? notifications type).or (isEnabled? (ofFilter filter) type) ↔
        isEnabled? notifications type = lastEnabled? notifications type) ∧
      ((∀ n ∈ notifications, ∀ m ∈ notifications, n.type = type → m.type = type →
          n.enabled = m.enabled) →
        isEnabled? notifications type = lastEnabled? notifications type) := by
  have hshown : isEnabled? (ofFilter (applyTo notifications filter)) type =
      (lastEnabled? notifications type).or (isEnabled? (ofFilter filter) type) := by
    rw [isEnabled?_ofFilter, isEnabled?_ofFilter, testBit_applyTo_bit]
    cases lastEnabled? notifications type <;> rfl
  refine ⟨hshown, ?_, isEnabled?_eq_lastEnabled?⟩
  rw [hshown]
  constructor
  · intro hagree
    cases hlast : lastEnabled? notifications type with
    | none => exact (lastEnabled?_eq_none_iff notifications).mp hlast
    | some last =>
        cases hfirst : isEnabled? notifications type with
        | none =>
            rw [(lastEnabled?_eq_none_iff notifications).mpr hfirst] at hlast
            cases hlast
        | some first =>
            rw [hlast, hfirst] at hagree
            exact hagree.symm
  · intro hsame
    rw [hsame]

/-- Of the repeated type the last notification counts; of the other one the list says what it
does. -/
theorem applyTo_shows_last_notification_of_repeated :
    isEnabled? (ofFilter (applyTo repeatedNotifications 0b0101)) .clockInvalid = some false ∧
      isEnabled? (ofFilter (applyTo repeatedNotifications 0b0101)) .ramError =
        (isEnabled? repeatedNotifications .ramError).or (isEnabled? (ofFilter 0b0101) .ramError) := by
  obtain ⟨hlast, -, -⟩ := applyTo_shows_last_notification repeatedNotifications 0b0101 .clockInvalid
  obtain ⟨-, hagree, hconsistent⟩ :=
    applyTo_shows_last_notification repeatedNotifications 0b0101 .ramError
  exact ⟨hlast.trans (by decide), hagree.mpr (hconsistent (by decide))⟩

/-- A list that turns a type on and then off is taken to turn it on, and turns it off. -/
theorem not_applyTo_shows_isEnabled?_of_contradiction :
    ¬ ∀ (notifications : List AlarmNotification) (filter : UInt32) (type : AlarmType),
      isEnabled? (ofFilter (applyTo notifications filter)) type =
        (isEnabled? notifications type).or (isEnabled? (ofFilter filter) type) := by
  intro h
  have hboth := h [⟨.clockInvalid, true⟩, ⟨.clockInvalid, false⟩] 0 .clockInvalid
  have hshown : isEnabled? (ofFilter (applyTo [⟨.clockInvalid, true⟩, ⟨.clockInvalid, false⟩] 0))
      .clockInvalid = some false := by decide
  rw [hshown] at hboth
  cases hboth

end AlarmNotifications

end HeadEnd
