import HeadEnd.Command.Catalogue
import HeadEnd.Proofs.Cosem.Description
import HeadEnd.Proofs.Key.Staging
import HeadEnd.Proofs.Session.Batching
import HeadEnd.Proofs.Session.Reading

/-! # What a dump lists

With a meter that answers every read, a dump has an entry for each attribute that the objects of the
association list, in their order. An entry is a line, unless the value has elements: these stand on
further lines.
-/

namespace HeadEnd

/-! ## What is read -/

/-- An attribute that was asked for, with the result that came back. -/
structure Reading where
  address : AttributeAddress
  result : GetResult

/-- The attributes that were asked for with one request, each with its result. -/
def Reading.each (addresses : List AttributeAddress) (results : List GetResult) : List Reading :=
  List.zipWith Reading.mk addresses results

/-- What was read in a turn. -/
def Turn.readings : Turn Answer → List Reading
  | ⟨.read address, .ok result⟩ => [⟨address, result⟩]
  | ⟨.readBatch addresses, .ok results⟩ => Reading.each addresses results
  | _ => []

/-- If the turn is a read, it brings one result for each attribute that was asked for. -/
def Turn.IsAnsweredInFull : Turn Answer → Prop
  | ⟨.read _, answer⟩ => ∃ result, answer = .ok result
  | ⟨.readBatch addresses, answer⟩ =>
    ∃ results, answer = .ok results ∧ results.length = addresses.length
  | _ => True

theorem Reading.map_address_each {addresses : List AttributeAddress} {results : List GetResult}
    (h : results.length = addresses.length) :
    (each addresses results).map Reading.address = addresses := by
  rw [each, ← List.map_uncurry_zip_eq_zipWith, List.map_map]
  exact List.map_fst_zip (Nat.le_of_eq h.symm)

namespace Operation

variable {α β : Type}

/-- With a meter that answers every read the operation succeeds, leaves the device record as it is, and
ends as `post` says in view of what it has read. -/
def Gathers (x : Operation α) (post : List Reading → α → Prop) : Prop :=
  ∀ device before, Task.Ensures (recording Turn.IsAnsweredInFull) x device before
    fun outcome d history => d = device ∧ ∃ own a, history = before ++ own ∧ outcome = .ok a ∧
      post (own.flatMap Turn.readings) a

variable {x : Operation α} {f : α → Operation β} {post post' : List Reading → α → Prop}

theorem Gathers.imp (h : x.Gathers post) (himp : ∀ readings a, post readings a → post' readings a) :
    x.Gathers post' := by
  intro device before
  refine (h device before).imp ?_
  rintro _ _ _ ⟨rfl, own, a, rfl, rfl, hpost⟩
  exact ⟨rfl, own, a, rfl, rfl, himp _ _ hpost⟩

theorem gathers_pure (a : α) :
    (pure a : Operation α).Gathers fun readings b => readings = [] ∧ b = a :=
  fun _ before => Task.ensures_pure.mpr ⟨rfl, [], a, by simp, rfl, rfl, rfl⟩

theorem gathers_describe (text : String) :
    (describe text).Gathers fun readings _ => readings = [] := by
  intro device before
  rw [ensures_describe]
  rintro _ ⟨-, rfl⟩
  exact ⟨rfl, _, (), rfl, rfl, rfl⟩

theorem gathers_readAttribute (address : AttributeAddress) :
    (readAttribute address).Gathers fun readings result => readings = [⟨address, result⟩] := by
  intro device before
  rw [ensures_readAttribute]
  rintro _ _ ⟨⟨result, rfl⟩, rfl⟩
  exact ⟨rfl, _, result, rfl, rfl, rfl⟩

theorem gathers_readBatch (addresses : List AttributeAddress) :
    (readBatch addresses).Gathers fun readings results =>
      results.length = addresses.length ∧ readings = Reading.each addresses results := by
  intro device before
  rw [ensures_readBatch]
  rintro _ _ ⟨⟨results, rfl, hlength⟩, rfl⟩
  exact ⟨rfl, _, results, rfl, rfl, hlength, by simp [Turn.readings]⟩

theorem Gathers.bind {post' : α → List Reading → β → Prop}
    (hx : x.Gathers post) (hf : ∀ first a, post first a → (f a).Gathers (post' a)) :
    (x >>= f).Gathers fun readings b =>
      ∃ first a rest, post first a ∧ post' a rest b ∧ readings = first ++ rest := by
  intro device before
  rw [Task.ensures_bind]
  refine (hx device before).imp ?_
  rintro _ _ _ ⟨rfl, own, a, rfl, rfl, hpost⟩
  refine (hf _ a hpost _ _).imp ?_
  rintro _ _ _ ⟨rfl, own', b, rfl, rfl, hpost'⟩
  exact ⟨rfl, own ++ own', b, by simp, rfl, _, a, _, hpost, hpost', by simp⟩

/-- What holds of no steps, and goes on to hold with one more step before the others, holds of all
steps. -/
theorem gathers_mapM {step : α → List Reading → β → Prop}
    (whole : List α → List Reading → List β → Prop) (hf : ∀ a, (f a).Gathers (step a))
    (hnil : whole [] [] [])
    (hcons : ∀ a as first b rest bs, step a first b → whole as rest bs →
      whole (a :: as) (first ++ rest) (b :: bs))
    (as : List α) : (as.mapM f).Gathers (whole as) := by
  induction as with
  | nil =>
      refine (gathers_pure []).imp ?_
      rintro _ _ ⟨rfl, rfl⟩
      exact hnil
  | cons a as ih =>
      rw [List.mapM_cons]
      refine ((hf a).bind fun _ b _ => ih.bind fun _ bs _ => gathers_pure (b :: bs)).imp ?_
      rintro _ _ ⟨first, b, _, hfirst, ⟨rest, bs, _, hrest, ⟨rfl, rfl⟩, rfl⟩, rfl⟩
      rw [List.append_nil]
      exact hcons _ _ _ _ _ _ hfirst hrest

theorem gathers_readEach (addresses : List AttributeAddress) :
    (addresses.mapM readAttribute).Gathers fun readings results =>
      results.length = addresses.length ∧ readings = Reading.each addresses results := by
  apply gathers_mapM (fun addresses readings results =>
    results.length = addresses.length ∧ readings = Reading.each addresses results)
    gathers_readAttribute ⟨rfl, rfl⟩
  rintro address rest _ result _ results rfl ⟨hlength, rfl⟩
  exact ⟨congrArg (· + 1) hlength, rfl⟩

theorem gathers_readAll (addresses : List AttributeAddress) :
    (readAll addresses).Gathers fun readings results =>
      readings = Reading.each addresses results.val := by
  have hcounted (results : List GetResult) (hlength : results.length = addresses.length) :
      (liftM (counted addresses results) : Operation _).Gathers fun readings found =>
        readings = [] ∧ found.val = results := by
    rw [counted, dif_pos hlength]
    refine (gathers_pure _).imp ?_
    rintro _ _ ⟨rfl, rfl⟩
    exact ⟨rfl, rfl⟩
  have hread (device : Device) :
      (if device.supportsBatchedRead then readBatch addresses
        else addresses.mapM readAttribute : Operation _).Gathers fun readings results =>
        results.length = addresses.length ∧ readings = Reading.each addresses results := by
    split
    · exact gathers_readBatch addresses
    · exact gathers_readEach addresses
  intro device before
  have hboth := (hread device).bind fun _ results h => hcounted results h.1
  rw [readAll_eq, Task.ensures_bind, Task.ensures_get]
  refine (hboth device before).imp ?_
  rintro _ _ _ ⟨rfl, own, found, rfl, rfl, _, results, _, ⟨-, rfl⟩, ⟨rfl, hfound⟩, hown⟩
  rw [List.append_nil, ← hfound] at hown
  exact ⟨rfl, own, found, rfl, rfl, hown⟩

/-- The value of an attribute is that of the one result which is read. -/
theorem ensures_readValue_reading (device : Device) (context : String) (address : AttributeAddress)
    (before : List (Turn Answer)) :
    Task.Ensures (recording Turn.IsAnsweredInFull) (readValue context address) device before
      fun outcome d history => d = device ∧ ∃ own result, history = before ++ own ∧
        own.flatMap Turn.readings = [⟨address, result⟩] ∧
        outcome = onlyValue context [result] := by
  rintro ⟨outcome, d⟩ history hruns
  obtain ⟨own, rfl, hown⟩ := hruns.exists_own []
  obtain ⟨rfl, turn, hturn, hreads⟩ := ensures_readValue_turn device context address before _ _ hruns
  obtain rfl : own = [turn] := List.append_cancel_left hturn
  have hfull := hown.forall_fair (fun _ hmem => absurd hmem List.not_mem_nil) turn (by simp)
  refine ⟨rfl, [turn], ?_⟩
  cases hreads with
  | alone answer _ =>
      obtain ⟨result, rfl⟩ := hfull
      exact ⟨result, rfl, rfl, rfl⟩
  | batched answer _ =>
      obtain ⟨results, rfl, hlength⟩ := hfull
      obtain ⟨result, rfl⟩ := List.length_eq_one_iff.mp hlength
      exact ⟨result, rfl, rfl, rfl⟩

end Operation

/-! ## What is listed -/

theorem AttributeAddress.isOneLine_text (address : AttributeAddress) : IsOneLine address.text := by
  unfold text addressText
  split <;> simp +decide [ObisCode.isOneLine_extended]

theorem AccessResult.isOneLine_label (result : AccessResult) : IsOneLine result.label := by
  cases result with
  | unknown code => simp +decide [label]
  | _ => decide

namespace Association

open Operation

/-- The entry of an attribute: its address with its value, or with why the read was refused. -/
def entry (reading : Reading) : String :=
  if reading.result.result.isSuccess then
    reading.address.text ++ " = " ++ reading.result.value.describe
  else reading.address.text ++ " : " ++ reading.result.result.label

/-- The lines of the entry: those of the description of the value, with the address before the first
one, or a single one for a refused read. -/
def entryLines (reading : Reading) : List String :=
  if reading.result.result.isSuccess then
    ((reading.result.value.linesAt 0).map Value.Line.text).modifyHead
      (reading.address.text ++ " = " ++ ·)
  else [entry reading]

/-- The value that was read, if one was, has no elements. -/
def IsFlat (reading : Reading) : Prop :=
  reading.result.result.isSuccess = true → reading.result.value.elements?.getD [] = []

variable {reading : Reading}

theorem isLinesOf_entryLines (reading : Reading) :
    IsLinesOf (entryLines reading) (entry reading ++ "\n") := by
  have haddress := reading.address.isOneLine_text
  have hlabel := reading.result.result.isOneLine_label
  unfold entryLines
  split
  · rename_i hsuccess
    have hne : (reading.result.value.linesAt 0).map Value.Line.text ≠ [] := by
      simpa using Value.linesAt_ne_nil 0 reading.result.value
    have hfront : IsOneLine (reading.address.text ++ " = ") :=
      isOneLine_append.mpr ⟨haddress, by decide⟩
    rw [entry, if_pos hsuccess, String.append_assoc]
    exact (Value.isLinesOf_describe reading.result.value).modifyHead hne hfront
  · rename_i hrefused
    apply IsLinesOf.single
    rw [entry, if_neg hrefused]
    simp +decide [haddress, hlabel]

theorem length_entryLines_eq_one_iff : (entryLines reading).length = 1 ↔ IsFlat reading := by
  unfold entryLines IsFlat
  split
  · rename_i hsuccess
    rw [List.length_modifyHead, List.length_map, Value.length_linesAt_eq_one_iff]
    exact ⟨fun h _ => h, fun h => h hsuccess⟩
  · rename_i hrefused
    exact iff_of_true rfl fun hsuccess => absurd hsuccess hrefused

theorem entryLines_of_isFlat (h : IsFlat reading) : entryLines reading = [entry reading] := by
  obtain ⟨line, hline⟩ := List.length_eq_one_iff.mp (length_entryLines_eq_one_iff.mpr h)
  have hjoin := (isLinesOf_entryLines reading).eq_join
  rw [hline, List.map_singleton, String.join_cons, String.join_nil, String.append_empty] at hjoin
  rw [hline, (String.append_left_inj "\n").mp hjoin]

theorem dumpLine_eq (address : AttributeAddress) (result : GetResult) :
    dumpLine address result = entry ⟨address, result⟩ ++ "\n" := by
  unfold dumpLine entry
  split <;> rfl

theorem isLinesOf_entries (readings : List Reading) :
    IsLinesOf (readings.flatMap entryLines)
      (String.join (readings.map fun reading => entry reading ++ "\n")) := by
  induction readings with
  | nil => exact .nil
  | cons reading rest ih =>
      rw [List.flatMap_cons, List.map_cons, String.join_cons]
      exact (isLinesOf_entryLines reading).append ih

/-! ## Dumps -/

theorem gathers_dumpObject (object : ObjectItem) :
    (dumpObject object).Gathers fun readings text =>
      readings.map Reading.address = object.addresses ∧
        IsLinesOf (readings.flatMap entryLines) text := by
  unfold dumpObject
  split
  · rename_i hempty
    refine (gathers_pure "").imp ?_
    rintro _ _ ⟨rfl, rfl⟩
    exact ⟨(List.isEmpty_iff.mp hempty).symm, .nil⟩
  · refine ((gathers_describe _).bind fun _ _ _ =>
      (gathers_readAll object.addresses).bind fun _ results _ => gathers_pure _).imp ?_
    rintro _ _ ⟨_, _, _, rfl, ⟨_, ⟨results, hlength⟩, _, rfl, ⟨rfl, rfl⟩, rfl⟩, rfl⟩
    have hlines := isLinesOf_entries (Reading.each object.addresses results)
    rw [Reading.each, List.map_zipWith] at hlines
    simp only [← dumpLine_eq] at hlines
    rw [List.append_nil, List.nil_append]
    exact ⟨Reading.map_address_each hlength, hlines⟩

theorem gathers_dumpEach (objects : List ObjectItem) :
    (objects.mapM dumpObject).Gathers fun readings texts =>
      readings.map Reading.address = objects.flatMap ObjectItem.addresses ∧
        IsLinesOf (readings.flatMap entryLines) (String.join texts) := by
  apply gathers_mapM (fun objects readings texts =>
    readings.map Reading.address = objects.flatMap ObjectItem.addresses ∧
      IsLinesOf (readings.flatMap entryLines) (String.join texts)) gathers_dumpObject ⟨rfl, .nil⟩
  rintro object rest first text others texts ⟨haddresses, hlines⟩ ⟨hothers, hrest⟩
  rw [List.map_append, List.flatMap_append, List.flatMap_cons, haddresses, hothers, String.join_cons]
  exact ⟨rfl, hlines.append hrest⟩

theorem ensures_dump (device : Device) :
    Task.Ensures (recording Turn.IsAnsweredInFull) dump device [] fun r d history =>
      d = device ∧ ∃ first readings,
        history.flatMap Turn.readings = ⟨objectListAddress, first⟩ :: readings ∧
        ∀ list objects, first = .success list →
          readObjects list "association object list" = .ok objects →
          readings.map Reading.address = objects.flatMap ObjectItem.addresses ∧
          ∃ text, r = .ok text ∧ IsLinesOf (readings.flatMap entryLines) text := by
  rw [dump, Task.ensures_bind, ensures_describe]
  rintro _ ⟨-, rfl⟩
  dsimp only
  rw [Task.ensures_bind]
  refine (ensures_readValue_reading _ _ _ _).imp ?_
  rintro outcome _ _ ⟨rfl, own, first, rfl, hown, rfl⟩
  cases hvalue : onlyValue "association object list" [first] with
  | error failure =>
      refine ⟨rfl, first, [], by simp [Turn.readings, hown], fun list objects hfirst _ => ?_⟩
      rw [hfirst] at hvalue
      cases hvalue
  | ok value =>
      obtain rfl : first = .success value := by simpa using onlyValue_eq_ok_iff.mp hvalue
      dsimp only
      rw [Task.ensures_bind, ensures_lift]
      cases hobjects : readObjects value "association object list" with
      | error failure =>
          refine ⟨rfl, .success value, [], by simp [Turn.readings, hown],
            fun list objects hfirst hread => ?_⟩
          cases hfirst
          rw [hobjects] at hread
          cases hread
      | ok objects =>
          have hdump := (gathers_dumpEach objects).bind fun _ texts _ =>
            gathers_pure (String.join texts)
          refine (hdump _ _).imp ?_
          rintro _ _ _ ⟨rfl, rest, _, rfl, rfl, found, texts, _, hlists, ⟨rfl, rfl⟩, hrest⟩
          rw [List.append_nil] at hrest
          refine ⟨rfl, .success value, found, by simp [Turn.readings, hown, hrest], ?_⟩
          rintro _ _ ⟨⟩ hread
          cases hobjects.symm.trans hread
          exact ⟨hlists.1, _, rfl, hlists.2⟩

/-- With a meter that answers every read, a dump reads the list of objects and then every attribute
that the objects list, in their order, and succeeds if that list can be read. Its text has an entry for
each attribute: the address with the value, or with why the read was refused. Of the lines of the text
an entry takes one, and more only for a value with elements. -/
theorem dump_lists_every_attribute :
    (∀ reading, IsLinesOf (entryLines reading) (entry reading ++ "\n") ∧
      ((entryLines reading).length = 1 ↔ IsFlat reading)) ∧
    ∀ device r d history, Dialogue.Runs (recording Turn.IsAnsweredInFull)
        ((Command.retrieveConfigurationObjects.execute ()).run.run device) [] (r, d) history →
      d = device ∧ ∃ first readings,
        history.flatMap Turn.readings = ⟨objectListAddress, first⟩ :: readings ∧
        ∀ list objects, first = .success list →
          readObjects list "association object list" = .ok objects →
          readings.map Reading.address = objects.flatMap ObjectItem.addresses ∧
          ∃ text, r = .ok text ∧ IsLinesOf (readings.flatMap entryLines) text ∧
            ((∀ reading ∈ readings, IsFlat reading) → IsLinesOf (readings.map entry) text) := by
  refine ⟨fun reading => ⟨isLinesOf_entryLines reading, length_entryLines_eq_one_iff⟩, ?_⟩
  intro device r d history hruns
  obtain ⟨hdevice, first, readings, hreadings, hlists⟩ := ensures_dump device _ _ hruns
  refine ⟨hdevice, first, readings, hreadings, fun list objects hfirst hobjects => ?_⟩
  obtain ⟨haddresses, text, rfl, hlines⟩ := hlists list objects hfirst hobjects
  refine ⟨haddresses, text, rfl, hlines, fun hflat => ?_⟩
  have hsingle : readings.flatMap entryLines = readings.map entry := by
    rw [List.map_eq_flatMap]
    exact List.flatMap_congr fun reading hmem => entryLines_of_isFlat (hflat reading hmem)
  rwa [hsingle] at hlines

/-- A list of one object with two attributes. -/
def statusList : Value :=
  .array [.tuple [.uint16 1, .uint8 0, .octets [0, 1, 94, 31, 0, 255],
    .tuple [.array [.tuple [.int8 1, .enumerate 1, .null], .tuple [.int8 2, .enumerate 1, .null]],
      .array []]]]

/-- A meter with that list, which refuses the first attribute and has a structure in the second. -/
def statusResult (address : AttributeAddress) : GetResult :=
  if address.classId = 15 then .success statusList
  else if address.attributeId = 1 then .refusal .readWriteDenied
  else .success (.tuple [.null])

/-- A world with that meter in which nothing goes wrong. -/
def statusAnswer : (question : Question) → Answer question
  | .read address => .ok (statusResult address)
  | .readBatch addresses => .ok (addresses.map statusResult)
  | question => obligingAnswer question

theorem isAnsweredInFull_statusAnswer (question : Question) :
    Turn.IsAnsweredInFull ⟨question, statusAnswer question⟩ := by
  cases question with
  | read address => exact ⟨_, rfl⟩
  | readBatch addresses => exact ⟨_, rfl, List.length_map _⟩
  | _ => trivial

/-- The results of that meter, in the order in which they are read. -/
def statusReadings : List Reading :=
  [⟨{ classId := 1, name := ⟨0, 1, 94, 31, 0, 255⟩, attributeId := 1 }, .refusal .readWriteDenied⟩,
    ⟨{ classId := 1, name := ⟨0, 1, 94, 31, 0, 255⟩, attributeId := 2 }, .success (.tuple [.null])⟩]

theorem exists_runs_statusAnswer :
    ∃ r d history, Dialogue.Runs (recording Turn.IsAnsweredInFull)
        ((Command.retrieveConfigurationObjects.execute ()).run.run keyedDevice) [] (r, d) history ∧
      history.flatMap Turn.readings = ⟨objectListAddress, .success statusList⟩ :: statusReadings :=
  ⟨_, _, _, Dialogue.runs_recorded isAnsweredInFull_statusAnswer _ [], rfl⟩

theorem lines_statusReadings : statusReadings.flatMap entryLines =
    ["\x7b1,0-1:94.31.0.255,1\x7d : READ_WRITE_DENIED",
      "\x7b1,0-1:94.31.0.255,2\x7d = STRUCTURE (1 elements) [", "  NULL_DATA", "]"] := by
  decide

/-- A refused attribute takes one line of the text, a structure of one element takes three. -/
theorem dump_lists_every_attribute_of_status :
    ∃ text d history, Dialogue.Runs (recording Turn.IsAnsweredInFull)
        ((Command.retrieveConfigurationObjects.execute ()).run.run keyedDevice) [] (.ok text, d)
          history ∧
      IsLinesOf ["\x7b1,0-1:94.31.0.255,1\x7d : READ_WRITE_DENIED",
        "\x7b1,0-1:94.31.0.255,2\x7d = STRUCTURE (1 elements) [", "  NULL_DATA", "]"] text := by
  obtain ⟨r, d, history, hruns, hreadings⟩ := exists_runs_statusAnswer
  obtain ⟨-, first, readings, hfirst, hlists⟩ := dump_lists_every_attribute.2 _ _ _ _ hruns
  obtain ⟨hlist, rfl⟩ := List.cons.inj (hreadings.symm.trans hfirst)
  obtain ⟨-, text, rfl, hlines, -⟩ := hlists statusList _ (Reading.mk.inj hlist).2.symm rfl
  rw [lines_statusReadings] at hlines
  exact ⟨text, d, history, hruns, hlines⟩

/-- The lines of a text may be more than the attributes that are listed. -/
theorem not_dump_one_line_per_attribute :
    ¬ ∀ device r d history, Dialogue.Runs (recording Turn.IsAnsweredInFull)
        ((Command.retrieveConfigurationObjects.execute ()).run.run device) [] (r, d) history →
      ∀ list objects readings,
        history.flatMap Turn.readings = ⟨objectListAddress, .success list⟩ :: readings →
        readObjects list "association object list" = .ok objects →
        ∃ text lines, r = .ok text ∧ IsLinesOf lines text ∧
          lines.length = (objects.flatMap ObjectItem.addresses).length := by
  intro hclaim
  obtain ⟨r, d, history, hruns, hreadings⟩ := exists_runs_statusAnswer
  obtain ⟨objects, hobjects⟩ :
      ∃ objects, readObjects statusList "association object list" = .ok objects := ⟨_, rfl⟩
  obtain ⟨_, first, readings, hfirst, hlists⟩ := ensures_dump _ _ _ hruns
  obtain ⟨hlist, rfl⟩ := List.cons.inj (hreadings.symm.trans hfirst)
  obtain ⟨haddresses, text, rfl, hentries⟩ :=
    hlists statusList objects (Reading.mk.inj hlist).2.symm hobjects
  obtain ⟨text', lines, htext, hlines, hlength⟩ := hclaim _ _ _ _ hruns _ _ _ hreadings hobjects
  obtain rfl := Except.ok.inj htext
  have hcount : (statusReadings.flatMap entryLines).length = lines.length :=
    hentries.length_eq.trans hlines.length_eq.symm
  rw [lines_statusReadings, hlength, ← haddresses] at hcount
  cases hcount

end Association

end HeadEnd
