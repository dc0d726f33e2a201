import HeadEnd.Proofs.Cosem.Instant
import HeadEnd.Proofs.Text.Blank
import HeadEnd.Proofs.Text.Decimal
import HeadEnd.Time.Rfc3339

/-! # Times read back from their texts

A text is read part by part. Each part is read back as it was written, because what follows it
begins with a character that cannot belong to it. A time is therefore the time that its text
denotes, if the text can tell the time at all; and no text denotes a time of which that does not
hold.
-/

namespace HeadEnd

open Calendar

namespace Rfc3339

open Decimal

variable {width n : Nat} {rest : List Char}

/-! ## Blanks and digits -/

theorem skipBlanks_cons {c : Char} (h : Blank.isBlank c = false) :
    skipBlanks (c :: rest) = c :: rest :=
  List.dropWhile_cons_of_neg (by simp [h])

theorem skipBlanks_padded : skipBlanks (padded width n ++ rest) = padded width n ++ rest := by
  obtain ⟨c, cs, hpadded, hdigit⟩ := exists_padded_eq_cons width n
  rw [hpadded]
  exact skipBlanks_cons (Blank.isBlank_of_isDigit hdigit)

/-- The text does not go on with a digit. -/
def EndsDigits (rest : List Char) : Prop :=
  ∀ c ∈ rest.head?, c.isDigit = false

theorem spanDigits_padded (h : EndsDigits rest) :
    spanDigits (padded width n ++ rest) = (padded width n, rest) := by
  have hrest : rest.takeWhile Char.isDigit = [] ∧ rest.dropWhile Char.isDigit = rest := by
    cases rest with
    | nil => exact ⟨rfl, rfl⟩
    | cons c cs => simp [h c rfl]
  rw [spanDigits, List.takeWhile_append_of_pos isDigit_of_mem_padded,
    List.dropWhile_append_of_pos isDigit_of_mem_padded, hrest.1, hrest.2, List.append_nil]

/-- As many digits as the numeral has are taken, whatever follows it. -/
theorem takeNumber?_padded (hwidth : 0 < width) (h : n < 10 ^ width) :
    takeNumber? width (padded width n ++ rest) = some (n, rest) := by
  have hlength := length_padded_of_lt hwidth h
  have hdigits : spanDigits (padded width n) = (padded width n, []) := by
    have hends : EndsDigits [] := by simp [EndsDigits]
    simpa using spanDigits_padded hends
  rw [takeNumber?, List.take_left' hlength, hdigits]
  simp [number?_padded]

/-! ## Parts of a text -/

theorem readPart?_padded (h : n < 100) : readPart? (padded 2 n ++ rest) = some (n, rest) := by
  rw [readPart?, skipBlanks_padded]
  exact takeNumber?_padded (by decide) h

theorem readMarked?_padded {mark : Char} (hmark : Blank.isBlank mark = false) (h : n < 100) :
    readMarked? mark (mark :: (padded 2 n ++ rest)) = some (n, rest) := by
  rw [readMarked?, skipBlanks_cons hmark, skip?, if_pos rfl]
  exact readPart?_padded h

theorem readYear?_minus (h : EndsDigits rest) :
    readYear? ('-' :: (padded width n ++ rest)) = some (-(n : Int), rest) := by
  rw [readYear?, skipBlanks_cons rfl]
  simp [spanDigits_padded h, number?_padded]

theorem readYear?_plus (h : EndsDigits rest) :
    readYear? ('+' :: (padded width n ++ rest)) = some ((n : Int), rest) := by
  rw [readYear?, skipBlanks_cons rfl]
  simp [spanDigits_padded h, number?_padded]

theorem readYear?_padded (h : n < 10000) :
    readYear? (padded 4 n ++ rest) = some ((n : Int), rest) := by
  have hread : takeNumber? 4 (padded 4 n ++ rest) = some (n, rest) :=
    takeNumber?_padded (by decide) h
  obtain ⟨c, cs, hpadded, hdigit⟩ := exists_padded_eq_cons 4 n
  rw [readYear?, skipBlanks_padded]
  rw [hpadded] at hread ⊢
  split
  · rename_i heq
    cases heq
    cases hdigit
  · rename_i heq
    cases heq
    cases hdigit
  · rw [hread]
    rfl

theorem readYear?_yearText (h : EndsDigits rest) (year : Int) :
    readYear? ((yearText year).toList ++ rest) = some (year, rest) := by
  unfold yearText
  by_cases hplain : 0 ≤ year ∧ year ≤ 9999
  · rw [if_pos hplain, numeral, String.toList_ofList, readYear?_padded (by omega),
      Int.toNat_of_nonneg hplain.1]
  · rw [if_neg hplain]
    by_cases hnegative : year < 0
    · have hyear : -(year.natAbs : Int) = year := by omega
      have htext : ("-" ++ numeral 4 year.natAbs).toList = '-' :: padded 4 year.natAbs := by
        simp [numeral]
      rw [if_pos hnegative, htext, List.cons_append, readYear?_minus h, hyear]
    · have hyear : (year.natAbs : Int) = year := by omega
      have htext : ("+" ++ numeral 4 year.natAbs).toList = '+' :: padded 4 year.natAbs := by
        simp [numeral]
      rw [if_neg hnegative, htext, List.cons_append, readYear?_plus h, hyear]

/-- What follows a fraction begins with neither a digit nor the mark of a fraction. -/
structure EndsFraction (rest : List Char) : Prop where
  endsDigits : EndsDigits rest
  noMark : ∀ c ∈ rest.head?, c ≠ '.'

/-- A fraction of up to nine digits is read as nanoseconds. -/
theorem readFraction?_padded (hrest : EndsFraction rest) (hwidth : 0 < width) (hnine : width ≤ 9)
    (h : n < 10 ^ width) :
    readFraction? ('.' :: (padded width n ++ rest)) = some (n * 10 ^ (9 - width), rest) := by
  have hlength := length_padded_of_lt hwidth h
  have htake : (padded width n).take 9 = padded width n := List.take_of_length_le (by omega)
  simp only [readFraction?, spanDigits_padded hrest.endsDigits, htake, number?_padded, hlength]
  rfl

theorem readFraction?_of_noMark (h : ∀ c ∈ rest.head?, c ≠ '.') :
    readFraction? rest = some (0, rest) := by
  unfold readFraction?
  split
  · exact absurd rfl (h _ rfl)
  · rfl

theorem readFraction?_fractionText (hrest : EndsFraction rest) (h : n < nanosPerSecond) :
    readFraction? ((fractionText n).toList ++ rest) = some (n, rest) := by
  unfold nanosPerSecond at h
  have hread {width m : Nat} (hwidth : 0 < width) (hnine : width ≤ 9) (hm : m < 10 ^ width)
      (hn : m * 10 ^ (9 - width) = n) :
      readFraction? (("." ++ numeral width m).toList ++ rest) = some (n, rest) := by
    simp [numeral, readFraction?_padded hrest hwidth hnine hm, hn]
  unfold fractionText
  by_cases hzero : n = 0
  · rw [if_pos hzero, hzero]
    exact readFraction?_of_noMark hrest.noMark
  · rw [if_neg hzero]
    by_cases hmilli : n % 1000000 = 0
    · rw [if_pos hmilli]
      exact hread (by decide) (by decide) (by omega) (by omega)
    · rw [if_neg hmilli]
      by_cases hmicro : n % 1000 = 0
      · rw [if_pos hmicro]
        exact hread (by decide) (by decide) (by omega) (by omega)
      · rw [if_neg hmicro]
        exact hread (by decide) (by decide) (by omega) (by omega)

/-! ## Offsets -/

theorem takePair?_padded (h : n < 100) : takePair? (padded 2 n ++ rest) = some (n, rest) := by
  have hlength : (padded 2 n).length = 2 := length_padded_of_lt (by decide) h
  rw [takePair?, if_pos (by simp [hlength]), List.take_left' hlength, List.drop_left' hlength,
    number?_padded]
  rfl

theorem readOffset?_padded {hours minutes : Nat} (hhours : hours < 24) (hminutes : minutes < 60) :
    readOffset? (padded 2 hours ++ ':' :: padded 2 minutes) =
      some (((3600 * hours + 60 * minutes : Nat) : Int), []) := by
  obtain ⟨c, cs, hpadded, hdigit⟩ := exists_padded_eq_cons 2 minutes
  have hskip : (':' :: padded 2 minutes).dropWhile (fun c => c == ':' || Blank.isBlank c) =
      padded 2 minutes := by
    have hmark : c ≠ ':' := by
      rintro rfl
      cases hdigit
    rw [List.dropWhile_cons_of_pos rfl, hpadded]
    exact List.dropWhile_cons_of_neg (by simp [hmark, Blank.isBlank_of_isDigit hdigit])
  have hlast : takePair? (padded 2 minutes) = some (minutes, []) := by
    have hread : takePair? (padded 2 minutes ++ []) = some (minutes, []) :=
      takePair?_padded (by omega)
    rwa [List.append_nil] at hread
  rw [readOffset?, takePair?_padded (by omega)]
  simp only [Option.bind_eq_bind, Option.bind_some, hskip, hlast]
  rw [if_pos ⟨hhours, hminutes⟩]
  rfl

theorem readZone?_plus : readZone? ('+' :: rest) = readOffset? rest := by
  rw [readZone?, skipBlanks_cons rfl]
  rfl

theorem readZone?_minus :
    readZone? ('-' :: rest) = (readOffset? rest).map fun (n, rest) => (-n, rest) := by
  rw [readZone?, skipBlanks_cons rfl]
  rfl

/-- An offset of whole minutes is written without loss. -/
theorem readZone?_offsetText {offset : Int} (hminutes : 60 ∣ offset)
    (hday : offset.natAbs < secondsPerDay) :
    readZone? (offsetText true offset).toList = some (offset, []) := by
  unfold secondsPerDay at hday
  unfold offsetText
  by_cases hzero : offset = 0
  · rw [hzero]
    rfl
  · have hwhole : (offset.natAbs + 30) / 60 = offset.natAbs / 60 := by omega
    have hread : readOffset? (padded 2 (offset.natAbs / 60 / 60) ++
        ':' :: padded 2 (offset.natAbs / 60 % 60)) = some ((offset.natAbs : Int), []) := by
      rw [readOffset?_padded (by omega) (by omega)]
      congr 3
      omega
    rw [if_neg (by simp [hzero])]
    have htext (sign : String) : (sign ++ numeral 2 (offset.natAbs / 60 / 60) ++ ":" ++
        numeral 2 (offset.natAbs / 60 % 60)).toList = sign.toList ++
          (padded 2 (offset.natAbs / 60 / 60) ++ ':' :: padded 2 (offset.natAbs / 60 % 60)) := by
      simp [numeral]
    dsimp only
    rw [hwhole, htext]
    by_cases hnegative : offset < 0
    · have hoffset : -(offset.natAbs : Int) = offset := by omega
      have hsign : "-".toList = ['-'] := rfl
      rw [if_pos hnegative, hsign, List.singleton_append, readZone?_minus, hread, Option.map_some]
      dsimp only
      rw [hoffset]
    · have hoffset : (offset.natAbs : Int) = offset := by omega
      have hsign : "+".toList = ['+'] := rfl
      rw [if_neg hnegative, hsign, List.singleton_append, readZone?_plus, hread, hoffset]

theorem endsFraction_offsetText (zulu : Bool) (offset : Int) :
    EndsFraction (offsetText zulu offset).toList := by
  have hhead : ∀ c ∈ (offsetText zulu offset).toList.head?, c ∈ ['Z', '+', '-'] := by
    unfold offsetText
    split
    · simp
    · split <;> simp
  refine ⟨fun c hc => ?_, fun c hc => ?_⟩
  · have hmem := hhead c hc
    simp only [List.mem_cons, List.not_mem_nil, or_false] at hmem
    rcases hmem with rfl | rfl | rfl <;> rfl
  · rintro rfl
    exact absurd (hhead '.' hc) (by decide)

end Rfc3339

/-! ## Times -/

namespace ZonedTime

/-- The text of a time tells it: the offset is a whole number of minutes and shorter than a day, the
nanoseconds stay within their second or within the leap second at the end of a minute, and the
instant and the local date lie within the covered years. -/
structure IsStorable (time : ZonedTime) : Prop where
  wholeMinutes : 60 ∣ time.offset
  withinDay : time.offset.natAbs < secondsPerDay
  nanos : time.instant.nanos < 2 * nanosPerSecond
  leap : time.instant.IsLeap → time.civil.second = 59
  representable : time.instant.Representable
  covered : Instant.IsCovered time.civil.date

instance (time : ZonedTime) : Decidable time.IsStorable :=
  decidable_of_iff
    (60 ∣ time.offset ∧ time.offset.natAbs < secondsPerDay ∧
      time.instant.nanos < 2 * nanosPerSecond ∧
      (time.instant.IsLeap → time.civil.second = 59) ∧ time.instant.Representable ∧
      Instant.IsCovered time.civil.date)
    ⟨fun ⟨h₁, h₂, h₃, h₄, h₅, h₆⟩ => ⟨h₁, h₂, h₃, h₄, h₅, h₆⟩,
      fun ⟨h₁, h₂, h₃, h₄, h₅, h₆⟩ => ⟨h₁, h₂, h₃, h₄, h₅, h₆⟩⟩

end ZonedTime

namespace Rfc3339

open Decimal

/-- The second that a text shows, and the nanoseconds after it: a leap second is the second 60. -/
def shownSecond (t : LocalTime) : Nat × Nat :=
  if nanosPerSecond ≤ t.nanos then (t.second + 1, t.nanos - nanosPerSecond) else (t.second, t.nanos)

theorem toList_stored (time : ZonedTime) :
    (stored time).toList = (yearText time.civil.date.year).toList ++
      '-' :: (padded 2 time.civil.date.month ++ '-' :: (padded 2 time.civil.date.day ++
        'T' :: (padded 2 time.civil.hour ++ ':' :: (padded 2 time.civil.minute ++
          ':' :: (padded 2 (shownSecond time.civil).1 ++
            ((fractionText (shownSecond time.civil).2).toList ++
              (offsetText true time.offset).toList)))))) := by
  unfold stored civilText shownSecond
  split <;> simp [*, numeral]

/-- What is left of a text after its parts were read decides the time that it denotes. -/
theorem read?_stored_eq {time : ZonedTime} (h : time.IsStorable)
    (hsecond : (shownSecond time.civil).1 < 100)
    (hnanos : (shownSecond time.civil).2 < nanosPerSecond) :
    read? (stored time) =
      if (shownSecond time.civil).1 ≤ 60 then
        let leap := (shownSecond time.civil).1 = 60
        let read := ZonedTime.ofCivil time.civil.date time.civil.hour time.civil.minute
          (if leap then 59 else (shownSecond time.civil).1)
          (if leap then (shownSecond time.civil).2 + nanosPerSecond
            else (shownSecond time.civil).2) time.offset
        if read.instant.Representable then some read else none
      else none := by
  obtain ⟨hdate, _, hhour, hminute, _⟩ := time.isShown_civil
  have hday := CosemDateTime.day_le_31 hdate
  have hmonth := hdate.2.1
  have hdash : ∀ cs, EndsDigits ('-' :: cs) := by
    rintro cs c ⟨⟩
    rfl
  rw [read?, toList_stored, readYear?_yearText (hdash _)]
  simp only [Option.bind_eq_bind, Option.bind_some]
  rw [readMarked?_padded rfl (by omega)]
  simp only [Option.bind_some]
  rw [readMarked?_padded rfl (by omega)]
  simp only [Option.bind_some, skipDivider?]
  rw [readPart?_padded (by omega)]
  simp only [Option.bind_some]
  rw [readMarked?_padded rfl (by omega)]
  simp only [Option.bind_some]
  rw [readMarked?_padded rfl hsecond]
  simp only [Option.bind_some]
  rw [readFraction?_fractionText (endsFraction_offsetText _ _) hnanos]
  simp only [Option.bind_some]
  rw [readZone?_offsetText h.wholeMinutes h.withinDay]
  simp only [Option.bind_some]
  simp [skipBlanks, h.covered, hdate, hhour, hminute]

/-- A time is the one that its text denotes. -/
theorem read?_stored {time : ZonedTime} (h : time.IsStorable) :
    read? (stored time) = some time := by
  have hrange := h.nanos
  have htime : ZonedTime.ofCivil time.civil.date time.civil.hour time.civil.minute
      time.civil.second time.instant.nanos time.offset = time := time.ofCivil_civil _
  by_cases hleap : time.instant.IsLeap
  · have hshown : shownSecond time.civil = (60, time.instant.nanos - nanosPerSecond) := by
      rw [shownSecond, h.leap hleap]
      exact if_pos hleap
    have hnanos : time.instant.nanos - nanosPerSecond + nanosPerSecond = time.instant.nanos :=
      Nat.sub_add_cancel hleap
    rw [h.leap hleap] at htime
    rw [read?_stored_eq h (by simp [hshown]) (by rw [hshown]; dsimp only; omega), hshown]
    simp [hnanos, htime, h.representable]
  · have hshown : shownSecond time.civil = (time.civil.second, time.instant.nanos) := if_neg hleap
    have hnanos : time.instant.nanos < nanosPerSecond := Nat.not_le.mp hleap
    have hsecond := time.isShown_civil.second
    rw [read?_stored_eq h (by rw [hshown]; dsimp only; omega) (by rw [hshown]; exact hnanos),
      hshown]
    have hinside : time.civil.second ≤ 60 ∧ time.civil.second ≠ 60 := by omega
    simp [hinside, htime, h.representable]

/-! ## What a text can denote -/

theorem lt_of_readFraction? {cs : List Char} (h : readFraction? cs = some (n, rest)) :
    n < nanosPerSecond := by
  unfold readFraction? at h
  split at h
  · rename_i tail
    obtain ⟨m, hm, hn⟩ := Option.map_eq_some_iff.mp h
    obtain ⟨rfl, -⟩ := Prod.mk.inj hn
    have hlt := lt_of_number? hm
    generalize hds : (spanDigits tail).1.take 9 = ds at *
    have hnine : ds.length ≤ 9 := by
      rw [← hds]
      exact List.length_take_le _ _
    have hpower : 10 ^ ds.length * 10 ^ (9 - ds.length) = nanosPerSecond := by
      rw [← Nat.pow_add, Nat.add_sub_cancel' hnine]
      rfl
    rw [← hpower]
    exact Nat.mul_lt_mul_of_pos_right hlt (Nat.pow_pos (by decide))
  · cases h
    decide

variable {cs : List Char} {offset : Int}

theorem offset_of_readOffset? (h : readOffset? cs = some (offset, rest)) :
    60 ∣ offset ∧ offset.natAbs < secondsPerDay := by
  simp only [readOffset?, Option.bind_eq_bind, Option.bind_eq_some_iff] at h
  obtain ⟨⟨hours, _⟩, -, ⟨minutes, _⟩, -, h⟩ := h
  obtain ⟨⟨hhours, hminutes⟩, h⟩ := Option.ite_none_right_eq_some.mp h
  cases h
  unfold secondsPerDay
  dsimp only at hhours hminutes ⊢
  omega

theorem offset_of_readZone? (h : readZone? cs = some (offset, rest)) :
    60 ∣ offset ∧ offset.natAbs < secondsPerDay := by
  have hnegative {tail : List Char}
      (h : ((readOffset? tail).map fun (n, rest) => (-n, rest)) = some (offset, rest)) :
      60 ∣ offset ∧ offset.natAbs < secondsPerDay := by
    obtain ⟨⟨positive, _⟩, hpositive, heq⟩ := Option.map_eq_some_iff.mp h
    cases heq
    obtain ⟨hminutes, hday⟩ := offset_of_readOffset? hpositive
    exact ⟨Int.dvd_neg.mpr hminutes, by rwa [Int.natAbs_neg]⟩
  unfold readZone? at h
  split at h
  · exact offset_of_readOffset? h
  · exact hnegative h
  · exact hnegative h
  · split at h
    · cases h
      decide
    · obtain ⟨-, h⟩ := Option.ite_none_right_eq_some.mp h
      cases h
      decide

/-- A clock that shows a date and a time of day tells a storable time. -/
theorem isStorable_ofCivil {date : CivilDate} {hour minute second nanos : Nat} (hdate : date.Valid)
    (hcovered : Instant.IsCovered date) (hhour : hour < 24) (hminute : minute < 60)
    (hsecond : second < 60) (hnanos : nanos < 2 * nanosPerSecond)
    (hleap : nanosPerSecond ≤ nanos → second = 59) (hwhole : 60 ∣ offset)
    (hday : offset.natAbs < secondsPerDay)
    (hrepresentable :
      (ZonedTime.ofCivil date hour minute second nanos offset).instant.Representable) :
    (ZonedTime.ofCivil date hour minute second nanos offset).IsStorable := by
  have hcivil := ZonedTime.civil_ofCivil hdate hhour hminute hsecond nanos offset
  refine ⟨hwhole, hday, hnanos, fun h => ?_, hrepresentable, ?_⟩
  · rw [hcivil]
    exact hleap h
  · rw [hcivil]
    exact hcovered

/-- Every time that a text denotes is storable. -/
theorem isStorable_of_read? {text : String} {time : ZonedTime} (h : read? text = some time) :
    time.IsStorable := by
  simp only [read?, Option.bind_eq_bind, Option.bind_eq_some_iff] at h
  obtain ⟨_, -, _, -, _, -, _, -, _, -, _, -, ⟨second, _⟩, -, ⟨nanos, _⟩, hnanos, ⟨offset, _⟩,
    hoffset, h⟩ := h
  dsimp only at h
  have hlt := lt_of_readFraction? hnanos
  obtain ⟨hwhole, hday⟩ := offset_of_readZone? hoffset
  obtain ⟨⟨-, hcovered, hdate, hhour, hminute, hsecond⟩, h⟩ := Option.ite_none_right_eq_some.mp h
  obtain ⟨hrepresentable, h⟩ := Option.ite_none_right_eq_some.mp h
  obtain rfl := Option.some.inj h
  refine isStorable_ofCivil hdate hcovered hhour hminute ?_ ?_ ?_ hwhole hday hrepresentable
  · split <;> omega
  · split <;> omega
  · split <;> omega

/-- The times that are the ones that their texts denote are the storable ones. -/
theorem read?_stored_iff {time : ZonedTime} : read? (stored time) = some time ↔ time.IsStorable :=
  ⟨isStorable_of_read?, read?_stored⟩

end Rfc3339

end HeadEnd
