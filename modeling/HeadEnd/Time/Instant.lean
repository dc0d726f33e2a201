import HeadEnd.Time.Calendar

/-! # Instants

Points of time on the scale of civil seconds, to the nanosecond. A leap second has no number of its
own: it is told from the second before it by a nanosecond count above one second.
-/

namespace HeadEnd

open Calendar

def secondsPerDay : Nat := 86400

def nanosPerSecond : Nat := 1000000000

/-- A point of time: seconds since 1970-01-01T00:00:00Z and nanoseconds after that second. -/
structure Instant where
  seconds : Int
  nanos : Nat
  deriving DecidableEq

namespace Instant

protected def le (s t : Instant) : Prop :=
  s.seconds < t.seconds ∨ (s.seconds = t.seconds ∧ s.nanos ≤ t.nanos)

instance : LE Instant := ⟨Instant.le⟩

instance (s t : Instant) : Decidable (s ≤ t) :=
  inferInstanceAs (Decidable (_ ∨ (_ ∧ _)))

/-- The instant lies inside a leap second. -/
def IsLeap (t : Instant) : Prop :=
  nanosPerSecond ≤ t.nanos

instance (t : Instant) : Decidable t.IsLeap :=
  inferInstanceAs (Decidable (_ ≤ _))

/-- The first year that the clock arithmetic covers. -/
def firstYear : Int := -262143

def lastYear : Int := 262142

/-- The first second of the first covered year. -/
def firstSecond : Int := -8334601228800

/-- The last second of the last covered year. -/
def lastSecond : Int := 8210266876799

def Representable (t : Instant) : Prop :=
  firstSecond ≤ t.seconds ∧ t.seconds ≤ lastSecond

instance (t : Instant) : Decidable t.Representable :=
  inferInstanceAs (Decidable (_ ∧ _))

def IsCovered (date : CivilDate) : Prop :=
  firstYear ≤ date.year ∧ date.year ≤ lastYear

instance (date : CivilDate) : Decidable (IsCovered date) :=
  inferInstanceAs (Decidable (_ ∧ _))

/-- The instant a number of minutes earlier, or later when the number is negative. Moving out of a
leap second counts it as the last second of its minute; an instant outside the covered years has no
place. -/
def minutesEarlier? (t : Instant) (minutes : Int) : Option Instant :=
  let moved : Instant :=
    if t.IsLeap ∧ minutes ≠ 0 then
      { seconds := t.seconds - 60 * minutes + (if 0 < minutes then 1 else 0)
        nanos := t.nanos - nanosPerSecond }
    else { t with seconds := t.seconds - 60 * minutes }
  if moved.Representable then some moved else none

end Instant

/-- Civil date and time of day, without a time zone. -/
structure LocalTime where
  date : CivilDate
  /-- From 1 for Monday to 7 for Sunday. -/
  weekday : Nat
  hour : Nat
  minute : Nat
  second : Nat
  /-- From one second on inside a leap second. -/
  nanos : Nat
  deriving DecidableEq

/-- The civil time shown at an instant by a clock that runs in UTC. -/
def Instant.civil (t : Instant) : LocalTime :=
  let days := t.seconds / secondsPerDay
  let second := (t.seconds % secondsPerDay).toNat
  { date := CivilDate.ofDays days
    weekday := Calendar.weekday days
    hour := second / 3600
    minute := second / 60 % 60
    second := second % 60
    nanos := t.nanos }

/-- The instant at which a clock that runs in UTC shows the given date and time of day. -/
def Instant.ofCivil (date : CivilDate) (hour minute second nanos : Nat) : Instant :=
  { seconds := date.toDays * secondsPerDay + (3600 * hour + 60 * minute + second : Nat)
    nanos := nanos }

/-- An instant together with the offset of the time zone it is told in. -/
structure ZonedTime where
  instant : Instant
  /-- Seconds that local time is ahead of UTC. -/
  offset : Int
  deriving DecidableEq

namespace ZonedTime

def civil (t : ZonedTime) : LocalTime :=
  Instant.civil { t.instant with seconds := t.instant.seconds + t.offset }

def utc (t : Instant) : ZonedTime :=
  ⟨t, 0⟩

/-- The zoned time at which local clocks show the given date and time of day. -/
def ofCivil (date : CivilDate) (hour minute second nanos : Nat) (offset : Int) : ZonedTime :=
  let shown := Instant.ofCivil date hour minute second nanos
  ⟨{ shown with seconds := shown.seconds - offset }, offset⟩

end ZonedTime

end HeadEnd
