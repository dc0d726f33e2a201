import HeadEnd.Stored.Basic
import HeadEnd.Time.Rfc3339

/-! # Stored times

Times are stored as texts. An instant without a time zone is stored in UTC and read from any zone.
-/

namespace HeadEnd

instance : Stored ZonedTime where
  write t := .text (Rfc3339.stored t)
  read?
    | _, .text s => Rfc3339.read? s
    | _, _ => none

instance : Stored Instant where
  write t := .text (Rfc3339.stored (.utc t))
  read?
    | _, .text s => (Rfc3339.read? s).map ZonedTime.instant
    | _, _ => none

end HeadEnd
