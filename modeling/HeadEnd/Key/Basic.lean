import HeadEnd.Key.Kind
import HeadEnd.Time.Instant

/-! # Security keys

A key of a meter with the window in which it is in use. What state a key is in follows from its
window and the clock.
-/

namespace HeadEnd

/-- The state of a key at an instant. -/
inductive KeyState where
  /-- In use. -/
  | valid
  /-- No longer in use. -/
  | expired
  /-- Stored, but not known to be in use by the meter. -/
  | new
  /-- To be used later. -/
  | notYetValid
  deriving DecidableEq

def KeyState.name : KeyState → String
  | valid => "Valid"
  | expired => "Expired"
  | new => "New"
  | notYetValid => "NotYetValid"

structure SecurityKey where
  kind : KeyKind
  /-- The encrypted key in hexadecimal digits. -/
  material : String
  /-- When the key came into use, unless the meter has not confirmed it. -/
  validFrom : Option Instant
  /-- When the key went out of use. -/
  validTo : Option Instant
  deriving DecidableEq

namespace SecurityKey

/-- A key that the meter has not confirmed. -/
def unconfirmed (kind : KeyKind) (material : String) : SecurityKey :=
  ⟨kind, material, none, none⟩

/-- The instant has come at `now`. -/
def hasCome (time : Option Instant) (now : Instant) : Bool :=
  match time with
  | some t => decide (t ≤ now)
  | none => false

/-- The state of a key. A key whose end has come is expired, whatever its beginning. -/
def state (key : SecurityKey) (now : Instant) : KeyState :=
  if hasCome key.validTo now then .expired
  else if key.validFrom = none then .new
  else if hasCome key.validFrom now then .valid
  else .notYetValid

def isIn (key : SecurityKey) (state : KeyState) (now : Instant) : Bool :=
  key.state now == state

def is (key : SecurityKey) (kind : KeyKind) (state : KeyState) (now : Instant) : Bool :=
  key.kind == kind && key.isIn state now

/-- The key, out of use from `now` on. -/
def endedAt (key : SecurityKey) (now : Instant) : SecurityKey :=
  { key with validTo := some now }

/-- The key, in use from `now` on. -/
def begunAt (key : SecurityKey) (now : Instant) : SecurityKey :=
  { key with validFrom := some now }

end SecurityKey

end HeadEnd
