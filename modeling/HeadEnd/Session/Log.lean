/-! # Session logs

The messages that a session exchanges, each under the description of what it was sent for.
-/

namespace HeadEnd

/-- Which way a message goes. -/
inductive Direction where
  | sent
  | received
  deriving DecidableEq

def Direction.name : Direction → String
  | sent => "sent"
  | received => "received"

structure LogEntry where
  direction : Direction
  description : String
  message : List UInt8

structure SessionLog where
  device : String
  /-- What the next messages are for. -/
  description : String := ""
  entries : List LogEntry := []

namespace SessionLog

/-- Notes what the next messages are for. -/
def describe (log : SessionLog) (text : String) : SessionLog :=
  { log with description := text }

/-- Adds a message under the current description. -/
def capture (log : SessionLog) (direction : Direction) (message : List UInt8) : SessionLog :=
  { log with entries := log.entries ++ [⟨direction, log.description, message⟩] }

end SessionLog

end HeadEnd
