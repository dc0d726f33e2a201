import HeadEnd.Profile.Range
import HeadEnd.Session.Reading
import HeadEnd.Time.Rfc3339

/-! # Event logs

What a meter has noted, in four logs. A log is a profile whose entries hold the clock, the code of
an event and, in some logs, a counter.
-/

namespace HeadEnd

inductive EventLog where
  | standard
  | fraudDetection
  | communicationSession
  | mBus
  deriving DecidableEq

namespace EventLog

def all : List EventLog :=
  [standard, fraudDetection, communicationSession, mBus]

def name : EventLog → String
  | standard => "STANDARD_EVENT_LOG"
  | fraudDetection => "FRAUD_DETECTION_LOG"
  | communicationSession => "COMMUNICATION_SESSION_LOG"
  | mBus => "M_BUS_EVENT_LOG"

def logicalName : EventLog → ObisCode
  | standard => ⟨0, 0, 99, 98, 0, 255⟩
  | fraudDetection => ⟨0, 0, 99, 98, 1, 255⟩
  | communicationSession => ⟨0, 0, 99, 98, 4, 255⟩
  | mBus => ⟨0, 0, 99, 98, 3, 255⟩

end EventLog

/-- Which entries of which log are asked for. -/
structure EventQuery where
  log : EventLog
  span : Profile.Span

structure Event where
  time : ZonedTime
  code : Int64
  /-- Only in logs that hold a counter. -/
  counter : Option Int64
  log : EventLog

namespace EventQuery

def context (query : EventQuery) : String :=
  query.log.name ++ " buffer"

/-- The counter of an entry, if the entry goes on after the code. -/
def readCounter? (query : EventQuery) (rest : List Value) : Outcome (Option Int64) :=
  match rest with
  | counter :: _ => counter.toInteger? ("Event counter from " ++ query.context)
  | [] => .ok none

/-- An entry of the buffer, if its clock denotes an instant. -/
def readEntry? (query : EventQuery) (entry : Value) : Outcome (Option Event) :=
  match entry with
  | .tuple (clock :: code :: rest) => do
    match ← clock.toZoned? ("Clock from " ++ query.context) with
    | none => return none
    | some time =>
      let code ← code.toInteger ("Event code from " ++ query.context)
      let counter ← query.readCounter? rest
      return some { time, code, counter, log := query.log }
  | entry => .error (.unexpected query.context .event entry)

/-- The events of the buffer, in its order. -/
def readBuffer (query : EventQuery) (buffer : Value) : Outcome (List Event) := do
  let entries ← buffer.toElements query.context
  return (← entries.mapM query.readEntry?).filterMap id

def fetch (query : EventQuery) : Operation (List Event) := do
  let selection ← Profile.rangeSelection query.span []
  let address : AttributeAddress :=
    { Profile.bufferAddress query.log.logicalName with selection := some selection }
  Operation.describe
    ("RetrieveEvents for " ++ query.log.name ++ " from " ++ Rfc3339.shown query.span.start ++
      " until " ++ Rfc3339.shown query.span.finish ++ ", retrieve attribute: " ++ address.text)
  let buffer ← Operation.readValue ("events for " ++ query.log.name) address
  query.readBuffer buffer

/-- Reads the events of several queries, one query after the other. -/
def fetchAll (queries : List EventQuery) : Operation (List Event) := do
  return (← queries.mapM fetch).flatten

end EventQuery

end HeadEnd
