import HeadEnd.Request.Basic
import HeadEnd.Response

/-! # Commands

A command is a named operation with an input and an output of its own. A command that answers a kind
of request also tells how to take its input from a request and how to put its output into a
response.
-/

namespace HeadEnd

/-- How a command answers requests of one kind. -/
structure Handling (Input Output : Type) where
  kind : RequestKind
  /-- The input that a request of the kind holds. -/
  input? : Request → Option Input
  respond : Output → Outcome Response

/-- A named operation. -/
structure Command where
  name : String
  Input : Type
  Output : Type
  execute : Input → Operation Output
  /-- Commands without handling stand alone. -/
  handling : Option (Handling Input Output) := none

/-- A command as seen by those who have a request to be answered. -/
structure Handler where
  name : String
  kind? : Option RequestKind
  handle : Request → Operation Response

namespace Command

/-- Answers a request; a request that the command does not answer is refused before anything is
asked. -/
def handle (command : Command) (request : Request) : Operation Response :=
  let misdirected : Failure := .protocol (.misdirected command.name request.kind)
  match command.handling with
  | none => throw misdirected
  | some handling =>
    match handling.input? request with
    | none => throw misdirected
    | some input => do
      let output ← command.execute input
      handling.respond output

def toHandler (command : Command) : Handler where
  name := command.name
  kind? := command.handling.map Handling.kind
  handle := command.handle

end Command

end HeadEnd
