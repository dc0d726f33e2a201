import HeadEnd.Bundle.Basic
import HeadEnd.Command.Registry
import HeadEnd.Settings

/-! # Running bundles

The requests of a bundle that have no response are carried out in order. A failure becomes the
response of its request and the next request is carried out; only the loss of the connection ends
the run, and leaves its request without a response.
-/

namespace HeadEnd.Bundle

/-- How a run ends: with all requests answered, or with the loss of the connection. -/
abbrev RunResult := List Action × Outcome Unit

/-- The response to a request, or the loss of the connection. -/
def respond (registry : Registry) (settings : Settings) (request : Request)
    (device : Device) : Session (Outcome Response × Device) :=
  match registry.find? request.kind with
  | none =>
    return (.ok (.fault (.plain settings.defaultFaultMessage settings.component
      device.identification)), device)
  | some handler => do
    let (outcome, device) ← (handler.handle request).run device
    match outcome with
    | .ok response => return (.ok response, device)
    | .error failure =>
      if failure.isConnectionLoss then return (.error failure, device)
      else
        let fallback := "Error handling request with " ++ handler.name
        return (.ok (.fault (.ofFailure failure fallback settings.component
          device.identification)), device)

def runActions (registry : Registry) (settings : Settings) :
    List Action → StateT Device Session RunResult
  | [] => return ([], .ok ())
  | action :: rest =>
    if action.isCompleted then do
      let (rest, outcome) ← runActions registry settings rest
      return (action :: rest, outcome)
    else do
      match ← respond registry settings action.request with
      | .ok response =>
        let (rest, outcome) ← runActions registry settings rest
        return ({ action with response := some response } :: rest, outcome)
      | .error failure => return (action :: rest, .error failure)

def run (registry : Registry) (settings : Settings) (bundle : Bundle) :
    StateT Device Session (Bundle × Outcome Unit) := do
  let (actions, outcome) ← runActions registry settings bundle.actions
  return (⟨actions⟩, outcome)

end HeadEnd.Bundle
