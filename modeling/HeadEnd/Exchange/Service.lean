import HeadEnd.Bundle.Run
import HeadEnd.Exchange.Opening

/-! # Exchanges

Whole exchanges with a device. The lock of the device is held throughout: its record is loaded, a
session is opened, a bundle or an operation is carried out, and the session is closed. How the
exchange ends does not depend on whether closing succeeds.
-/

namespace HeadEnd.Exchange

/-- An exchange while the lock of the device is held. -/
def locked {α : Type} (identification : String) (exchange : Exchange α) : Exchange α := do
  ask (.acquire identification)
  let result ← exchange
  ask (.release identification)
  return result

/-- The body over a session with the device, or what is made of the failure that there is none. -/
def withSession {α : Type} (identification : String) (onFailure : Failure → α)
    (body : StateT Device Session α) : Exchange α :=
  locked identification do
    match ← ask (.load identification) with
    | .error failure => return onFailure failure
    | .ok device =>
      let (session, device) ← openSession.run.run device
      match session with
      | .error failure => return onFailure failure
      | .ok _ =>
        let (result, _) ← ofSession (body.run device)
        let _ ← ask .close
        return result

/-- Carries out the requests of a bundle that have no response. -/
def handleBundle (registry : Registry) (settings : Settings) (identification : String)
    (bundle : Bundle) : Exchange (Bundle × Outcome Unit) :=
  withSession identification (fun failure => (bundle, .error failure))
    (bundle.run registry settings)

def handleOperation {α : Type} (identification : String) (operation : Operation α) :
    Exchange (Outcome α) :=
  withSession identification .error operation.run

/-- Turns the logging of the sessions with a device on or off. -/
def setDebugMode (identification : String) (enabled : Bool) : Exchange (Outcome Device) :=
  locked identification do
    match ← ask (.load identification) with
    | .error failure => return .error failure
    | .ok device =>
      ask (.session (.save { device with inDebugMode := enabled }))

end HeadEnd.Exchange
