import HeadEnd.Request.Basic
import HeadEnd.Response

/-! # Bundles

Requests to one meter that are answered one after the other over one session. A request that has its
response is not carried out again, so a bundle can be taken up where it was interrupted.
-/

namespace HeadEnd

/-- A request with its response, once it has one. -/
structure Action where
  request : Request
  response : Option Response := none

def Action.isCompleted (action : Action) : Bool :=
  action.response.isSome

/-- Requests in the order in which they are carried out. -/
structure Bundle where
  actions : List Action

namespace Bundle

/-- The bundle of requests that have not been carried out. -/
def ofRequests (requests : List Request) : Bundle :=
  ⟨requests.map fun request => { request }⟩

/-- The number of requests without a response. -/
def pending (bundle : Bundle) : Nat :=
  bundle.actions.countP fun action => !action.isCompleted

def isCompleted (bundle : Bundle) : Bool :=
  bundle.pending == 0

def responses (bundle : Bundle) : List (Option Response) :=
  bundle.actions.map Action.response

end Bundle

end HeadEnd
