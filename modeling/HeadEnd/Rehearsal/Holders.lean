import HeadEnd.Locks

/-! # Named holders of locks

Device locks that are asked for, given back and given up under names. After every step each of those
who wait tries once to get the lock, the oldest first. A name holds one lock at most: getting
another one gives the first back.
-/

namespace HeadEnd.Rehearsal

/-- The device locks with the names of those who hold them or wait for them. -/
structure Holders where
  locks : Locks := {}
  held : List (String × Ticket) := []
  /-- Who waits, oldest first. -/
  waiting : List (String × Ticket) := []

namespace Holders

/-- Something that someone does. -/
inductive Step where
  | request (name device : String)
  | release (name : String)
  | cancel (name : String)

def ticketsOf (entries : List (String × Ticket)) (name : String) : List Ticket :=
  (entries.filter fun entry => entry.1 == name).map Prod.snd

/-- The entries of all other names. -/
def without (entries : List (String × Ticket)) (name : String) : List (String × Ticket) :=
  entries.filter fun entry => entry.1 != name

/-- A name begins to wait for the lock of a device. -/
def request (holders : Holders) (name device : String) : Holders :=
  let (locks, ticket) := holders.locks.request device
  { holders with locks, waiting := holders.waiting ++ [(name, ticket)] }

/-- A name gives back what it holds. -/
def release (holders : Holders) (name : String) : Holders :=
  { holders with
    locks := (ticketsOf holders.held name).foldl Locks.release holders.locks
    held := without holders.held name }

/-- A name gives up waiting. -/
def cancel (holders : Holders) (name : String) : Holders :=
  { holders with
    locks := (ticketsOf holders.waiting name).foldl Locks.cancel holders.locks
    waiting := without holders.waiting name }

/-- Someone who waits tries to get the lock. The names of those who got one are noted in order. -/
def attempt (state : Holders × List String) (entry : String × Ticket) : Holders × List String :=
  let (holders, acquired) := state
  if holders.locks.mayGrant entry.2 then
    let holders := holders.release entry.1
    ({ locks := holders.locks.grant entry.2
       held := holders.held ++ [entry]
       waiting := holders.waiting.filter fun other => other != entry },
      acquired ++ [entry.1])
  else (holders, acquired)

/-- Everyone who waits tries once to get the lock. -/
def attemptAll (holders : Holders) : Holders × List String :=
  holders.waiting.foldl attempt (holders, [])

/-- The holders after a step and the attempts that follow it, with the names that got a lock. -/
def step (holders : Holders) : Step → Holders × List String
  | .request name device => (holders.request name device).attemptAll
  | .release name => (holders.release name).attemptAll
  | .cancel name => (holders.cancel name).attemptAll

/-- The names of those who hold a lock, in the order of characters. -/
def heldNames (holders : Holders) : List String :=
  (holders.held.map Prod.fst).mergeSort fun a b => decide (a ≤ b)

def waitingNames (holders : Holders) : List String :=
  holders.waiting.map Prod.fst

end Holders

end HeadEnd.Rehearsal
