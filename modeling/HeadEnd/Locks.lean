/-! # Device locks

One lock for each device, so that two exchanges never use one device at once. A lock is made when a
device is first asked for and dropped from the table once nobody holds it or waits for it. Whoever
waits for a lock gets it in the order of the requests.
-/

namespace HeadEnd

/-- A request for a lock, from the moment it is made until the lock is given back. -/
structure Ticket where
  /-- The number of the request. -/
  number : Nat
  /-- The number of the lock. -/
  lock : Nat
  deriving DecidableEq

/-- The locks of all devices. -/
structure Locks where
  /-- The locks by device. -/
  table : List (String × Nat) := []
  /-- The number of the next lock to be made. -/
  nextLock : Nat := 0
  /-- The number of the next request. -/
  nextTicket : Nat := 0
  held : List Ticket := []
  /-- The requests that wait, oldest first. -/
  waiting : List Ticket := []

namespace Locks

/-- Somebody holds the lock. -/
def isHeld (locks : Locks) (lock : Nat) : Bool :=
  locks.held.any fun ticket => ticket.lock == lock

/-- Somebody holds the lock or waits for it. -/
def isUsed (locks : Locks) (lock : Nat) : Bool :=
  locks.isHeld lock || locks.waiting.any fun ticket => ticket.lock == lock

/-- The number of devices whose lock is held or waited for. -/
def activeDevices (locks : Locks) : Nat :=
  locks.table.countP fun entry => locks.isUsed entry.2

/-- The locks without those that nobody uses. -/
def prune (locks : Locks) : Locks :=
  { locks with table := locks.table.filter fun entry => locks.isUsed entry.2 }

def lock? (locks : Locks) (device : String) : Option Nat :=
  (locks.table.find? fun entry => entry.1 == device).map Prod.snd

/-- The locks with one for the device, and its number. -/
def withLock (locks : Locks) (device : String) : Locks × Nat :=
  match locks.lock? device with
  | some lock => (locks, lock)
  | none =>
    ({ locks with
        table := locks.table ++ [(device, locks.nextLock)]
        nextLock := locks.nextLock + 1 },
      locks.nextLock)

/-- Someone begins to wait for the lock of a device. -/
def request (locks : Locks) (device : String) : Locks × Ticket :=
  let (locks, lock) := locks.prune.withLock device
  let ticket : Ticket := ⟨locks.nextTicket, lock⟩
  ({ locks with
      nextTicket := locks.nextTicket + 1
      waiting := locks.waiting ++ [ticket] },
    ticket)

/-- The lock that a ticket waits for is free, and nobody asked for it earlier. -/
def mayGrant (locks : Locks) (ticket : Ticket) : Bool :=
  !locks.isHeld ticket.lock &&
    locks.waiting.find? (fun other => other.lock == ticket.lock) == some ticket

/-- A ticket that waits gets its lock. -/
def grant (locks : Locks) (ticket : Ticket) : Locks :=
  { locks with
    held := locks.held ++ [ticket]
    waiting := locks.waiting.filter fun other => other != ticket }

/-- Someone gives a lock back. -/
def release (locks : Locks) (ticket : Ticket) : Locks :=
  { locks with held := locks.held.filter fun other => other != ticket }

/-- Someone gives up waiting. -/
def cancel (locks : Locks) (ticket : Ticket) : Locks :=
  { locks with waiting := locks.waiting.filter fun other => other != ticket }

end Locks

end HeadEnd
