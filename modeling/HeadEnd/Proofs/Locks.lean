import HeadEnd.Locks
import Mathlib.Data.Finset.Card
import Mathlib.Data.Finset.Dedup
import Mathlib.Data.List.Nodup

/-! # Locks and devices

Requests name devices, but tickets and locks carry numbers. A ledger notes which request was made
for which device. Whatever happens to the locks, all requests for a device that hold or wait share
one lock, and no other device has it; so what one lock grants to its waiters is what the device
grants to those who asked for it.
-/

namespace HeadEnd.Locks

/-! ## Granting -/

/-- The first of those who wait for a free lock may have it. -/
theorem mayGrant_iff {locks : Locks} {ticket : Ticket} : locks.mayGrant ticket = true ↔
    locks.held.filter (fun other => other.lock == ticket.lock) = [] ∧
      (locks.waiting.filter fun other => other.lock == ticket.lock).head? = some ticket := by
  simp [mayGrant, isHeld, List.head?_filter]

theorem isUsed_iff {locks : Locks} {lock : Nat} : locks.isUsed lock = true ↔
    ∃ ticket, (ticket ∈ locks.held ∨ ticket ∈ locks.waiting) ∧ ticket.lock = lock := by
  simp only [isUsed, isHeld, Bool.or_eq_true, List.any_eq_true, beq_iff_eq]
  constructor
  · rintro (⟨ticket, hmem, hlock⟩ | ⟨ticket, hmem, hlock⟩)
    · exact ⟨ticket, .inl hmem, hlock⟩
    · exact ⟨ticket, .inr hmem, hlock⟩
  · rintro ⟨ticket, hmem | hmem, hlock⟩
    · exact .inl ⟨ticket, hmem, hlock⟩
    · exact .inr ⟨ticket, hmem, hlock⟩

/-! ## Requests -/

/-- The entries that a request finds are those whose lock somebody uses. -/
theorem mem_prune {locks : Locks} {entry : String × Nat} :
    entry ∈ locks.prune.table ↔ entry ∈ locks.table ∧ locks.isUsed entry.2 = true :=
  List.mem_filter

/-- A request takes the next number and waits for the lock of its device: the one that the table
has after idle locks were dropped, or a new one. -/
theorem request_cases (locks : Locks) (device : String) : ∃ lock table nextLock,
    locks.request device =
      ({ locks with
          table, nextLock
          nextTicket := locks.nextTicket + 1
          waiting := locks.waiting ++ [⟨locks.nextTicket, lock⟩] },
        ⟨locks.nextTicket, lock⟩) ∧
    ((table = locks.prune.table ∧ nextLock = locks.nextLock ∧ (device, lock) ∈ table) ∨
      (table = locks.prune.table ++ [(device, lock)] ∧ nextLock = locks.nextLock + 1 ∧
        lock = locks.nextLock ∧ ∀ entry ∈ locks.prune.table, entry.1 ≠ device)) := by
  cases hfind : locks.prune.table.find? fun entry => entry.1 == device with
  | some entry =>
      have hdevice : entry.1 = device := by simpa using List.find?_some hfind
      have hlock : locks.prune.lock? device = some entry.2 := by rw [lock?, hfind]; rfl
      refine ⟨entry.2, locks.prune.table, locks.nextLock, ?_, .inl ⟨rfl, rfl, ?_⟩⟩
      · simp only [request, withLock, hlock]
        rfl
      · rw [← hdevice]
        exact List.mem_of_find?_eq_some hfind
  | none =>
      have hlock : locks.prune.lock? device = none := by rw [lock?, hfind]; rfl
      refine ⟨locks.nextLock, _, locks.nextLock + 1, ?_, .inr ⟨rfl, rfl, rfl, ?_⟩⟩
      · simp only [request, withLock, hlock]
        rfl
      · simpa using hfind

/-! ## Ledgers -/

/-- The locks, with all requests so far and the devices that they were made for. -/
structure Ledger where
  locks : Locks := {}
  /-- Oldest first. -/
  requests : List (Ticket × String) := []

namespace Ledger

/-- One thing happens to the locks. -/
inductive Step : Ledger → Ledger → Prop where
  | request (ledger : Ledger) (device : String) :
      Step ledger
        { locks := (ledger.locks.request device).1
          requests := ledger.requests ++ [((ledger.locks.request device).2, device)] }
  | grant (ledger : Ledger) (ticket : Ticket) : ledger.locks.mayGrant ticket = true →
      Step ledger { ledger with locks := ledger.locks.grant ticket }
  | release (ledger : Ledger) (ticket : Ticket) : ticket ∈ ledger.locks.held →
      Step ledger { ledger with locks := ledger.locks.release ticket }
  | cancel (ledger : Ledger) (ticket : Ticket) : ticket ∈ ledger.locks.waiting →
      Step ledger { ledger with locks := ledger.locks.cancel ticket }

/-- Some number of steps leads to the ledger, from one without locks. -/
inductive Reachable : Ledger → Prop where
  | start : Reachable {}
  | step {ledger ledger' : Ledger} : Reachable ledger → Step ledger ledger' → Reachable ledger'

variable {ledger ledger' : Ledger} {ticket ticket' : Ticket} {device device' : String}

/-- The ticket holds its lock or waits for it. -/
def IsInUse (ledger : Ledger) (ticket : Ticket) : Prop :=
  ticket ∈ ledger.locks.held ∨ ticket ∈ ledger.locks.waiting

instance (ledger : Ledger) (ticket : Ticket) : Decidable (ledger.IsInUse ticket) :=
  inferInstanceAs (Decidable (_ ∨ _))

def holders (ledger : Ledger) (device : String) : List Ticket :=
  ledger.locks.held.filter fun ticket => (ticket, device) ∈ ledger.requests

def waiters (ledger : Ledger) (device : String) : List Ticket :=
  ledger.locks.waiting.filter fun ticket => (ticket, device) ∈ ledger.requests

/-- The devices whose lock somebody holds or waits for. -/
def devicesInUse (ledger : Ledger) : Finset String :=
  ((ledger.requests.filter fun entry => ledger.IsInUse entry.1).map Prod.snd).toFinset

theorem mem_devicesInUse : device ∈ ledger.devicesInUse ↔
    ∃ ticket, (ticket, device) ∈ ledger.requests ∧ ledger.IsInUse ticket := by
  simp [devicesInUse]

/-! ## The invariant -/

/-- The numbers of tickets and locks tell devices apart. -/
structure IsSound (ledger : Ledger) : Prop where
  /-- Requests are counted. -/
  numbers : ledger.requests.map (fun entry => entry.1.number) = List.range ledger.locks.nextTicket
  /-- Those who wait do so in the order in which they came. -/
  waiting : ledger.locks.waiting.Sublist (ledger.requests.map Prod.fst)
  held : ∀ ticket ∈ ledger.locks.held, ticket ∈ ledger.requests.map Prod.fst
  /-- Whoever holds or waits does so at the lock that the table has for the device. -/
  entries : ∀ ticket device, (ticket, device) ∈ ledger.requests → ledger.IsInUse ticket →
    (device, ticket.lock) ∈ ledger.locks.table
  devices : (ledger.locks.table.map Prod.fst).Nodup
  locks : (ledger.locks.table.map Prod.snd).Nodup
  made : ∀ entry ∈ ledger.locks.table, entry.2 < ledger.locks.nextLock
  /-- No lock is held twice. -/
  exclusive : (ledger.locks.held.map Ticket.lock).Nodup

namespace IsSound

theorem exists_device (h : ledger.IsSound) (hticket : ledger.IsInUse ticket) :
    ∃ device, (ticket, device) ∈ ledger.requests := by
  have hmem : ticket ∈ ledger.requests.map Prod.fst := by
    rcases hticket with hheld | hwaiting
    · exact h.held ticket hheld
    · exact h.waiting.subset hwaiting
  obtain ⟨⟨_, device⟩, hentry, rfl⟩ := List.mem_map.mp hmem
  exact ⟨device, hentry⟩

/-- A request is made for one device. -/
theorem device_eq (h : ledger.IsSound) (hmem : (ticket, device) ∈ ledger.requests)
    (hmem' : (ticket, device') ∈ ledger.requests) : device = device' := by
  have hnodup : (ledger.requests.map fun entry => entry.1.number).Nodup := by
    rw [h.numbers]
    exact List.nodup_range
  exact (Prod.mk.inj (List.inj_on_of_nodup_map hnodup hmem hmem' rfl)).2

/-- Those who hold or wait share a lock exactly if they asked for the same device. -/
theorem lock_eq_iff (h : ledger.IsSound) (hmem : (ticket, device) ∈ ledger.requests)
    (hticket : ledger.IsInUse ticket) (hticket' : ledger.IsInUse ticket') :
    ticket'.lock = ticket.lock ↔ (ticket', device) ∈ ledger.requests := by
  have hentry := h.entries ticket device hmem hticket
  constructor
  · intro hlock
    obtain ⟨device', hmem'⟩ := h.exists_device hticket'
    have hentry' := h.entries ticket' device' hmem' hticket'
    have hsame := List.inj_on_of_nodup_map h.locks hentry' hentry hlock
    rwa [(Prod.mk.inj hsame).1] at hmem'
  · intro hmem'
    have hentry' := h.entries ticket' device hmem' hticket'
    have hsame := List.inj_on_of_nodup_map h.devices hentry' hentry rfl
    exact (Prod.mk.inj hsame).2

theorem lt_nextTicket (h : ledger.IsSound) (hmem : ticket ∈ ledger.requests.map Prod.fst) :
    ticket.number < ledger.locks.nextTicket := by
  obtain ⟨entry, hentry, rfl⟩ := List.mem_map.mp hmem
  have hnumber : entry.1.number ∈ ledger.requests.map fun entry => entry.1.number :=
    List.mem_map_of_mem hentry
  simpa [h.numbers] using hnumber

/-! ## Steps -/

theorem start : IsSound {} where
  numbers := rfl
  waiting := .refl _
  held := by simp
  entries := by simp
  devices := .nil
  locks := .nil
  made := by simp
  exclusive := .nil

/-- The table after a request still tells devices and locks apart, and has lost no entry that is
used. -/
theorem request (h : ledger.IsSound) (device : String) :
    IsSound
      { locks := (ledger.locks.request device).1
        requests := ledger.requests ++ [((ledger.locks.request device).2, device)] } := by
  obtain ⟨lock, table, nextLock, hrequest, htable⟩ := ledger.locks.request_cases device
  have hpruned : ledger.locks.prune.table.Sublist ledger.locks.table := List.filter_sublist
  have hkept : ∀ entry ∈ ledger.locks.prune.table, entry ∈ table := by
    rcases htable with ⟨rfl, -⟩ | ⟨rfl, -⟩ <;> simp +contextual
  have hnew : (device, lock) ∈ table := by
    rcases htable with ⟨-, -, hmem⟩ | ⟨rfl, -⟩
    · exact hmem
    · simp
  have hfresh : ∀ entry ∈ ledger.requests, entry.1 ≠ ⟨ledger.locks.nextTicket, lock⟩ := by
    intro entry hentry heq
    have hlt := h.lt_nextTicket (List.mem_map_of_mem hentry)
    simp [heq] at hlt
  rw [hrequest]
  refine ⟨?_, ?_, ?_, ?_, ?_, ?_, ?_, h.exclusive⟩
  · simp [h.numbers, List.range_succ]
  · rw [List.map_append]
    exact h.waiting.append_right _
  · intro ticket hheld
    simpa using .inl (by simpa using h.held ticket hheld)
  · intro ticket other hmem hticket
    rcases List.mem_append.mp hmem with hmem | hmem
    · have hbefore : ledger.IsInUse ticket := by
        have hne := hfresh _ hmem
        simpa [IsInUse, hne] using hticket
      refine hkept _ (mem_prune.mpr ⟨h.entries ticket other hmem hbefore, ?_⟩)
      exact isUsed_iff.mpr ⟨ticket, hbefore, rfl⟩
    · obtain ⟨rfl, rfl⟩ := Prod.mk.inj (List.mem_singleton.mp hmem)
      exact hnew
  · have hdevices := (hpruned.map Prod.fst).nodup h.devices
    rcases htable with ⟨rfl, -⟩ | ⟨rfl, -, -, hother⟩
    · exact hdevices
    · rw [List.map_append, List.nodup_append']
      refine ⟨hdevices, by simp, ?_⟩
      simpa using fun lock' hmem => hother (device, lock') hmem rfl
  · have hlocks := (hpruned.map Prod.snd).nodup h.locks
    rcases htable with ⟨rfl, -⟩ | ⟨rfl, -, rfl, -⟩
    · exact hlocks
    · rw [List.map_append, List.nodup_append']
      refine ⟨hlocks, by simp, ?_⟩
      have hlt : ∀ entry ∈ ledger.locks.prune.table, entry.2 < ledger.locks.nextLock :=
        fun entry hentry => h.made entry (hpruned.subset hentry)
      simpa using fun device' hmem => (hlt (device', ledger.locks.nextLock) hmem).ne rfl
  · have hmade : ∀ entry ∈ ledger.locks.prune.table, entry.2 < ledger.locks.nextLock :=
      fun entry hentry => h.made entry (hpruned.subset hentry)
    rcases htable with ⟨rfl, rfl, -⟩ | ⟨rfl, rfl, rfl, -⟩
    · exact hmade
    · intro entry hentry
      rcases List.mem_append.mp hentry with hentry | hentry
      · exact Nat.lt_succ_of_lt (hmade entry hentry)
      · rw [List.mem_singleton.mp hentry]
        exact Nat.lt_succ_self _

/-- Fewer waiters at the same table. -/
theorem of_waiting_sublist (h : ledger.IsSound) {held waiting : List Ticket}
    (hwaiting : waiting.Sublist ledger.locks.waiting)
    (hheld : ∀ ticket ∈ held, ledger.IsInUse ticket) (hexclusive : (held.map Ticket.lock).Nodup) :
    IsSound { ledger with locks := { ledger.locks with held, waiting } } where
  numbers := h.numbers
  waiting := hwaiting.trans h.waiting
  held ticket hticket := by
    obtain ⟨device, hmem⟩ := h.exists_device (hheld ticket hticket)
    exact List.mem_map_of_mem hmem
  entries ticket device hmem hticket := by
    refine h.entries ticket device hmem ?_
    rcases hticket with hticket | hticket
    · exact hheld ticket hticket
    · exact .inr (hwaiting.subset hticket)
  devices := h.devices
  locks := h.locks
  made := h.made
  exclusive := hexclusive

theorem grant (h : ledger.IsSound) (hgrant : ledger.locks.mayGrant ticket = true) :
    IsSound { ledger with locks := ledger.locks.grant ticket } := by
  obtain ⟨hfree, hfirst⟩ := mayGrant_iff.mp hgrant
  have hticket : ticket ∈ ledger.locks.waiting :=
    (List.mem_filter.mp (List.mem_of_head? hfirst)).1
  refine h.of_waiting_sublist List.filter_sublist ?_ ?_
  · intro other hother
    rcases List.mem_append.mp hother with hother | hother
    · exact .inl hother
    · rw [List.mem_singleton.mp hother]
      exact .inr hticket
  · rw [List.map_append, List.nodup_append']
    refine ⟨h.exclusive, by simp, ?_⟩
    simpa using hfree

theorem release (h : ledger.IsSound) (ticket : Ticket) :
    IsSound { ledger with locks := ledger.locks.release ticket } := by
  have hsub : (ledger.locks.held.filter fun other => other != ticket).Sublist ledger.locks.held :=
    List.filter_sublist
  refine h.of_waiting_sublist (.refl _) ?_ ((hsub.map _).nodup h.exclusive)
  exact fun other hother => .inl (hsub.subset hother)

theorem cancel (h : ledger.IsSound) (ticket : Ticket) :
    IsSound { ledger with locks := ledger.locks.cancel ticket } :=
  h.of_waiting_sublist List.filter_sublist (fun _ => .inl) h.exclusive

theorem step (h : ledger.IsSound) (hstep : Step ledger ledger') : ledger'.IsSound := by
  cases hstep with
  | request device => exact h.request device
  | grant ticket hgrant => exact h.grant hgrant
  | release ticket _ => exact h.release ticket
  | cancel ticket _ => exact h.cancel ticket

end IsSound

theorem Reachable.isSound (h : ledger.Reachable) : ledger.IsSound := by
  induction h with
  | start => exact .start
  | step _ hstep ih => exact ih.step hstep

/-! ## What devices see -/

/-- How the locks serve those who ask for devices. -/
structure Serves (ledger : Ledger) : Prop where
  /-- Whoever holds or waits asked for one device. -/
  device : ∀ ticket, ledger.IsInUse ticket → ∃! device, (ticket, device) ∈ ledger.requests
  /-- A device is held by one at most. -/
  exclusive : ∀ device, (ledger.holders device).length ≤ 1
  /-- Those who wait for a device stand in the order of their requests, which are all distinct. -/
  ordered : ∀ device, (ledger.waiters device).Sublist (ledger.requests.map Prod.fst) ∧
    (ledger.requests.map Prod.fst).Nodup
  /-- A request is granted exactly if nobody holds its device and it is the first that waits for
  it; other devices have no part in this. -/
  granted : ∀ ticket device, (ticket, device) ∈ ledger.requests →
    (ledger.locks.mayGrant ticket = true ↔
      ledger.holders device = [] ∧ (ledger.waiters device).head? = some ticket)
  active : ledger.locks.activeDevices = ledger.devicesInUse.card

namespace IsSound

/-- Seen from one who waits, the tickets at the same lock are those for the same device. -/
theorem filter_lock (h : ledger.IsSound) (hmem : (ticket, device) ∈ ledger.requests)
    (hticket : ledger.IsInUse ticket) {tickets : List Ticket}
    (htickets : ∀ other ∈ tickets, ledger.IsInUse other) :
    tickets.filter (fun other => other.lock == ticket.lock) =
      tickets.filter fun other => (other, device) ∈ ledger.requests := by
  refine List.filter_congr fun other hother => ?_
  rw [Bool.eq_iff_iff, beq_iff_eq, decide_eq_true_iff]
  exact h.lock_eq_iff hmem hticket (htickets other hother)

theorem mayGrant_iff (h : ledger.IsSound) (hmem : (ticket, device) ∈ ledger.requests) :
    ledger.locks.mayGrant ticket = true ↔
      ledger.holders device = [] ∧ (ledger.waiters device).head? = some ticket := by
  rw [Locks.mayGrant_iff]
  by_cases hwaiting : ticket ∈ ledger.locks.waiting
  · rw [h.filter_lock hmem (.inr hwaiting) fun _ => .inl,
      h.filter_lock hmem (.inr hwaiting) fun _ => .inr]
    rfl
  · -- Whoever does not wait heads no list of those who do.
    constructor
    · rintro ⟨-, hfirst⟩
      exact absurd (List.mem_filter.mp (List.mem_of_head? hfirst)).1 hwaiting
    · rintro ⟨-, hfirst⟩
      exact absurd (List.mem_filter.mp (List.mem_of_head? hfirst)).1 hwaiting

theorem length_holders_le (h : ledger.IsSound) (device : String) :
    (ledger.holders device).length ≤ 1 := by
  have hsub : (ledger.holders device).Sublist ledger.locks.held := List.filter_sublist
  have hnodup := (hsub.map Ticket.lock).nodup h.exclusive
  have hholder : ∀ ticket ∈ ledger.holders device,
      (ticket, device) ∈ ledger.requests ∧ ledger.IsInUse ticket := by
    intro ticket hticket
    obtain ⟨hheld, hmem⟩ := List.mem_filter.mp hticket
    exact ⟨of_decide_eq_true hmem, .inl hheld⟩
  match hholders : ledger.holders device with
  | [] => simp
  | [_] => simp
  | first :: second :: rest =>
      rw [hholders] at hholder hnodup
      obtain ⟨hmem, hfirst⟩ := hholder first (by simp)
      obtain ⟨hmem', hsecond⟩ := hholder second (by simp)
      have hlock := (h.lock_eq_iff hmem hfirst hsecond).mpr hmem'
      simp [hlock] at hnodup

theorem activeDevices_eq (h : ledger.IsSound) :
    ledger.locks.activeDevices = ledger.devicesInUse.card := by
  have hused : ((ledger.locks.table.filter fun entry => ledger.locks.isUsed entry.2).map
      Prod.fst).toFinset = ledger.devicesInUse := by
    ext device
    simp only [List.mem_toFinset, List.mem_map, List.mem_filter, isUsed_iff, mem_devicesInUse]
    constructor
    · rintro ⟨⟨_, lock⟩, ⟨hentry, ticket, hticket, rfl⟩, rfl⟩
      obtain ⟨device', hmem⟩ := h.exists_device hticket
      have hsame := List.inj_on_of_nodup_map h.locks (h.entries ticket device' hmem hticket)
        hentry rfl
      rw [(Prod.mk.inj hsame).1] at hmem
      exact ⟨ticket, hmem, hticket⟩
    · rintro ⟨ticket, hmem, hticket⟩
      exact ⟨(device, ticket.lock), ⟨h.entries ticket device hmem hticket, ticket, hticket, rfl⟩,
        rfl⟩
  have hnodup := ((List.filter_sublist (p := fun entry => ledger.locks.isUsed entry.2)).map
    Prod.fst).nodup h.devices
  rw [← hused, List.toFinset_card_of_nodup hnodup, List.length_map, activeDevices,
    List.countP_eq_length_filter]

end IsSound

/-- However requests, grants, releases and cancellations follow each other, for any number of devices
and requests: a device is held by one at most, a request is granted exactly if nobody holds its
device and it is the first that waits for it, and the active devices are those that are held or
waited for. -/
theorem reachable_serves (h : ledger.Reachable) : ledger.Serves := by
  have hsound := h.isSound
  refine ⟨?_, hsound.length_holders_le, ?_, fun _ _ => hsound.mayGrant_iff,
    hsound.activeDevices_eq⟩
  · intro ticket hticket
    obtain ⟨device, hmem⟩ := hsound.exists_device hticket
    exact ⟨device, hmem, fun device' hmem' => hsound.device_eq hmem' hmem⟩
  · intro device
    refine ⟨List.filter_sublist.trans hsound.waiting, ?_⟩
    have hnumbers : ((ledger.requests.map Prod.fst).map Ticket.number).Nodup := by
      rw [List.map_map]
      exact hsound.numbers ▸ List.nodup_range
    exact hnumbers.of_map

/-- Three devices: of two requests for the first one the earlier was granted; the second one was given
back, and its lock was dropped from the table when the third one was asked for. -/
def busyLedger : Ledger where
  locks :=
    { table := [("E1", 0), ("E3", 2)]
      nextLock := 3
      nextTicket := 4
      held := [⟨0, 0⟩]
      waiting := [⟨1, 0⟩, ⟨3, 2⟩] }
  requests := [(⟨0, 0⟩, "E1"), (⟨1, 0⟩, "E1"), (⟨2, 1⟩, "E2"), (⟨3, 2⟩, "E3")]

theorem reachable_busyLedger : busyLedger.Reachable := by
  have hrequests := ((Reachable.start.step (.request _ "E1")).step (.request _ "E1")).step
    (.request _ "E2")
  have hgrants := (hrequests.step (.grant _ ⟨0, 0⟩ (by decide))).step (.grant _ ⟨2, 1⟩ (by decide))
  exact (hgrants.step (.release _ ⟨2, 1⟩ (by decide))).step (.request _ "E3")

theorem reachable_serves_of_dropped_lock :
    busyLedger.Reachable ∧ busyLedger.Serves ∧
      busyLedger.holders "E1" = [⟨0, 0⟩] ∧ busyLedger.locks.mayGrant ⟨1, 0⟩ = false ∧
      busyLedger.locks.mayGrant ⟨3, 2⟩ = true ∧ busyLedger.locks.activeDevices = 2 := by
  refine ⟨reachable_busyLedger, reachable_serves reachable_busyLedger, ?_⟩
  decide

end Ledger

end HeadEnd.Locks
