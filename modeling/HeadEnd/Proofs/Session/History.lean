import HeadEnd.Proofs.Dialogue.History
import HeadEnd.Session.Question

/-! # Histories of sessions

What the history of a session tells of the stored record, of the clock and of what was written to
the meter.
-/

namespace HeadEnd

namespace Turn

/-- A record that could be stored is given back as it was stored. -/
def IsFaithful : Turn Answer → Prop
  | ⟨.save device, .ok stored⟩ => stored = device
  | _ => True

def stored? : Turn Answer → Option Device
  | ⟨.save _, .ok stored⟩ => some stored
  | _ => none

def time? : Turn Answer → Option Instant
  | ⟨.clock, now⟩ => some now
  | _ => none

/-- What the turn tells the meter to write. -/
def write? : Turn Answer → Option SetParameter
  | ⟨.write parameter, _⟩ => some parameter
  | _ => none

/-- A read of the attribute, on its own or as the only one of a request, succeeds with the value. -/
def ReadsAs (address : AttributeAddress) (value : Value) : Turn Answer → Prop
  | ⟨.read other, answer⟩ => other = address → answer = .ok (.success value)
  | ⟨.readBatch others, answer⟩ => others = [address] → answer = .ok [.success value]
  | _ => True

theorem eq_of_stored?_eq_some {turn : Turn Answer} {record : Device}
    (h : turn.stored? = some record) (hfaithful : turn.IsFaithful) :
    turn = ⟨.save record, .ok record⟩ := by
  unfold stored? at h
  split at h
  · cases h
    obtain rfl : record = _ := hfaithful
    rfl
  · cases h

end Turn

/-- The record that was stored last. -/
def lastStored? (history : List (Turn Answer)) : Option Device :=
  (history.filterMap Turn.stored?).getLast?

theorem exists_turn_of_lastStored? {history : List (Turn Answer)} {record : Device}
    (h : lastStored? history = some record) (hfaithful : ∀ turn ∈ history, turn.IsFaithful) :
    ∃ past rest, history = past ++ ⟨.save record, .ok record⟩ :: rest := by
  obtain ⟨turn, hturn, hstored⟩ := List.mem_filterMap.mp (List.mem_of_getLast? h)
  rw [Turn.eq_of_stored?_eq_some hstored (hfaithful turn hturn)] at hturn
  exact List.append_of_mem hturn

def writes (history : List (Turn Answer)) : List SetParameter :=
  history.filterMap Turn.write?

theorem writes_append (history later : List (Turn Answer)) :
    writes (history ++ later) = writes history ++ writes later :=
  List.filterMap_append

theorem writes_snoc_of_none {turn : Turn Answer} (h : turn.write? = none)
    (history : List (Turn Answer)) : writes (history ++ [turn]) = writes history := by
  simp [writes, h]

def Question.write? : Question → Option SetParameter
  | .write parameter => some parameter
  | _ => none

theorem writes_eq_filterMap_question (history : List (Turn Answer)) :
    writes history = (history.map Turn.question).filterMap Question.write? := by
  have hwrite : Turn.write? = Question.write? ∘ Turn.question := by
    funext ⟨question, answer⟩
    cases question <;> rfl
  rw [writes, hwrite, List.filterMap_map]

/-- The clock does not go back. -/
def Chronological (history : List (Turn Answer)) : Prop :=
  (history.filterMap Turn.time?).Pairwise (· ≤ ·)

theorem Chronological.sublist {history part : List (Turn Answer)} (h : Chronological history)
    (hpart : part.Sublist history) : Chronological part :=
  List.Pairwise.sublist (hpart.filterMap Turn.time?) h

end HeadEnd
