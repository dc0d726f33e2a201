import HeadEnd.Proofs.Session.History
import HeadEnd.Proofs.Session.Operation
import HeadEnd.Proofs.Session.Result

/-! # Reading one attribute

Whatever the meter answers, an attribute is read in one turn. What was read, or why nothing was
read, is what the answer of that turn says.
-/

namespace HeadEnd

namespace Operation

/-- The value of the only result of a read. -/
def onlyValue (context : String) : List GetResult → Outcome Value
  | [result] => do
    result.result.check context
    return result.value
  | results => throw (.protocol (.resultCount 1 results.length))

theorem check_eq_ok_iff {result : AccessResult} {context : String} :
    result.check context = .ok () ↔ result = .success := by
  cases result <;> simp [AccessResult.check, AccessResult.isSuccess]

theorem onlyValue_eq_ok_iff {context : String} {results : List GetResult} {value : Value} :
    onlyValue context results = .ok value ↔ results = [.success value] := by
  constructor
  · intro h
    match results with
    | [⟨result, read⟩] =>
        change (result.check context >>= fun _ => pure read) = _ at h
        cases hcheck : result.check context with
        | error failure =>
            rw [hcheck] at h
            cases h
        | ok _ =>
            rw [hcheck] at h
            cases h
            rw [check_eq_ok_iff.mp hcheck]
            rfl
  · rintro rfl
    rfl

theorem onlyValue_of_length_ne {context : String} {results : List GetResult}
    (h : ¬ results.length = 1) :
    onlyValue context results = .error (.protocol (.resultCount 1 results.length)) := by
  unfold onlyValue
  split
  · exact absurd rfl h
  · rfl

end Operation

/-- In the turn an attribute is read for the device, on its own or as the only one of a request, and
this is the value, or why there is none. -/
inductive Turn.Reads (device : Device) (context : String) (address : AttributeAddress) :
    Outcome Value → Turn Answer → Prop
  | alone (answer : Outcome GetResult) : device.supportsBatchedRead = false →
      Reads device context address (answer >>= fun result => Operation.onlyValue context [result])
        ⟨.read address, answer⟩
  | batched (answer : Outcome (List GetResult)) : device.supportsBatchedRead = true →
      Reads device context address (answer >>= Operation.onlyValue context)
        ⟨.readBatch [address], answer⟩

/-- In the turn one attribute is read, on its own or as the only one of a request, and this is its
value. -/
def Turn.Tells (value : Value) : Turn Answer → Prop
  | ⟨.read _, answer⟩ => answer = .ok (.success value)
  | ⟨.readBatch _, answer⟩ => answer = .ok [.success value]
  | _ => False

theorem Turn.Reads.eq_ok_iff {device : Device} {context : String} {address : AttributeAddress}
    {outcome : Outcome Value} {turn : Turn Answer} (h : turn.Reads device context address outcome)
    {value : Value} : outcome = .ok value ↔ turn.Tells value := by
  cases h with
  | alone answer _ =>
      cases answer with
      | error failure => exact ⟨nofun, nofun⟩
      | ok result =>
          change Operation.onlyValue context [result] = _ ↔ _
          simp [Operation.onlyValue_eq_ok_iff, Tells]
  | batched answer _ =>
      cases answer with
      | error failure => exact ⟨nofun, nofun⟩
      | ok results =>
          change Operation.onlyValue context results = _ ↔ _
          simp [Operation.onlyValue_eq_ok_iff, Tells]

namespace Operation

variable {fair : Turn Answer → Prop} (device : Device) (context : String)
  (address : AttributeAddress) (history : List (Turn Answer))

theorem ensures_readAll_turn :
    Task.Ensures (recording fair) (readAll [address]) device history fun results d later =>
      d = device ∧ ∃ turn, later = history ++ [turn] ∧
        turn.Reads device context address
          (results >>= fun results => onlyValue context results) := by
  unfold readAll
  rw [Task.ensures_bind, Task.ensures_get]
  dsimp only
  split
  case isTrue hbatched =>
    rw [Task.ensures_bind, ensures_readBatch]
    rintro answer _ ⟨-, rfl⟩
    have hturn : Turn.Reads device context address _ _ := .batched answer hbatched
    cases answer with
    | error failure => exact ⟨rfl, _, rfl, hturn⟩
    | ok results =>
        dsimp only
        split
        · rw [Task.ensures_pure]
          exact ⟨rfl, _, rfl, hturn⟩
        · rename_i hcount
          rw [Task.ensures_throw]
          change Turn.Reads device context address (onlyValue context results) _ at hturn
          rw [onlyValue_of_length_ne hcount] at hturn
          exact ⟨rfl, _, rfl, hturn⟩
  case isFalse hsingle =>
    rw [Task.ensures_bind, List.mapM_cons, Task.ensures_bind, ensures_readAttribute]
    rintro answer _ ⟨-, rfl⟩
    have hturn : Turn.Reads device context address _ _ :=
      .alone answer (Bool.eq_false_iff.mpr hsingle)
    cases answer with
    | error failure => exact ⟨rfl, _, rfl, hturn⟩
    | ok result =>
        have hcount : [result].length = [address].length := rfl
        simp only [List.mapM_nil, Task.ensures_bind, Task.ensures_pure]
        rw [dif_pos hcount, Task.ensures_pure]
        exact ⟨rfl, _, rfl, hturn⟩

/-- In any world an attribute is read in one turn. -/
theorem ensures_readValue_turn :
    Task.Ensures (recording fair) (readValue context address) device history fun outcome d later =>
      d = device ∧
        ∃ turn, later = history ++ [turn] ∧ turn.Reads device context address outcome := by
  unfold readValue readValues readChecked
  simp only [Task.ensures_bind]
  refine (ensures_readAll_turn device context address history).imp ?_
  rintro (failure | ⟨results, hresults⟩) _ _ ⟨rfl, turn, rfl, hturn⟩
  · exact ⟨rfl, turn, rfl, hturn⟩
  · obtain ⟨result, rfl⟩ := List.length_eq_one_iff.mp hresults
    dsimp only
    rw [ensures_lift, checkAll_singleton]
    change turn.Reads _ context address
      (result.result.check context >>= fun _ => pure result.value) at hturn
    cases hcheck : result.result.check context with
    | error failure =>
        rw [hcheck] at hturn
        exact ⟨rfl, turn, rfl, hturn⟩
    | ok _ =>
        rw [hcheck] at hturn
        simp only [Task.ensures_pure]
        exact Task.ensures_pure.mpr ⟨rfl, turn, rfl, hturn⟩

end Operation

end HeadEnd
