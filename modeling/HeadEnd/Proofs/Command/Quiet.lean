import HeadEnd.Proofs.Command.Plain
import HeadEnd.Proofs.Session.Operation

/-! # Commands that leave keys alone

All commands that answer requests, except for the one that replaces keys, only read the clock, read
and write attributes, and describe what they do. They work on the device record without changing it.
-/

namespace HeadEnd

/-- The question has nothing to do with keys, methods or records. -/
def Question.IsQuiet : Question → Prop
  | .clock | .read _ | .readBatch _ | .write _ | .describe _ => True
  | _ => False

/-- The operation asks nothing that has to do with keys, methods or records, and leaves the device
record as it is. -/
abbrev Operation.IsQuiet {α : Type} (operation : Operation α) : Prop :=
  Task.Keeps Question.IsQuiet operation

namespace Operation

variable {α : Type}

theorem IsPlain.isQuiet {operation : Operation α} (h : operation.IsPlain) :
    operation.IsQuiet := by
  induction h with
  | pure a => exact Task.keeps_pure a
  | throw _ => exact Task.keeps_throw _
  | lift _ => exact keeps_lift _
  | now => exact keeps_ask trivial
  | describe text => exact keeps_ask trivial
  | readAttribute address => exact keeps_readAttribute trivial
  | readAll addresses => exact keeps_readAll trivial fun _ _ => trivial
  | writeAttribute address value => exact keeps_writeAttribute trivial
  | get _ _ ih => exact Task.keeps_get.bind ih
  | bind _ _ ihx ihf => exact ihx.bind ihf

end Operation

/-! ## Commands -/

namespace Command

variable {command : Command}

theorem isQuiet_handle_setKeys {request : Request} (h : ∀ keys, request ≠ .setKeys keys) :
    (setKeys.handle request).IsQuiet := by
  have hrefused :
      setKeys.handle request = throw (.protocol (.misdirected setKeys.name request.kind)) := by
    cases request with
    | setKeys keys => exact absurd rfl (h keys)
    | _ => rfl
  rw [hrefused]
  exact Task.keeps_throw _

/-- Only the command that replaces keys has to do with keys. -/
theorem isQuiet_handle_of_mem (hcommand : command ∈ handlers) (request : Request) :
    command = setKeys ∨ (command.handle request).IsQuiet :=
  (isPlain_of_mem hcommand).imp id fun hplain => (hplain.handle request).isQuiet

end Command

end HeadEnd
