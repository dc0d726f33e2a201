import HeadEnd.Command.Basic

/-! # Registries

Which command answers which kind of request. Each kind is answered by one command at most, and the
first one that was registered for it keeps it.
-/

namespace HeadEnd

/-- The commands that answer requests, in the order in which they were registered. -/
structure Registry where
  entries : List (RequestKind × Handler)

namespace Registry

def empty : Registry := ⟨[]⟩

def find? (registry : Registry) (kind : RequestKind) : Option Handler :=
  (registry.entries.find? fun entry => entry.1 == kind).map Prod.snd

def size (registry : Registry) : Nat :=
  registry.entries.length

def isEmpty (registry : Registry) : Bool :=
  registry.entries.isEmpty

def register (registry : Registry) (command : Command) : Except ConfigurationFault Registry :=
  match command.handling with
  | none => .error (.standaloneCommand command.name)
  | some handling =>
    match registry.find? handling.kind with
    | some holder => .error (.kindTaken command.name handling.kind holder.name)
    | none => .ok ⟨registry.entries ++ [(handling.kind, command.toHandler)]⟩

/-- The registry with further commands, or why one of them cannot be registered. -/
def registerAll (registry : Registry) (commands : List Command) :
    Except ConfigurationFault Registry :=
  commands.foldlM register registry

end Registry

end HeadEnd
