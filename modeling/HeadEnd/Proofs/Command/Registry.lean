import HeadEnd.Command.Catalogue

/-! # Registered commands

What a registry holds goes back to the commands that were registered.
-/

namespace HeadEnd.Registry

variable {registry registry' : Registry} {command : Command} {commands : List Command}

/-! ## Sequences of registrations -/

/-- The registry after a command was offered to it, which stays as it is if it refuses the
command. -/
def offer (registry : Registry) (command : Command) : Registry :=
  match registry.register command with
  | .ok larger => larger
  | .error _ => registry

/-- The registry after commands were offered to it one after the other. -/
def offerEach (registry : Registry) (commands : List Command) : Registry :=
  commands.foldl offer registry

/-- A command is refused exactly if it stands alone or its kind is taken. -/
theorem register_eq_error_iff {fault : ConfigurationFault} :
    registry.register command = .error fault ↔
      (command.handling = none ∧ fault = .standaloneCommand command.name) ∨
        ∃ handling holder, command.handling = some handling ∧
          registry.find? handling.kind = some holder ∧
          fault = .kindTaken command.name handling.kind holder.name := by
  unfold register
  cases command.handling with
  | none => simp [eq_comm]
  | some handling =>
      cases hfind : registry.find? handling.kind with
      | none => simp [hfind]
      | some holder => simp [hfind, eq_comm]

theorem offer_of_error {fault : ConfigurationFault} (h : registry.register command = .error fault) :
    registry.offer command = registry := by
  rw [offer, h]

/-- A command that is offered is found for its kind unless another one was. -/
theorem find?_offer (registry : Registry) (command : Command) (kind : RequestKind) :
    (registry.offer command).find? kind = (registry.find? kind).or
      (if command.toHandler.kind? = some kind then some command.toHandler else none) := by
  unfold offer register
  cases hhandling : command.handling with
  | none => simp [Command.toHandler, hhandling]
  | some handling =>
      have hkind : command.toHandler.kind? = some handling.kind := by
        simp [Command.toHandler, hhandling]
      rw [hkind]
      dsimp only
      cases hholder : registry.find? handling.kind with
      | some holder =>
          by_cases hsame : handling.kind = kind
          · simp [← hsame, hholder]
          · simp [hsame]
      | none =>
          by_cases hsame : handling.kind = kind
          · simp only [find?, Option.map_eq_none_iff, hsame] at hholder
            simp [find?, hholder, hsame]
          · simp [find?, hsame]

/-- The command that is found for a kind is the one that was, or else the first one of those offered
that answers the kind. -/
theorem find?_offerEach (registry : Registry) (commands : List Command) (kind : RequestKind) :
    (registry.offerEach commands).find? kind = (registry.find? kind).or
      ((commands.find? fun command => command.toHandler.kind? == some kind).map
        Command.toHandler) := by
  induction commands generalizing registry with
  | nil => simp [offerEach]
  | cons command commands ih =>
      have hrest : registry.offerEach (command :: commands) =
          (registry.offer command).offerEach commands := rfl
      rw [hrest, ih, find?_offer, Option.or_assoc]
      by_cases hkind : command.toHandler.kind? = some kind
      · simp [hkind]
      · simp [hkind]

/-- Commands none of which is refused are registered as if they were offered. -/
theorem eq_offerEach_of_registerAll (h : registry.registerAll commands = .ok registry') :
    registry' = registry.offerEach commands := by
  induction commands generalizing registry with
  | nil =>
      cases h
      rfl
  | cons command commands ih =>
      rw [registerAll, List.foldlM_cons] at h
      cases hfirst : registry.register command with
      | error fault =>
          rw [hfirst] at h
          cases h
      | ok registered =>
          rw [hfirst] at h
          have hrest : registry.offerEach (command :: commands) =
              (registry.offer command).offerEach commands := rfl
          rw [ih h, hrest, offer, hfirst]

/-- First come, first served: how a registry takes commands that are offered to it, if those before
were `before`. -/
structure IsFirstCome (registry : Registry) (before : List Command) : Prop where
  /-- The command that is found for a kind is the first one that was offered for it. -/
  found : ∀ commands kind, (registry.offerEach commands).find? kind =
    ((before ++ commands).find? fun command => command.toHandler.kind? == some kind).map
      Command.toHandler
  /-- A command that is found for a kind answers that kind. -/
  kind : ∀ commands kind handler, (registry.offerEach commands).find? kind = some handler →
    handler.kind? = some kind
  /-- A command is refused exactly if it stands alone or its kind is taken. -/
  refused : ∀ commands command fault,
    (registry.offerEach commands).register command = .error fault ↔
      (command.handling = none ∧ fault = .standaloneCommand command.name) ∨
        ∃ handling holder, command.handling = some handling ∧
          (registry.offerEach commands).find? handling.kind = some holder ∧
          fault = .kindTaken command.name handling.kind holder.name
  /-- A command that is refused might as well not have been offered. -/
  kept : ∀ earlier command fault later,
    (registry.offerEach earlier).register command = .error fault →
    registry.offerEach (earlier ++ command :: later) = registry.offerEach (earlier ++ later)

/-- A registry that has been offered commands from the start is first come, first served. -/
theorem isFirstCome_offerEach (before : List Command) :
    (empty.offerEach before).IsFirstCome before := by
  have hfound : ∀ commands kind, ((empty.offerEach before).offerEach commands).find? kind =
      ((before ++ commands).find? fun command => command.toHandler.kind? == some kind).map
        Command.toHandler := by
    intro commands kind
    have hall : (empty.offerEach before).offerEach commands =
        empty.offerEach (before ++ commands) := by
      simp [offerEach, List.foldl_append]
    rw [hall, find?_offerEach]
    rfl
  refine ⟨hfound, ?_, fun _ _ _ => register_eq_error_iff, ?_⟩
  · intro commands kind handler hfind
    rw [hfound] at hfind
    obtain ⟨command, hcommand, rfl⟩ := Option.map_eq_some_iff.mp hfind
    simpa using List.find?_some hcommand
  · intro earlier command fault later hrefused
    have hsame := offer_of_error hrefused
    unfold offerEach at hsame ⊢
    rw [List.foldl_append, List.foldl_append, List.foldl_cons, hsame]

/-! ## Where entries come from -/

theorem entries_of_register (h : registry.register command = .ok registry') :
    ∃ kind, registry'.entries = registry.entries ++ [(kind, command.toHandler)] := by
  unfold register at h
  split at h
  · cases h
  · rename_i handling _
    split at h
    · cases h
    · cases h
      exact ⟨handling.kind, rfl⟩

theorem mem_entries_of_registerAll (h : registry.registerAll commands = .ok registry')
    {entry : RequestKind × Handler} (hentry : entry ∈ registry'.entries) :
    entry ∈ registry.entries ∨ ∃ command ∈ commands, entry.2 = command.toHandler := by
  induction commands generalizing registry with
  | nil =>
      cases h
      exact .inl hentry
  | cons command commands ih =>
      rw [registerAll, List.foldlM_cons] at h
      cases hfirst : registry.register command with
      | error fault =>
          rw [hfirst] at h
          cases h
      | ok registered =>
          rw [hfirst] at h
          obtain ⟨kind, hentries⟩ := entries_of_register hfirst
          rcases ih h with hmem | ⟨other, hother, hhandler⟩
          · rw [hentries, List.mem_append, List.mem_singleton] at hmem
            rcases hmem with hmem | rfl
            · exact .inl hmem
            · exact .inr ⟨command, List.mem_cons_self, rfl⟩
          · exact .inr ⟨other, List.mem_cons_of_mem command hother, hhandler⟩

/-- Every registered command is one of those that answer requests. -/
def IsCatalogued (registry : Registry) : Prop :=
  ∀ entry ∈ registry.entries, ∃ command ∈ Command.handlers, entry.2 = command.toHandler

theorem isCatalogued_of_standard (h : standard = .ok registry) : registry.IsCatalogued := by
  intro entry hentry
  rcases mem_entries_of_registerAll h hentry with hmem | hcommand
  · cases hmem
  · exact hcommand

theorem IsCatalogued.find? (h : registry.IsCatalogued) {kind : RequestKind} {handler : Handler}
    (hfind : registry.find? kind = some handler) :
    ∃ command ∈ Command.handlers, handler = command.toHandler := by
  obtain ⟨entry, hentry, rfl⟩ := Option.map_eq_some_iff.mp hfind
  exact h entry (List.mem_of_find?_eq_some hentry)

end HeadEnd.Registry
