import HeadEnd.Proofs.Bundle.Run
import HeadEnd.Proofs.Command.Plain
import HeadEnd.Proofs.Command.Registry
import HeadEnd.Proofs.Key.Staging
import HeadEnd.Proofs.Session.Batching

/-! # Commands and reads put together

With a meter that answers requests for several attributes faithfully, no command and no bundle can
tell whether its reads are put together.
-/

namespace HeadEnd

variable {σ : Type} {rules : Rules Answer σ} {d d' : Device}

open Operation

theorem Device.AgreesUpToBatching.validKey_eq (h : d.AgreesUpToBatching d') (kind : KeyKind)
    (now : Instant) : d'.validKey kind now = d.validKey kind now := by
  obtain ⟨batched, rfl⟩ := h
  rfl

/-! ## Commands -/

/-- A plain operation cannot tell whether its reads are put together. -/
theorem Operation.IsPlain.ignoresBatching {α : Type} {x : Operation α} (hx : x.IsPlain)
    (h : BatchesFaithfully rules) : IgnoresBatching rules x := by
  induction hx with
  | pure a => exact ignoresBatching_pure a
  | throw _ => exact ignoresBatching_throw _
  | lift _ => exact ignoresBatching_lift _
  | now => exact ignoresBatching_now
  | describe text => exact ignoresBatching_describe text
  | readAttribute address => exact ignoresBatching_readAttribute address
  | readAll addresses => exact ignoresBatching_readAll h addresses
  | writeAttribute address value => exact ignoresBatching_writeAttribute address value
  | get _ hflag ih =>
      refine simulates_get_bind fun d d' hd => ?_
      obtain ⟨batched, rfl⟩ := hd
      -- What a plain operation does with its record does not depend on this part of it.
      rw [hflag d batched]
      exact ih d
  | bind _ _ ihx ihf => exact ihx.bind ihf

namespace KeyChange

theorem ignoresBatching_decryptStored (key : SecurityKey) :
    IgnoresBatching rules (decryptStored key) := by
  unfold decryptStored
  split
  · exact ignoresBatching_decrypt _
  · exact ignoresBatching_throw _

variable (hstore : StoresAlike rules)
include hstore

theorem ignoresBatching_stage (change : KeyChange) : IgnoresBatching rules change.stage := by
  refine ignoresBatching_now.bind fun now => ?_
  refine (ignoresBatching_modify fun d d' hd => ?_).bind fun _ => ignoresBatching_saveDevice hstore
  exact hd.addNewKey _ _ _

theorem ignoresBatching_confirm (kind : KeyKind) : IgnoresBatching rules (confirm kind) := by
  refine ignoresBatching_now.bind fun now => simulates_get_bind fun d d' hd => ?_
  obtain ⟨promoted, promoted', hpromoted, hpromoted', hagree⟩ | ⟨fault, hfault, hfault'⟩ :=
    hd.promoteNewKey kind now
  · rw [hpromoted, hpromoted']
    exact (simulates_set hagree).bind fun _ => ignoresBatching_saveDevice hstore
  · rw [hfault, hfault']
    exact ignoresBatching_throw _

theorem ignoresBatching_execute (change : KeyChange) : IgnoresBatching rules change.execute := by
  refine (ignoresBatching_lift _).bind fun role => ?_
  refine ignoresBatching_now.bind fun now => simulates_get_bind fun d d' hd => ?_
  rw [hd.validKey_eq]
  refine (ignoresBatching_lift _).bind fun master => simulates_get_bind fun d d' hd => ?_
  rw [hd.validKey_eq]
  refine (ignoresBatching_lift _).bind fun _ => ?_
  refine (ignoresBatching_stage hstore change).bind fun _ => ?_
  refine (ignoresBatching_decryptStored master).bind fun masterKey => ?_
  refine (ignoresBatching_decrypt _).bind fun newKey => ?_
  refine (ignoresBatching_lift _).bind fun wrapped => ?_
  refine (ignoresBatching_describe _).bind fun _ => ?_
  refine (ignoresBatching_callMethod _).bind fun result => ?_
  refine (ignoresBatching_lift _).bind fun _ => ?_
  exact (ignoresBatching_adoptKey _ _).bind fun _ => ignoresBatching_confirm hstore _

end KeyChange

theorem KeyPair.ignoresBatching_execute (hstore : StoresAlike rules) (keys : KeyPair) :
    IgnoresBatching rules keys.execute := by
  refine (KeyChange.ignoresBatching_execute hstore _).bind fun _ => ?_
  refine (KeyChange.ignoresBatching_execute hstore _).bind fun _ => ?_
  refine simulates_get_bind fun d d' hd => ?_
  rw [hd.identification_eq]
  exact ignoresBatching_pure _

theorem ActivityCalendar.ignoresBatching_activate :
    IgnoresBatching rules ActivityCalendar.activate := by
  refine (ignoresBatching_describe _).bind fun _ => ?_
  exact (ignoresBatching_callMethod _).bind fun result => ignoresBatching_lift _

namespace Command

variable {command : Command}

theorem ignoresBatching_execute_of_mem (hbatch : BatchesFaithfully rules)
    (hstore : StoresAlike rules) (hcommand : command ∈ handlers ++ standalone)
    (input : command.Input) : IgnoresBatching rules (command.execute input) := by
  rcases List.mem_append.mp hcommand with hhandler | hstandalone
  · rcases isPlain_of_mem hhandler with rfl | hplain
    · exact KeyPair.ignoresBatching_execute hstore input
    · exact (hplain.execute input).ignoresBatching hbatch
  · simp only [standalone, List.mem_cons, List.not_mem_nil, or_false] at hstandalone
    obtain rfl | rfl | rfl := hstandalone
    · exact ActivityCalendar.ignoresBatching_activate
    · exact KeyChange.ignoresBatching_execute hstore input
    · exact Association.isPlain_dump.ignoresBatching hbatch

theorem ignoresBatching_handle
    (hexecute : ∀ input, IgnoresBatching rules (command.execute input)) (request : Request) :
    IgnoresBatching rules (command.handle request) := by
  unfold handle
  split
  · exact ignoresBatching_throw _
  · split
    · exact ignoresBatching_throw _
    · exact (hexecute _).bind fun _ => ignoresBatching_lift _

end Command

/-! ## Bundles -/

namespace Bundle

variable {registry : Registry} {settings : Settings}

/-- The commands of the registry cannot tell whether their reads are put together. -/
def IgnoresBatching (rules : Rules Answer σ) (registry : Registry) : Prop :=
  ∀ kind handler, registry.find? kind = some handler →
    ∀ request, Operation.IgnoresBatching rules (handler.handle request)

theorem simulates_respond (h : IgnoresBatching rules registry) (request : Request)
    (hd : d.AgreesUpToBatching d') :
    Simulates rules (respond registry settings request d) (respond registry settings request d') := by
  intro s answer e t hruns
  cases hfind : registry.find? request.kind with
  | none =>
      obtain ⟨hanswer, rfl⟩ := (runs_respond_of_none hfind).mp hruns
      cases hanswer
      refine ⟨d', hd, (runs_respond_of_none hfind).mpr ⟨?_, rfl⟩⟩
      rw [hd.identification_eq]
  | some handler =>
      obtain ⟨outcome, e, hhandle, hanswer⟩ := (runs_respond_of_some hfind).mp hruns
      cases hanswer
      obtain ⟨e', he, hhandle'⟩ := h _ _ hfind request d d' hd s outcome _ t hhandle
      refine ⟨e', he, (runs_respond_of_some hfind).mpr ⟨outcome, e', hhandle', ?_⟩⟩
      rw [he.identification_eq]

theorem simulates_runActions (h : IgnoresBatching rules registry) (actions : List Action)
    (hd : d.AgreesUpToBatching d') :
    Simulates rules ((runActions registry settings actions).run d)
      ((runActions registry settings actions).run d') := by
  induction actions generalizing d d' with
  | nil =>
      rintro s ⟨actions', result⟩ e t hruns
      obtain ⟨hr, rfl, rfl⟩ := runs_runActions_nil.mp hruns
      exact ⟨d', hd, runs_runActions_nil.mpr ⟨hr, rfl, rfl⟩⟩
  | cons action rest ih =>
      rintro s ⟨actions', result⟩ e t hruns
      cases hcompleted : action.isCompleted with
      | true =>
          obtain ⟨rest', rfl, hrest⟩ := (runs_runActions_of_completed hcompleted).mp hruns
          obtain ⟨e', he, hrest'⟩ := ih hd s _ e t hrest
          exact ⟨e', he, (runs_runActions_of_completed hcompleted).mpr ⟨rest', rfl, hrest'⟩⟩
      | false =>
          obtain ⟨answer, e₁, s₁, hrespond, hrest⟩ :=
            (runs_runActions_of_pending hcompleted).mp hruns
          obtain ⟨e₁', he₁, hrespond'⟩ :=
            simulates_respond h action.request hd s answer e₁ s₁ hrespond
          cases answer with
          | ok response =>
              obtain ⟨rest', rfl, hrest⟩ := hrest
              obtain ⟨e', he, hrest'⟩ := ih he₁ s₁ _ e t hrest
              exact ⟨e', he, (runs_runActions_of_pending hcompleted).mpr
                ⟨_, _, _, hrespond', rest', rfl, hrest'⟩⟩
          | error failure =>
              obtain ⟨hr, rfl, rfl⟩ := hrest
              exact ⟨e₁', he₁, (runs_runActions_of_pending hcompleted).mpr
                ⟨_, _, _, hrespond', hr, rfl, rfl⟩⟩

theorem simulates_run (h : IgnoresBatching rules registry) (bundle : Bundle)
    (hd : d.AgreesUpToBatching d') :
    Simulates rules ((bundle.run registry settings).run d)
      ((bundle.run registry settings).run d') := by
  rintro s ⟨bundle', result⟩ e t hruns
  obtain ⟨e', he, hruns'⟩ := simulates_runActions h bundle.actions hd s _ e t
    (runs_run_iff.mp hruns)
  exact ⟨e', he, runs_run_iff.mpr hruns'⟩

end Bundle

theorem Registry.IsCatalogued.ignoresBatching {registry : Registry} (h : registry.IsCatalogued)
    (hbatch : BatchesFaithfully rules) (hstore : StoresAlike rules) :
    Bundle.IgnoresBatching rules registry := by
  intro kind handler hfind
  obtain ⟨command, hcommand, rfl⟩ := h.find? hfind
  exact Command.ignoresBatching_handle
    (Command.ignoresBatching_execute_of_mem hbatch hstore (List.mem_append_left _ hcommand))

/-- Whether reads are put together makes no difference with a meter that answers them as it answers
one read after the other, and a store that takes no notice: every command, and every bundle with the
registry of all commands, has the same outcome and leaves the same world, the same responses and the
same record, after the same writes, calls and other effects in the same order. With any meter
whatever, what is read is what was answered, one result for each attribute, or the wrong number of
results is a fault of the protocol. -/
theorem Command.indifferent_to_batching :
    (∀ {σ : Type} (rules : Rules Answer σ), BatchesFaithfully rules → StoresAlike rules →
      ∀ device device' : Device, device.AgreesUpToBatching device' →
      (∀ command ∈ handlers ++ standalone, ∀ input s outcome d t log,
        Dialogue.Runs (logging rules) ((command.execute input).run.run device) (s, [])
          (outcome, d) (t, log) →
        ∃ d', d.AgreesUpToBatching d' ∧ Dialogue.Runs (logging rules)
          ((command.execute input).run.run device') (s, []) (outcome, d') (t, log)) ∧
      ∀ registry, Registry.standard = .ok registry →
        ∀ (settings : Settings) (bundle bundle' : Bundle) s result d t log,
        Dialogue.Runs (logging rules) ((bundle.run registry settings).run device) (s, [])
          ((bundle', result), d) (t, log) →
        ∃ d', d.AgreesUpToBatching d' ∧ Dialogue.Runs (logging rules)
          ((bundle.run registry settings).run device') (s, []) ((bundle', result), d') (t, log)) ∧
    ∀ addresses device r d history,
      Dialogue.Runs (recording fun _ => True) ((readAll addresses).run.run device) [] (r, d)
        history →
      (∀ results, r = .ok results →
        results.val.length = addresses.length ∧ history.flatMap Turn.results = results.val) ∧
      ∀ asked results, ⟨.readBatch asked, .ok results⟩ ∈ history →
        results.length ≠ asked.length →
        r = .error (.protocol (.resultCount asked.length results.length)) := by
  constructor
  · intro σ rules hbatch hstore device device' hdevice
    constructor
    · intro command hcommand input s outcome d t log hruns
      have hignores : Operation.IgnoresBatching (logging rules) (command.execute input) :=
        ignoresBatching_execute_of_mem hbatch.logging hstore.logging hcommand input
      exact hignores device device' hdevice (s, []) outcome d (t, log) hruns
    · intro registry hregistry settings bundle bundle' s result d t log hruns
      have hignores : Bundle.IgnoresBatching (logging rules) registry :=
        (Registry.isCatalogued_of_standard hregistry).ignoresBatching hbatch.logging hstore.logging
      exact Bundle.simulates_run hignores bundle hdevice (s, []) _ d (t, log) hruns
  · intro addresses device r d history hruns
    exact results_of_runs_readAll hruns

/-- A meter that answers three reads and no more, in a world in which nothing else goes wrong. -/
def fadingAnswer : (question : Question) → Nat → Answer question × Nat
  | .read _, reads =>
    (if reads < 3 then .ok (.success (.enumerate 1)) else .error .timeout, reads + 1)
  | question, reads => (obligingAnswer question, reads)

/-- The rules of a world with that meter, which answers requests for several attributes as well. -/
def fadingRules : Rules Answer Nat :=
  fun question s answer t => withBatches fadingAnswer question s = (answer, t)

theorem storesAlike_fadingRules : StoresAlike fadingRules where
  stored := by
    rintro d _ s stored t ⟨batched, rfl⟩ hsave
    cases hsave
    exact ⟨_, ⟨batched, rfl⟩, rfl⟩
  failed := by
    intro d d' s failure t _ hsave
    cases hsave

theorem Command.indifferent_to_batching_of_fading :
    ∃ registry, Registry.standard = .ok registry ∧ ∃ bundle' d d' t log,
      Dialogue.Runs (logging fadingRules)
        (((Bundle.ofRequests [.getAdministrativeStatus, .getFirmwareVersions]).run registry {}).run
          keyedDevice) (0, []) ((bundle', .error .timeout), d) (t, log) ∧ bundle'.pending = 1 ∧
      d.AgreesUpToBatching d' ∧ Dialogue.Runs (logging fadingRules)
        (((Bundle.ofRequests [.getAdministrativeStatus, .getFirmwareVersions]).run registry {}).run
          { keyedDevice with supportsBatchedRead := true }) (0, [])
          ((bundle', .error .timeout), d') (t, log) := by
  obtain ⟨registry, hregistry, bundle', d, t, hrun, hpending⟩ :
      ∃ registry, Registry.standard = .ok registry ∧ ∃ bundle' d t,
        (((Bundle.ofRequests [.getAdministrativeStatus, .getFirmwareVersions]).run registry {}).run
          keyedDevice).run (withBatches fadingAnswer) 0 = (((bundle', .error .timeout), d), t) ∧
        bundle'.pending = 1 := by
    refine ⟨_, rfl, ?_, ?_, ?_, ?_, ?_⟩
    rotate_left 3
    · rfl
    · rfl
  obtain ⟨log, hruns⟩ := exists_log ((Dialogue.runs_iff_run_eq _).mpr hrun) []
  obtain ⟨d', hd, hruns'⟩ := (indifferent_to_batching.1 fadingRules
    (batchesFaithfully_withBatches fadingAnswer) storesAlike_fadingRules keyedDevice _
      ⟨true, rfl⟩).2 registry hregistry {} _ bundle' 0 (.error .timeout) d t log hruns
  exact ⟨registry, hregistry, bundle', d, d', t, log, hruns, hpending, hd, hruns'⟩

end HeadEnd
