import HeadEnd.Proofs.Positional.Command

/-! # The catalogue by position

Every command beside its program by position. The lengths that make each element present are checked
far from where it is picked: in the number of results, in the width of the entries of a period and
in the range of the channels. The programs are therefore compared as a whole.
-/

namespace HeadEnd

/-- A command, the times that a request for it holds, and its program by position. -/
structure PositionalCommand where
  command : Command
  times : command.Input → List ZonedTime
  execute : command.Input → Breakable Operation command.Output

namespace PositionalCommand

open Breakable

/-! ## All programs -/

/-- A command that picks nothing by position. -/
def ofCommand (command : Command) : PositionalCommand where
  command := command
  times _ := []
  execute input := intact (command.execute input)

/-- A command whose requests hold no times. -/
def timeless (command : Command) (execute : command.Input → Breakable Operation command.Output) :
    PositionalCommand where
  command := command
  times _ := []
  execute := execute

/-- A command whose requests hold a span of time. -/
def spanned (command : Command) (span : command.Input → Profile.Span)
    (execute : command.Input → Breakable Operation command.Output) : PositionalCommand where
  command := command
  times input := [(span input).start, (span input).finish]
  execute := execute

def all : List PositionalCommand :=
  [timeless Command.getAdministrativeStatus fun _ => fetchStatus,
    ofCommand Command.synchronizeTime,
    timeless Command.setClockConfiguration configureClock,
    ofCommand Command.setSpecialDays,
    timeless Command.setAlarmNotifications installNotifications,
    timeless (Command.getPushSetup .alarm) fun _ => fetchPushSetup .alarm,
    timeless (Command.getPushSetup .sms) fun _ => fetchPushSetup .sms,
    ofCommand (Command.setPushSetup .alarm),
    ofCommand (Command.setPushSetup .sms),
    spanned Command.findEvents EventQuery.span fetchEvents,
    spanned Command.getPeriodicMeterReads ElectricityQuery.span fetchElectricity,
    spanned Command.getPeriodicMeterReadsGas GasQuery.span fetchGas,
    timeless Command.getAssociationLnObjects fun _ => fetchObjects,
    timeless Command.setKeys replaceKeys,
    timeless Command.setConfigurationObject installConfiguration,
    timeless Command.getFirmwareVersions fun _ => fetchVersions,
    ofCommand Command.activateActivityCalendar,
    timeless Command.replaceKey replaceKey,
    timeless Command.retrieveConfigurationObjects fun _ => dump]

/-! ## What the programs do -/

/-- The program does what the command does if the times of the request have a local time. -/
def Agrees (c : PositionalCommand) : Prop :=
  ∀ input, (∀ time ∈ c.times input, time.HasLocalTime) →
    c.execute input = intact (c.command.execute input)

theorem agrees_ofCommand (command : Command) : (ofCommand command).Agrees :=
  fun _ _ => rfl

section Agreement

variable {command : Command} {execute : command.Input → Breakable Operation command.Output}

theorem agrees_timeless (h : ∀ input, execute input = intact (command.execute input)) :
    (timeless command execute).Agrees :=
  fun input _ => h input

theorem agrees_spanned {span : command.Input → Profile.Span}
    (h : ∀ input, (span input).HasLocalTimes → execute input = intact (command.execute input)) :
    (spanned command span execute).Agrees := by
  intro input htimes
  obtain ⟨hstart, hfinish, -⟩ := List.forall_mem_cons.mp htimes |>.imp_right List.forall_mem_cons.mp
  exact h input ⟨hstart, hfinish⟩

end Agreement

theorem agrees_all : ∀ c ∈ all, c.Agrees := by
  simp only [all, List.forall_mem_cons, List.not_mem_nil, IsEmpty.forall_iff, implies_true,
    and_true]
  exact ⟨agrees_timeless fun _ => fetchStatus_eq,
    agrees_ofCommand _,
    agrees_timeless configureClock_eq,
    agrees_ofCommand _,
    agrees_timeless installNotifications_eq,
    agrees_timeless fun _ => fetchPushSetup_eq .alarm,
    agrees_timeless fun _ => fetchPushSetup_eq .sms,
    agrees_ofCommand _,
    agrees_ofCommand _,
    agrees_spanned fun _ => fetchEvents_eq,
    agrees_spanned fun _ => fetchElectricity_eq,
    agrees_spanned fun _ => fetchGas_eq,
    agrees_timeless fun _ => fetchObjects_eq,
    agrees_timeless replaceKeys_eq,
    agrees_timeless installConfiguration_eq,
    agrees_timeless fun _ => fetchVersions_eq,
    agrees_ofCommand _,
    agrees_timeless replaceKey_eq,
    agrees_timeless fun _ => dump_eq⟩

/-- There is a program for each command. If the times of a request have a local time, the program
does what the command does, and whatever the meter answers it returns a result or fails: it never
breaks off. -/
theorem execute_never_breaks_off :
    all.map command = Command.handlers ++ Command.standalone ∧
      ∀ c ∈ all, ∀ input, (∀ time ∈ c.times input, time.HasLocalTime) →
        c.execute input = intact (c.command.execute input) ∧ Completes (c.execute input) := by
  refine ⟨rfl, fun c hc input htimes => ?_⟩
  have hexecute : c.execute input = intact (c.command.execute input) :=
    agrees_all c hc input htimes
  exact ⟨hexecute, hexecute ▸ completes_intact _⟩

/-- The daily gas profile of the last channel, asked for from an hour ahead of UTC. -/
theorem execute_never_breaks_off_of_dailyGas :
    let query : GasQuery :=
      { period := .daily
        span := ⟨⟨⟨1467324000, 0⟩, 3600⟩, ⟨⟨1469916000, 0⟩, 3600⟩⟩
        channel := 4 }
    query.span.start.HasLocalTime ∧ query.span.finish.HasLocalTime ∧
      fetchGas query = intact query.fetch ∧ Completes (fetchGas query) := by
  intro query
  have hstart : query.span.start.HasLocalTime := by decide
  have hfinish : query.span.finish.HasLocalTime := by decide
  have hmem : spanned Command.getPeriodicMeterReadsGas GasQuery.span fetchGas ∈ all :=
    List.mem_of_getElem? (i := 11) rfl
  exact ⟨hstart, hfinish, execute_never_breaks_off.2 _ hmem query
    (List.forall_mem_cons.mpr ⟨hstart, List.forall_mem_singleton.mpr hfinish⟩)⟩

end PositionalCommand

end HeadEnd
