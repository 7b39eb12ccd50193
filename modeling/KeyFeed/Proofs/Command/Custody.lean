/-
This file says what a whole run of the program does with the port and the console,
whatever the arguments, the script, the arrivals, the keystrokes and the planned faults
are. The port is asked for at most once. A console that is made ready is restored. A port
that was opened is closed exactly once: nothing can fail between the moment when the port is
granted and the moment when somebody is in charge of closing it, since a port is granted only
with stop bits that the record of the opening can show.
-/

import KeyFeed.Proofs.Command.Beginning
import KeyFeed.Proofs.Link.Vetting
import KeyFeed.Proofs.Session.Custody

namespace KeyFeed.Command

open KeyFeed.Run KeyFeed.Script

open Rig (Notes Keeps GoesOn Sends)

/-! ### Work in a session -/

theorem say_notes (line : String) : Leads Notes (say line) := record_notes rfl

theorem say_sends (line : String) : Leads Sends (say line) :=
  (say_notes line).mono fun _ _ => Sends.of_notes

theorem sendFile_sends (options : Options) (script : Option (String × List Char)) :
    Leads Sends (sendFile options script) := by
  unfold sendFile
  split
  · exact .pure ()
  · refine (say_sends _).bind fun _ => ?_
    exact (options.sender.sendScript_sends _ _).bind fun _ => say_sends _

theorem forwardKeys_keeps (options : Options) : Leads Keeps (forwardKeys options) := by
  have said := (say_sends "INTERACTIVE MODE: press ESC or CTRL+C to exit").mono
    fun _ _ sends => sends.toKeeps
  exact .ite (.pure ()) (said.bind fun _ => Session.interact_keeps options.sender)

theorem work_keeps (options : Options) (script : Option (String × List Char)) :
    Leads Keeps (work options script) :=
  ((sendFile_sends options script).mono fun _ _ sends => sends.toKeeps).bind fun _ =>
    forwardKeys_keeps options

theorem forwardKeys_calls (options : Options) {rig : Rig} (inactive : rig.keyboard.active = false) :
    Event.only Event.isConsole (forwardKeys options rig).2.events =
      Event.only Event.isConsole rig.events ++
        (if options.noInteractive then [] else Console.calls rig) := by
  unfold forwardKeys
  cases options.noInteractive with
  | true => exact (List.append_nil _).symm
  | false =>
    have said := say_sends "INTERACTIVE MODE: press ESC or CTRL+C to exit" rig
    have still : (say "INTERACTIVE MODE: press ESC or CTRL+C to exit" rig).2.keyboard.active =
        false := said.active.trans inactive
    have calls := Session.interact_calls options.sender still
    rw [said.only_isConsole, Console.calls_of_goesOn said.toGoesOn] at calls
    exact calls

/-- The console is called for in the interactive phase alone. -/
theorem work_calls (options : Options) (script : Option (String × List Char)) {rig : Rig}
    (inactive : rig.keyboard.active = false) :
    Event.only Event.isConsole (work options script rig).2.events =
        Event.only Event.isConsole rig.events ∨
      Event.only Event.isConsole (work options script rig).2.events =
        Event.only Event.isConsole rig.events ++ Console.calls rig := by
  have sends := sendFile_sends options script rig
  unfold work
  rcases sent : sendFile options script rig with ⟨failure | result, next⟩
  · rw [sent] at sends
    rw [bind_of_error sent]
    exact Or.inl sends.only_isConsole
  · rw [sent] at sends
    rw [bind_of_ok sent, forwardKeys_calls options (sends.active.trans inactive),
      sends.only_isConsole, Console.calls_of_goesOn sends.toGoesOn]
    cases options.noInteractive with
    | true => exact Or.inl (List.append_nil _)
    | false => exact Or.inr rfl

/-- A failure of the work is reported, or passes through. -/
theorem workOrReport_notes (options : Options) (script : Option (String × List Char)) (rig : Rig) :
    (work options script rig).2.Notes (workOrReport options script rig).2 := by
  unfold workOrReport
  rw [attempt_bind]
  cases (work options script rig).1 with
  | ok result => exact Std.Refl.refl _
  | error failure =>
    dsimp only
    cases verdict failure with
    | none => exact Std.Refl.refl _
    | some found => exact ((endWith_notes _ _).bind fun _ => .pure _) _

/-! ### The session -/

/-- What is done after a session was closed, or could not be opened, asks for nothing more. -/
theorem finalStatus_notes : Leads Notes finalStatus := by
  refine Leads.look fun rig => ?_
  cases rig.listener.fault? with
  | none => exact Leads.pure _ rig
  | some fault => exact endWith_notes _ _ rig

theorem reportUnavailable_notes (reason port : String) :
    Leads Notes (reportUnavailable reason port) := by
  have available : Leads Notes (Link.isAvailable port) :=
    .ite (.pure _) (findPorts_notes.bind fun _ => .pure _)
  refine available.bind fun known => .ite (endWith_notes _ _) ?_
  exact findPorts_notes.bind fun _ => endWith_notes _ _

theorem holdSession_of_error (options : Options) (script : Option (String × List Char))
    {rig next : Rig} {failure : Failure}
    (failed : Session.openSession rig = (.error failure, next)) :
    next.Notes (holdSession options script rig).2 := by
  have leads (activity : Run Status) (notes : Leads Notes activity) :
      next.Notes (activity next).2 := notes next
  unfold holdSession
  rw [attempt_bind, failed]
  refine leads _ ?_
  split
  · exact reportUnavailable_notes _ _
  · exact .fail _
  · rename_i impossible
    cases impossible

theorem holdSession_of_ok (options : Options) (script : Option (String × List Char))
    {rig next : Rig} (succeeded : Session.openSession rig = (.ok (), next)) :
    (Session.closeSession (workOrReport options script next).2).2.Notes
      (holdSession options script rig).2 := by
  have closed := ensuring_snd (workOrReport options script) Session.closeSession next
  unfold holdSession
  rw [attempt_bind, succeeded]
  dsimp only
  rcases outcome : ensuring (workOrReport options script) Session.closeSession next
    with ⟨failure | status?, final⟩
  · rw [outcome] at closed
    rw [bind_of_error outcome, show final = _ from closed]
    exact Std.Refl.refl _
  · rw [outcome] at closed
    rw [bind_of_ok outcome, show final = _ from closed]
    cases status? with
    | none => exact finalStatus_notes _
    | some status => exact Std.Refl.refl _

/-- What a session does with the port and the console: the port is asked for once and, if it is to
be closed, closed once; a console that is made ready is restored; and nobody listens any more. -/
structure Custody (rig final : Rig) (closes : Bool) : Prop where
  ports : Event.only Event.isPort final.events =
    Event.only Event.isPort rig.events ++
      .opening rig.settings :: (if closes then [.portClosed] else [])
  silent : final.listener ≠ .listening
  consoles : Event.only Event.isConsole final.events = Event.only Event.isConsole rig.events ∨
    Event.only Event.isConsole final.events =
      Event.only Event.isConsole rig.events ++ Console.calls rig

section Custody

variable (options : Options) (script : Option (String × List Char)) {rig : Rig}

/-- Nothing is done with the port but to ask for it. -/
theorem custody_of_asked {final : Rig}
    (ports : Event.only Event.isPort final.events = Event.only Event.isPort (Link.asked rig).events)
    (consoles : Event.only Event.isConsole final.events =
      Event.only Event.isConsole (Link.asked rig).events)
    (silent : final.listener ≠ .listening) : Custody rig final false where
  ports := ports.trans (Link.only_isPort_asked rig)
  silent := silent
  consoles := Or.inl (consoles.trans (Event.only_push_of_not_sort rfl rig.events))

/-- A port that is refused is not closed. -/
theorem holdSession_of_refused {failure : Failure} (unopened : rig.port = .none)
    (deaf : rig.listener ≠ .listening) (closed : rig.port.isOpen = false)
    (refused : rig.plan.fault? .opening (rig.tally.opening + 1) = some failure) :
    Custody rig (holdSession options script rig).2 false := by
  obtain ⟨next, failed, notes⟩ := Session.openSession_of_refused closed refused
  have ends := Sends.of_notes
    (IsTrans.trans _ _ _ notes (holdSession_of_error options script failed))
  exact custody_of_asked (ends.only_isPort unopened) ends.only_isConsole
    fun still => deaf (ends.listener still)

/-- A port whose settings have no short form is left behind. -/
theorem holdSession_of_undescribed {refusal : Link.StopBitsRefusal}
    (deaf : rig.listener ≠ .listening) (closed : rig.port.isOpen = false)
    (granted : rig.plan.fault? .opening (rig.tally.opening + 1) = none)
    (undescribed : rig.settings.describe = .error refusal) :
    Custody rig (holdSession options script rig).2 false := by
  have failed := Session.openSession_of_undescribed closed granted undescribed
  -- The failure is no refused opening, so nothing at all is done with the port.
  have left : holdSession options script rig = (.error (.stopBits refusal), Link.acquired rig) := by
    unfold holdSession
    rw [attempt_bind, failed]
    rfl
  rw [left]
  exact custody_of_asked rfl rfl deaf

/-- A port that is opened with success is closed, whatever comes between. -/
theorem holdSession_of_described {short : String} (inactive : rig.keyboard.active = false)
    (closed : rig.port.isOpen = false)
    (granted : rig.plan.fault? .opening (rig.tally.opening + 1) = none)
    (described : rig.settings.describe = .ok short) :
    Custody rig (holdSession options script rig).2 true := by
  have succeeded := Session.openSession_of_described closed granted described
  have ends := Sends.of_notes (holdSession_of_ok options script succeeded)
  have reports := Sends.of_notes (workOrReport_notes options script (Session.opened short rig))
  have keeps := IsTrans.trans _ _ _ (work_keeps options script (Session.opened short rig))
    reports.toKeeps
  obtain ⟨silenced, released, _, consoles⟩ :=
    Session.closeSession_closes (workOrReport options script (Session.opened short rig)).2
  refine ⟨?_, fun still => silenced (ends.listener still), ?_⟩
  · rw [ends.only_isPort released]
    exact Session.closeSession_ports keeps
  · have inactiveToo : (Session.opened short rig).keyboard.active = false := inactive
    have opensQuietly : Event.only Event.isConsole (Session.opened short rig).events =
        Event.only Event.isConsole rig.events :=
      (Event.only_append (Session.opened_events short rig)).trans (List.append_nil _)
    have sameCalls : Console.calls (Session.opened short rig) = Console.calls rig := rfl
    rw [ends.only_isConsole, consoles, reports.only_isConsole]
    rcases work_calls options script inactiveToo with unused | used
    · exact Or.inl (unused.trans opensQuietly)
    · rw [opensQuietly, sameCalls] at used
      exact Or.inr used

/-- The port is closed when it is granted and its settings have a short form. -/
theorem holdSession_custody (unopened : rig.port = .none) (deaf : rig.listener ≠ .listening)
    (inactive : rig.keyboard.active = false) :
    Custody rig (holdSession options script rig).2
      ((rig.plan.fault? .opening (rig.tally.opening + 1)).isNone &&
        rig.settings.describe.isOk) := by
  have closed : rig.port.isOpen = false := by
    rw [unopened]
    rfl
  cases granted : rig.plan.fault? .opening (rig.tally.opening + 1) with
  | some failure => exact holdSession_of_refused options script unopened deaf closed granted
  | none =>
    cases described : rig.settings.describe with
    | error refusal => exact holdSession_of_undescribed options script deaf closed granted described
    | ok short => exact holdSession_of_described options script inactive closed granted described

end Custody

/-! ### The whole run -/

theorem shortStopBits_isOk (stopBits : Given Link.StopBits) :
    (Link.shortStopBits (stopBits.map Link.StopBits.count)).isOk = stopBits.value?.isSome := by
  cases stopBits with
  | blank => rfl
  | value bits => exact Link.shortStopBits_of_isTaken (Link.isTaken_count bits)

/-- The settings of the link have a short form unless the stop bits are a blank. -/
theorem describe_isOk {options : Options} {settings : Link.Settings}
    (completed : options.settings? = some settings) :
    settings.describe.isOk = options.stopBits.value?.isSome := by
  obtain ⟨handshake, _, rfl⟩ := Option.map_eq_some_iff.mp completed
  rw [← shortStopBits_isOk]
  unfold Link.Settings.describe
  cases Link.shortStopBits (options.stopBits.map Link.StopBits.count) <;> rfl

/-- The calls of a run to the port and to the console, whoever grants the port. If it was granted
it is closed exactly once, provided that the stop bits are no blank. -/
theorem run_calls (opening : Opening) (arguments : List String) (plan : Plan)
    (finalArrivals : List Arrival) (batches : List (List Keystroke)) :
    let final := (run opening arguments (start plan finalArrivals batches)).2
    let ports := Event.only Event.isPort final.events
    let consoles := Event.only Event.isConsole final.events
    (ports = [] ∨
      ∃ options script settings, readArguments arguments = .ok options ∧
        scriptOf opening options = .ok script ∧ options.settings? = some settings ∧
        ports = .opening settings ::
          (if (plan.fault? .opening 1).isNone && options.stopBits.value?.isSome then [.portClosed]
            else [])) ∧
      final.listener ≠ .listening ∧
      (consoles = [] ∨ consoles = [.consoleCreated] ∨
        (consoles = [.consoleCreated, .consoleSetUp] ∧ plan.fault? .consoleSetUp 1 ≠ none) ∨
        (consoles = [.consoleCreated, .consoleSetUp, .consoleRestored] ∧
          plan.fault? .consoleSetUp 1 = none)) := by
  intro final ports consoles
  rcases run_cases opening arguments (start plan finalArrivals batches) with
    ⟨begun, comes⟩ | ⟨notes, _⟩
  · have sends := Sends.of_notes begun.begins
    have unopened : begun.ready.port = .none := by
      rcases sends.port with ⟨same, _⟩ | ⟨held, _⟩
      · exact same
      · cases held
    have noPorts : Event.only Event.isPort begun.ready.events = [] := sends.only_isPort rfl
    have noConsoles : Event.only Event.isConsole begun.ready.events = [] := sends.only_isConsole
    have deaf : begun.ready.listener ≠ .listening := fun still => nomatch sends.listener still
    have counts : begun.ready.tally.opening = 0 := sends.once .opening rfl
    have samePlan : begun.ready.plan = plan := sends.plan
    have known : begun.ready.settings = begun.settings := by rw [begun.begins.frame]
    obtain ⟨portEvents, silent, consoleEvents⟩ :=
      holdSession_custody begun.options begun.script unopened deaf sends.active
    rw [← comes] at portEvents silent consoleEvents
    refine ⟨Or.inr ⟨begun.options, begun.script, begun.settings, begun.accepted, begun.loaded,
      begun.completed, ?_⟩, silent, ?_⟩
    · rw [noPorts, counts, samePlan, known, describe_isOk begun.completed] at portEvents
      exact portEvents
    · rcases consoleEvents with unused | used
      · exact Or.inl (unused.trans noConsoles)
      · rw [noConsoles] at used
        rw [show consoles = Console.calls begun.ready from used]
        have setUps : begun.ready.tally.consoleSetUp = 0 := sends.once .consoleSetUp rfl
        unfold Console.calls
        rw [setUps, samePlan]
        split
        · exact Or.inr (Or.inl rfl)
        · split
          · rename_i planned
            exact Or.inr (Or.inr (Or.inl ⟨rfl, by rw [planned]; exact nofun⟩))
          · rename_i passed
            exact Or.inr (Or.inr (Or.inr ⟨rfl, passed⟩))
  · have sends := Sends.of_notes notes
    have deaf : final.listener ≠ .listening := fun still => nomatch sends.listener still
    exact ⟨Or.inl (sends.only_isPort rfl), deaf, Or.inl sends.only_isConsole⟩

/-- The calls of a run to the port and to the console, for every command line, script, delivery
of arrivals and keystrokes, and plan of faults, where no port is granted with stop bits that
the port library does not take. The port is asked for at most once, and only when the command
line is accepted and the script is loaded. If it was granted it is closed exactly once. At the
end nobody listens. A console that is made ready is restored exactly once. -/
theorem run_custody (opening : Opening) (arguments : List String) (plan : Plan)
    (finalArrivals : List Arrival) (batches : List (List Keystroke))
    (vets : ∀ options settings, readArguments arguments = .ok options →
      options.settings? = some settings →
      ({ start plan finalArrivals batches with settings := settings } : Rig).Vets) :
    let final := (run opening arguments (start plan finalArrivals batches)).2
    let ports := Event.only Event.isPort final.events
    let consoles := Event.only Event.isConsole final.events
    (ports = [] ∨
      ∃ options script settings, readArguments arguments = .ok options ∧
        scriptOf opening options = .ok script ∧ options.settings? = some settings ∧
        ports = .opening settings ::
          (if (plan.fault? .opening 1).isNone then [.portClosed] else [])) ∧
      final.listener ≠ .listening ∧
      (consoles = [] ∨ consoles = [.consoleCreated] ∨
        (consoles = [.consoleCreated, .consoleSetUp] ∧ plan.fault? .consoleSetUp 1 ≠ none) ∨
        (consoles = [.consoleCreated, .consoleSetUp, .consoleRestored] ∧
          plan.fault? .consoleSetUp 1 = none)) := by
  intro final ports consoles
  obtain ⟨portEvents, silent, consoleEvents⟩ :=
    run_calls opening arguments plan finalArrivals batches
  refine ⟨?_, silent, consoleEvents⟩
  rcases portEvents with none | ⟨options, script, settings, accepted, loaded, completed, events⟩
  · exact Or.inl none
  · refine Or.inr ⟨options, script, settings, accepted, loaded, completed, events.trans ?_⟩
    cases granted : plan.fault? .opening 1 with
    | some failure => rfl
    | none =>
      obtain ⟨short, described⟩ :=
        Link.describe_of_isTaken (vets options settings accepted completed granted)
      have bits : options.stopBits.value?.isSome = true := by
        rw [← describe_isOk completed, described]
        rfl
      rw [bits]
      rfl

/-- A port that is granted with two stop bits, and whose first write fails. -/
theorem run_custody_of_unplugged :
    let arguments := ["--no-interactive", "COM3", "9600", "8", "None", "Two", "None", "f"]
    let opening : Opening := fun _ => .ok [0x61]
    let first := start { faults := [⟨.write, 1, .transport "gone"⟩] } [] []
    (∀ options settings, readArguments arguments = .ok options →
        options.settings? = some settings → ({ first with settings := settings } : Rig).Vets) ∧
      ∃ settings, Event.only Event.isPort (run opening arguments first).2.events =
        [.opening settings, .portClosed] := by
  intro arguments opening first
  have vets : ∀ options settings, readArguments arguments = .ok options →
      options.settings? = some settings → ({ first with settings := settings } : Rig).Vets := by
    intro options settings accepted completed _
    have bits : (readArguments arguments).toOption.bind (·.stopBits.value?) = some .two := by
      decide +kernel
    have two : options.stopBits.value? = some .two := by
      rwa [accepted] at bits
    obtain ⟨handshake, _, rfl⟩ := Option.map_eq_some_iff.mp completed
    show Link.IsTaken (options.stopBits.map Link.StopBits.count)
    cases given : options.stopBits with
    | blank =>
      rw [given] at two
      cases two
    | value stopBits => exact Link.isTaken_count stopBits
  refine ⟨vets, ?_⟩
  obtain ⟨none | ⟨_, _, settings, _, _, _, ports⟩, -⟩ := run_custody opening arguments _ [] [] vets
  · have called :
        (Event.only Event.isPort (run opening arguments first).2.events).isEmpty = false := by
      decide +kernel
    rw [none] at called
    cases called
  · exact ⟨settings, ports⟩

end KeyFeed.Command
