/-
This file says what comes before the session of a run: the ports are listed, the command
line is read, the script is loaded and the settings are completed. Up to then only texts are
shown. A run that comes to no session ends in one of the ways that are listed here, each
with its status or its failure.
-/

import KeyFeed.Command.Program
import KeyFeed.Proofs.Rig.GoesOn

namespace KeyFeed.Command

open KeyFeed.Run KeyFeed.Script

open Rig (Notes)

/-! ### The command line -/

theorem findPorts_notes : Leads Notes Link.findPorts := by
  refine Leads.look fun rig => ?_
  cases rig.plan.ports with
  | ok ports => exact Leads.pure _ rig
  | error failure => exact Leads.ite ((log_notes _ _).bind fun _ => .pure _) (.fail _) rig

/-- The ports of the machine as they are listed. -/
def listedPorts (plan : Plan) : List Link.PortInfo :=
  match plan.ports with
  | .ok ports => Link.sortPorts ports
  | .error _ => []

/-- Listing the ports fails only when the machine fails for a reason other than the system. -/
theorem findPorts_cases (rig : Rig) :
    (∃ next, Link.findPorts rig = (.ok (listedPorts rig.plan), next)) ∨
      ∃ failure, rig.plan.ports = .error failure ∧ failure.isSystem = false ∧
        Link.findPorts rig = (.error failure, rig) := by
  unfold Link.findPorts listedPorts
  rw [look_bind]
  cases rig.plan.ports with
  | ok ports => exact Or.inl ⟨rig, rfl⟩
  | error failure =>
    dsimp only
    cases system : failure.isSystem with
    | true => exact Or.inl ⟨_, rfl⟩
    | false => exact Or.inr ⟨failure, rfl, system, rfl⟩

/-- The state after a text was printed. -/
def shown (text : String) (rig : Rig) : Rig :=
  { rig with events := rig.events.push (.printed text) }

theorem printHelp_of_ok {ports : List Link.PortInfo} {text : String}
    (filled : help ports = .ok text) (rig : Rig) :
    printHelp ports rig = (.ok (), shown text rig) := by
  unfold printHelp
  rw [filled]
  rfl

theorem printHelp_of_error {ports : List Link.PortInfo} {flaw : Text.TemplateFlaw}
    (flawed : help ports = .error flaw) (rig : Rig) :
    printHelp ports rig = (.error (.template flaw), rig) := by
  unfold printHelp
  rw [flawed]
  rfl

theorem readOptions_of_accepted {arguments : List String} {options : Options}
    (accepted : readArguments arguments = .ok options) (ports : List Link.PortInfo) (rig : Rig) :
    readOptions ports arguments rig = (.ok (.ok options), rig) := by
  unfold readOptions
  rw [accepted]
  rfl

theorem readOptions_of_help {arguments : List String}
    (wanted : readArguments arguments = .error .help) (ports : List Link.PortInfo) :
    readOptions ports arguments = printHelp ports >>= fun _ => pure (.error .done) := by
  unfold readOptions
  rw [wanted]

theorem readOptions_of_refused {arguments : List String} {error : UsageError}
    (refused : readArguments arguments = .error (.refused error)) (ports : List Link.PortInfo)
    (rig : Rig) :
    readOptions ports arguments rig =
      (.ok (.error .usage), { rig with events := rig.events.push (.reported error.report) }) := by
  unfold readOptions
  rw [refused]
  rfl

theorem endWith_notes (status : Status) (message : String) :
    Leads Notes (endWith status message) :=
  Leads.bind (record_notes rfl) fun _ => .pure _

/-! ### Before the session -/

/-- How a run ends before its session. The ways stand in the order in which they come up, and each
supposes that none before it did. -/
inductive EndsEarly (opening : Opening) (arguments : List String) (plan : Plan) :
    Except Failure Status → Prop where
  /-- The ports cannot be listed, for a reason other than the system. -/
  | unlisted {failure : Failure} (failed : plan.ports = .error failure)
      (other : failure.isSystem = false) : EndsEarly opening arguments plan (.error failure)
  /-- The help text is wanted, and its end is a template that cannot be filled in. -/
  | helpFlawed {flaw : Text.TemplateFlaw}
      (wanted : arguments = [] ∨ readArguments arguments = .error .help)
      (flawed : help (listedPorts plan) = .error flaw) :
      EndsEarly opening arguments plan (.error (.template flaw))
  /-- There is nothing on the command line, and the help text is shown. -/
  | nothingGiven (nothing : arguments = []) : EndsEarly opening arguments plan (.ok .usage)
  /-- The help text is asked for, and shown. -/
  | helpWanted (given : arguments ≠ []) (wanted : readArguments arguments = .error .help) :
      EndsEarly opening arguments plan (.ok .done)
  /-- The command line is refused. -/
  | refused {error : UsageError} (given : arguments ≠ [])
      (refused : readArguments arguments = .error (.refused error)) :
      EndsEarly opening arguments plan (.ok .usage)
  /-- The path of the script holds a NUL character. -/
  | nulInPath {options : Options} (accepted : readArguments arguments = .ok options)
      (named : scriptOf opening options = .error .nulInPath) :
      EndsEarly opening arguments plan (.error (.source .nulInPath))
  /-- The script cannot be opened or decoded. -/
  | unreadable {options : Options} {path : String} {flaw : SourceFlaw}
      (accepted : readArguments arguments = .ok options)
      (unread : scriptOf opening options = .error (.unreadable path flaw)) :
      EndsEarly opening arguments plan (.ok .scriptUnreadable)
  /-- The handshake is a blank. -/
  | handshakeBlank {options : Options} {script : Option (String × List Char)}
      (accepted : readArguments arguments = .ok options)
      (loaded : scriptOf opening options = .ok script) (blank : options.handshake = .blank) :
      EndsEarly opening arguments plan (.error .blankHandshake)

/-- A run without a session ends well only if the help text is asked for. -/
theorem EndsEarly.help_of_done {opening : Opening} {arguments : List String} {plan : Plan}
    (early : EndsEarly opening arguments plan (.ok .done)) :
    readArguments arguments = .error .help := by
  cases early with
  | helpWanted _ wanted => exact wanted

/-- The session that a run begins: its options, script and settings, and the state in which the
session is to be opened. -/
structure Begun (opening : Opening) (arguments : List String) (rig : Rig) where
  options : Options
  script : Option (String × List Char)
  settings : Link.Settings
  ready : Rig
  accepted : readArguments arguments = .ok options
  loaded : scriptOf opening options = .ok script
  completed : options.settings? = some settings
  begins : { rig with settings := settings }.Notes ready

/-- The settings of the link are known before anything is opened. -/
theorem runSession_cases (options : Options) (script : Option (String × List Char)) (rig : Rig) :
    (∃ settings ready, options.settings? = some settings ∧
        { rig with settings := settings }.Notes ready ∧
        runSession options script rig = holdSession options script ready) ∨
      options.handshake = .blank ∧
        runSession options script rig = (.error .blankHandshake, rig) := by
  unfold runSession settingsOf Options.settings?
  cases options.handshake with
  | blank => exact Or.inr ⟨rfl, rfl⟩
  | value handshake =>
    refine Or.inl ⟨_, _, rfl, ?_, rfl⟩
    exact log_notes _ _ _

theorem ne_nil_of_accepted {arguments : List String} {options : Options}
    (accepted : readArguments arguments = .ok options) : arguments ≠ [] := by
  rintro rfl
  have refused : (readArguments []).isOk = false := by rfl
  rw [accepted] at refused
  cases refused

/-- With a command line that is accepted a run comes to a session when the script is loaded and the
handshake is no blank. -/
theorem run_cases_of_accepted {opening : Opening} {arguments : List String} {options : Options}
    (accepted : readArguments arguments = .ok options) {rig next : Rig}
    {ports : List Link.PortInfo} (listed : Link.findPorts rig = (.ok ports, next))
    (listing : rig.Notes next) :
    (∃ begun : Begun opening arguments rig,
        run opening arguments rig = holdSession begun.options begun.script begun.ready) ∨
      rig.Notes (run opening arguments rig).2 ∧
        EndsEarly opening arguments rig.plan (run opening arguments rig).1 := by
  have given := ne_nil_of_accepted accepted
  let least : Level := if options.verbose then .debug else .warning
  let logging : Rig := { next with events := next.events.push (.loggingStarted least) }
  have begins : rig.Notes logging := IsTrans.trans _ _ _ listing (Notes.push rfl next)
  unfold run
  rw [bind_of_ok listed, if_neg (by simpa using given),
    bind_of_ok (readOptions_of_accepted accepted ports next)]
  dsimp only
  rw [record_bind]
  cases loaded : scriptOf opening options with
  | error refusal =>
    cases refusal with
    | nulInPath => exact Or.inr ⟨begins, .nulInPath accepted loaded⟩
    | unreadable path flaw =>
      exact Or.inr ⟨IsTrans.trans _ _ _ begins (endWith_notes _ _ logging),
        .unreadable accepted loaded⟩
  | ok script =>
    dsimp only
    rcases runSession_cases options script logging with
      ⟨settings, ready, completed, readies, comes⟩ | ⟨blank, failed⟩
    · have settled := begins.settle settings
      exact Or.inl ⟨⟨options, script, settings, ready, accepted, loaded, completed,
        IsTrans.trans _ _ _ settled readies⟩, comes⟩
    · rw [failed]
      exact Or.inr ⟨begins, .handshakeBlank accepted loaded blank⟩

/-- A run either comes to a session, or ends before with nothing asked of the port and the
console. -/
theorem run_cases (opening : Opening) (arguments : List String) (rig : Rig) :
    (∃ begun : Begun opening arguments rig,
        run opening arguments rig = holdSession begun.options begun.script begun.ready) ∨
      rig.Notes (run opening arguments rig).2 ∧
        EndsEarly opening arguments rig.plan (run opening arguments rig).1 := by
  have listing := findPorts_notes rig
  rcases findPorts_cases rig with ⟨next, listed⟩ | ⟨failure, failed, other, unlisted⟩
  · rw [listed] at listing
    have shows (text : String) : rig.Notes (shown text next) :=
      IsTrans.trans _ _ _ listing (Notes.push rfl next)
    by_cases given : arguments = []
    · unfold run
      rw [bind_of_ok listed, if_pos (by simpa using given)]
      cases filled : help (listedPorts rig.plan) with
      | ok text =>
        rw [bind_of_ok (printHelp_of_ok filled next)]
        exact Or.inr ⟨shows text, .nothingGiven given⟩
      | error flaw =>
        rw [bind_of_error (printHelp_of_error filled next)]
        exact Or.inr ⟨listing, .helpFlawed (Or.inl given) filled⟩
    · cases parsed : readArguments arguments with
      | ok options => exact run_cases_of_accepted parsed listed listing
      | error stop =>
        unfold run
        rw [bind_of_ok listed, if_neg (by simpa using given)]
        cases stop with
        | refused error =>
          rw [bind_of_ok (readOptions_of_refused parsed _ next)]
          have reported := Notes.push (rfl : (Event.reported error.report).isText = true) next
          exact Or.inr ⟨IsTrans.trans _ _ _ listing reported, .refused given parsed⟩
        | help =>
          rw [readOptions_of_help parsed, bind_assoc]
          cases filled : help (listedPorts rig.plan) with
          | ok text =>
            rw [bind_of_ok (printHelp_of_ok filled next)]
            exact Or.inr ⟨shows text, .helpWanted given parsed⟩
          | error flaw =>
            rw [bind_of_error (printHelp_of_error filled next)]
            exact Or.inr ⟨listing, .helpFlawed (Or.inr parsed) filled⟩
  · unfold run
    rw [bind_of_error unlisted]
    exact Or.inr ⟨Std.Refl.refl rig, .unlisted failed other⟩

end KeyFeed.Command
