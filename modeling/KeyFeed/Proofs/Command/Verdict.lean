/-
This file says how a run ends when the surroundings fail only in ways that are foreseen. The
first failure in the order of the run decides its status: the command line, the script, the
port, and then whatever ends the work in the session. Without one it is the fault that the
listener has met, if it has met one.

A few runs have no status. Values that are blanks are taken as given when the command line
is read, and four of them fail where they are used. The help text fails when the name of a
port makes a template of it that cannot be filled in. And a script can be repeated without
end.
-/

import KeyFeed.Proofs.Command.Accepted
import KeyFeed.Proofs.Command.Custody
import KeyFeed.Proofs.Session.Finishing

namespace KeyFeed.Command

open KeyFeed.Run KeyFeed.Script KeyFeed.Session

open Rig (Notes)

/-! ### The ways to end -/

/-- The status with which a run ends whose session was opened. -/
inductive SessionEnds (options : Options) (script : Option (String × List Char)) (opened : Rig) :
    Nat → Prop where
  /-- A directive of the script is refused. -/
  | directive {refusal : DirectiveRefusal}
      (failed : (work options script opened).1 = .error (.directive refusal)) :
      SessionEnds options script opened 5
  /-- The sender finds the link lost. -/
  | link {fault : LinkFault} (failed : (work options script opened).1 = .error (.link fault)) :
      SessionEnds options script opened 6
  /-- There is no console for the interactive phase. -/
  | console {reason : String}
      (failed : (work options script opened).1 = .error (.consoleUnavailable reason)) :
      SessionEnds options script opened 7
  /-- The user interrupts. -/
  | interrupted {message : String}
      (failed : (work options script opened).1 = .error (.interrupted message)) :
      SessionEnds options script opened 130
  /-- The work is done, but the listener has met a fault of the link. -/
  | lost {worked : Rig} {fault : LinkFault} (works : work options script opened = (.ok (), worked))
      (kept : (closeSession worked).2.listener.fault? = some fault) :
      SessionEnds options script opened 6
  /-- The work is done, and nobody has met a fault. -/
  | done {worked : Rig} (works : work options script opened = (.ok (), worked))
      (faultless : (closeSession worked).2.listener.fault? = none) :
      SessionEnds options script opened 0

/-- The status with which a run ends. The ways stand in the order in which they come up, and each
supposes that none before it did. -/
inductive RunEnds (opening : Opening) (arguments : List String) (first : Rig) : Nat → Prop where
  /-- There is nothing on the command line. -/
  | nothingGiven (nothing : arguments = []) : RunEnds opening arguments first 2
  /-- The help text is asked for. -/
  | helpWanted (given : arguments ≠ []) (wanted : readArguments arguments = .error .help) :
      RunEnds opening arguments first 0
  /-- The command line is refused. -/
  | refused {error : UsageError} (given : arguments ≠ [])
      (refused : readArguments arguments = .error (.refused error)) :
      RunEnds opening arguments first 2
  /-- The script cannot be opened or decoded. -/
  | unreadable {options : Options} {path : String} {flaw : SourceFlaw}
      (accepted : readArguments arguments = .ok options)
      (unread : scriptOf opening options = .error (.unreadable path flaw)) :
      RunEnds opening arguments first 4
  /-- The port fails to open. -/
  | unavailable (begun : Begun opening arguments first) {failure : Failure}
      (refused : first.plan.fault? .opening 1 = some failure) : RunEnds opening arguments first 3
  /-- The session is opened. -/
  | session (begun : Begun opening arguments first) {opened : Rig}
      (opens : openSession begun.ready = (.ok (), opened)) {status : Nat}
      (ends : SessionEnds begun.options begun.script opened status) :
      RunEnds opening arguments first status

/-- Why a run has no status. -/
inductive RunFails (opening : Opening) (arguments : List String) (first : Rig) :
    Failure → Prop where
  /-- The help text is wanted, and its end is a template that cannot be filled in. -/
  | helpFlawed {flaw : Text.TemplateFlaw}
      (wanted : arguments = [] ∨ readArguments arguments = .error .help)
      (flawed : help (listedPorts first.plan) = .error flaw) :
      RunFails opening arguments first (.template flaw)
  /-- The handshake is a blank. -/
  | handshakeBlank {options : Options} {script : Option (String × List Char)}
      (accepted : readArguments arguments = .ok options)
      (loaded : scriptOf opening options = .ok script) (blank : options.handshake = .blank) :
      RunFails opening arguments first .blankHandshake
  /-- The port is granted, and the stop bits are a blank. -/
  | stopBitsBlank (begun : Begun opening arguments first)
      (granted : first.plan.fault? .opening 1 = none) (blank : begun.options.stopBits = .blank) :
      RunFails opening arguments first (.stopBits .blank)
  /-- Something is to be sent, and its encoding is a blank. -/
  | encodingBlank (begun : Begun opening arguments first) {opened : Rig}
      (opens : openSession begun.ready = (.ok (), opened))
      (blank : begun.options.sender.encoding = .blank)
      (failed : (work begun.options begun.script opened).1 = .error .blankEncoding) :
      RunFails opening arguments first .blankEncoding
  /-- A character of the script was sent, and the pause after it is a blank. -/
  | pauseBlank (begun : Begun opening arguments first) {opened : Rig}
      (opens : openSession begun.ready = (.ok (), opened))
      (blank : begun.options.sender.pacing.perCharacter = .blank)
      (failed : (work begun.options begun.script opened).1 = .error .blankPause) :
      RunFails opening arguments first .blankPause
  /-- The script is repeated without end, and so is the run. -/
  | endless (begun : Begun opening arguments first) {opened announced : Rig} {path : String}
      {text : List Char} (opens : openSession begun.ready = (.ok (), opened))
      (scripted : begun.script = some (path, text))
      (said : say s!"Sending file [{path}]" opened = (.ok (), announced))
      (endless : begun.options.sender.Endless text begun.options.again.isSome announced) :
      RunFails opening arguments first .unfinished

/-! ### Work -/

section Work

variable {plan : Plan} {options : Options} {script : Option (String × List Char)} {rig : Rig}

/-- The script is announced, and then repeated without end. -/
def Repeats (options : Options) (script : Option (String × List Char)) (rig : Rig) : Prop :=
  ∃ path text announced, script = some (path, text) ∧
    say s!"Sending file [{path}]" rig = (.ok (), announced) ∧
    options.sender.Endless text options.again.isSome announced

theorem sendFile_error (foreseen : plan.Foreseen) (encodable : Encodable options.sender.encoding)
    (planned : rig.plan = plan) (inactive : rig.keyboard.active = false) {failure : Failure}
    (failed : (sendFile options script rig).1 = .error failure) :
    options.sender.EndsBy failure ∨ failure = .unfinished ∧ Repeats options script rig := by
  unfold sendFile at failed
  cases script with
  | none => cases failed
  | some file =>
    obtain ⟨path, text⟩ := file
    let announced := shown (s!"Sending file [{path}]" ++ "\n") rig
    have said : say s!"Sending file [{path}]" rig = (.ok (), announced) := rfl
    dsimp only at failed
    rw [bind_of_ok said] at failed
    rcases sent : options.sender.sendScript .output text options.again.isSome announced
      with ⟨cause | _, next⟩
    · rw [bind_of_error sent] at failed
      cases failed
      have plannedToo : announced.plan = plan := planned
      have inactiveToo : announced.keyboard.active = false := inactive
      rcases Sender.sendScript_error foreseen encodable plannedToo inactiveToo
        (congrArg Prod.fst sent) with ends | ⟨rfl, endless⟩
      · exact Or.inl ends
      · exact Or.inr ⟨rfl, path, text, announced, rfl, said, endless⟩
    · rw [bind_of_ok sent] at failed
      cases failed

theorem forwardKeys_error (foreseen : plan.Foreseen) (encodable : Encodable options.sender.encoding)
    (planned : rig.plan = plan) (inactive : rig.keyboard.active = false) {failure : Failure}
    (failed : (forwardKeys options rig).1 = .error failure) : options.sender.EndsBy failure := by
  unfold forwardKeys at failed
  split at failed
  · cases failed
  · let announced := shown ("INTERACTIVE MODE: press ESC or CTRL+C to exit" ++ "\n") rig
    have plannedToo : announced.plan = plan := planned
    have inactiveToo : announced.keyboard.active = false := inactive
    exact interact_error foreseen encodable plannedToo inactiveToo failure failed

/-- Work ends early for a cause that is foreseen, unless the script is repeated without end. -/
theorem work_error (foreseen : plan.Foreseen) (encodable : Encodable options.sender.encoding)
    (planned : rig.plan = plan) (inactive : rig.keyboard.active = false) {failure : Failure}
    (failed : (work options script rig).1 = .error failure) :
    options.sender.EndsBy failure ∨ failure = .unfinished ∧ Repeats options script rig := by
  unfold work at failed
  rcases sent : sendFile options script rig with ⟨cause | _, next⟩
  · rw [bind_of_error sent] at failed
    cases failed
    exact sendFile_error foreseen encodable planned inactive (congrArg Prod.fst sent)
  · rw [bind_of_ok sent] at failed
    have sends := (sendFile_sends options script).achieves _ _ _ sent
    exact Or.inl (forwardKeys_error foreseen encodable (sends.plan.trans planned)
      (sends.active.trans inactive) failed)

end Work

/-! ### The session -/

section Session

variable {plan : Plan} {options : Options} {script : Option (String × List Char)}
  {rig opened : Rig}

/-- The ports are listed where the machine fails in a way that is foreseen. -/
theorem findPorts_of_foreseen (foreseen : plan.Foreseen) (planned : rig.plan = plan) :
    ∃ ports next, Link.findPorts rig = (.ok ports, next) ∧ next.plan = plan := by
  rcases findPorts_cases rig with ⟨next, listed⟩ | ⟨failure, failed, other, _⟩
  · have notes : rig.Notes next := by
      have led := findPorts_notes rig
      rwa [listed] at led
    refine ⟨_, next, listed, ?_⟩
    rw [notes.frame]
    exact planned
  · rw [foreseen.ports failure (planned ▸ failed)] at other
    cases other

/-- Reporting that the port is not available does not fail. -/
theorem reportUnavailable_fst (foreseen : plan.Foreseen) (planned : rig.plan = plan)
    (reason port : String) : (reportUnavailable reason port rig).1 = .ok .linkUnavailable := by
  have known : ∃ known next, Link.isAvailable port rig = (.ok known, next) ∧ next.plan = plan := by
    unfold Link.isAvailable
    split
    · exact ⟨true, rig, rfl, planned⟩
    · obtain ⟨ports, next, listed, kept⟩ := findPorts_of_foreseen foreseen planned
      exact ⟨Link.isListed ports port, next, bind_of_ok listed _, kept⟩
  obtain ⟨known, next, asked, kept⟩ := known
  obtain ⟨ports, last, listed, _⟩ := findPorts_of_foreseen foreseen kept
  unfold reportUnavailable
  rw [bind_of_ok asked]
  cases known with
  | true => rfl
  | false =>
    rw [if_neg (by simp), bind_of_ok listed]
    rfl

/-- Work that is done leaves the status to the listener. -/
theorem holdSession_of_worked (opens : openSession rig = (.ok (), opened)) {worked : Rig}
    (works : work options script opened = (.ok (), worked))
    (closed : (closeSession worked).1 = .ok ()) :
    (holdSession options script rig).1 =
      match (closeSession worked).2.listener.fault? with
      | none => .ok .done
      | some _ => .ok .linkFault := by
  have reports : workOrReport options script opened = (.ok none, worked) := by
    unfold workOrReport
    rw [attempt_bind, works]
    rfl
  have ended : ensuring (workOrReport options script) closeSession opened =
      (.ok none, (closeSession worked).2) := by
    have closes : closeSession worked = (.ok (), (closeSession worked).2) := Prod.ext closed rfl
    rw [ensuring_apply, reports, closes]
  unfold holdSession finalStatus
  rw [attempt_bind, opens]
  dsimp only
  rw [bind_of_ok ended]
  dsimp only
  rw [look_bind]
  cases (closeSession worked).2.listener.fault? <;> rfl

/-- Work that ends early decides the status, once the session was closed. -/
theorem holdSession_of_broken (opens : openSession rig = (.ok (), opened)) {failure : Failure}
    (failed : (work options script opened).1 = .error failure)
    (closed : (closeSession (workOrReport options script opened).2).1 = .ok ()) :
    (holdSession options script rig).1 =
      match verdict failure with
      | none => .error failure
      | some (status, _) => .ok status := by
  have reports : (workOrReport options script opened).1 =
      match verdict failure with
      | none => .error failure
      | some (status, _) => .ok (some status) := by
    unfold workOrReport
    rw [attempt_bind, failed]
    dsimp only
    cases verdict failure <;> rfl
  have closes : closeSession (workOrReport options script opened).2 = (.ok (), _) :=
    Prod.ext closed rfl
  have ended := ensuring_apply (workOrReport options script) closeSession opened
  rw [closes, reports] at ended
  unfold holdSession
  rw [attempt_bind, opens]
  dsimp only
  cases judged : verdict failure with
  | none =>
    rw [judged] at ended
    rw [bind_of_error ended]
  | some found =>
    rw [judged] at ended
    rw [bind_of_ok ended]
    rfl

end Session

/-! ### The whole run -/

section Run

variable {opening : Opening} {arguments : List String} {plan : Plan} {finalArrivals : List Arrival}
  {batches : List (List Keystroke)}

/-- The session of a run is begun in a state where nothing was asked of the port and the console. -/
theorem begun_ready (begun : Begun opening arguments (start plan finalArrivals batches)) :
    begun.ready.plan = plan ∧ begun.ready.port.isOpen = false ∧
      begun.ready.keyboard.active = false ∧ begun.ready.tally.opening = 0 ∧
      begun.ready.settings = begun.settings := by
  rw [begun.begins.frame]
  exact ⟨rfl, rfl, rfl, rfl, rfl⟩

theorem scriptOf_nulInPath {options : Options}
    (refused : scriptOf opening options = .error .nulInPath) :
    ∃ path, options.file = some path ∧ '\x00' ∈ path.toList := by
  unfold scriptOf at refused
  cases given : options.file with
  | none =>
    rw [given] at refused
    cases refused
  | some path =>
    refine ⟨path, rfl, ?_⟩
    by_cases holdsNul : '\x00' ∈ path.toList
    · exact holdsNul
    · rw [given] at refused
      dsimp only at refused
      unfold loadScript at refused
      rw [if_neg holdsNul] at refused
      split at refused
      · cases refused
      · split at refused
        · cases refused
        · split at refused <;> cases refused

/-- The settings of a run have no short form only when its stop bits are a blank. -/
theorem describe_error {options : Options} {settings : Link.Settings}
    (completed : options.settings? = some settings) {refusal : Link.StopBitsRefusal}
    (undescribed : settings.describe = .error refusal) :
    options.stopBits = .blank ∧ refusal = .blank := by
  have isOk := describe_isOk completed
  rw [undescribed] at isOk
  cases bits : options.stopBits with
  | value count =>
    rw [bits] at isOk
    cases isOk
  | blank =>
    obtain ⟨handshake, _, rfl⟩ := Option.map_eq_some_iff.mp completed
    unfold Link.Settings.describe at undescribed
    rw [bits] at undescribed
    cases undescribed
    exact ⟨rfl, rfl⟩

/-- How a run ends whose session is opened. -/
theorem holdSession_of_opened (foreseen : plan.Foreseen)
    (begun : Begun opening arguments (start plan finalArrivals batches)) {opened : Rig}
    (opens : openSession begun.ready = (.ok (), opened)) (planned : opened.plan = plan)
    (inactive : opened.keyboard.active = false) :
    (∃ status, (holdSession begun.options begun.script begun.ready).1 = .ok status ∧
        RunEnds opening arguments (start plan finalArrivals batches) status.code) ∨
      ∃ failure, (holdSession begun.options begun.script begun.ready).1 = .error failure ∧
        RunFails opening arguments (start plan finalArrivals batches) failure := by
  -- The session closes without failure, so the work alone decides, or else the listener.
  have keeps := work_keeps begun.options begun.script opened
  have workedPlan : (work begun.options begun.script opened).2.plan = plan :=
    keeps.plan.trans planned
  rcases works : work begun.options begun.script opened with ⟨failure | _, worked⟩
  · have failed := congrArg Prod.fst works
    have closed : (closeSession (workOrReport begun.options begun.script opened).2).1 = .ok () := by
      refine closeSession_ok foreseen ?_
      rw [(workOrReport_notes begun.options begun.script opened).frame]
      exact workedPlan
    have ended := holdSession_of_broken opens failed closed
    rcases work_error foreseen (readArguments_encodable begun.accepted) planned inactive failed with
      ends | ⟨rfl, path, text, announced, scripted, said, endless⟩
    · cases ends with
      | directive refusal => exact Or.inl ⟨_, ended, .session begun opens (.directive failed)⟩
      | link fault => exact Or.inl ⟨_, ended, .session begun opens (.link failed)⟩
      | consoleUnavailable reason =>
        exact Or.inl ⟨_, ended, .session begun opens (.console failed)⟩
      | interrupted message => exact Or.inl ⟨_, ended, .session begun opens (.interrupted failed)⟩
      | blankEncoding blank => exact Or.inr ⟨_, ended, .encodingBlank begun opens blank failed⟩
      | blankPause blank => exact Or.inr ⟨_, ended, .pauseBlank begun opens blank failed⟩
    · exact Or.inr ⟨_, ended, .endless begun opens scripted said endless⟩
  · rw [works] at workedPlan
    have ended := holdSession_of_worked opens works (closeSession_ok foreseen workedPlan)
    cases fault : (closeSession worked).2.listener.fault? with
    | none =>
      rw [fault] at ended
      exact Or.inl ⟨_, ended, .session begun opens (.done works fault)⟩
    | some kept =>
      rw [fault] at ended
      exact Or.inl ⟨_, ended, .session begun opens (.lost works fault)⟩

/-- How a run ends that comes to a session. -/
theorem holdSession_ends (foreseen : plan.Foreseen)
    (begun : Begun opening arguments (start plan finalArrivals batches)) :
    (∃ status, (holdSession begun.options begun.script begun.ready).1 = .ok status ∧
        RunEnds opening arguments (start plan finalArrivals batches) status.code) ∨
      ∃ failure, (holdSession begun.options begun.script begun.ready).1 = .error failure ∧
        RunFails opening arguments (start plan finalArrivals batches) failure := by
  obtain ⟨planned, closed, inactive, uncounted, settings⟩ := begun_ready begun
  cases granted : plan.fault? .opening 1 with
  | some failure =>
    obtain ⟨next, failed, notes⟩ :=
      openSession_of_refused closed (by rw [planned, uncounted]; exact granted)
    have unavailable : Link.refusal begun.ready.settings failure =
        .linkUnavailable failure.message begun.ready.settings.port :=
      if_pos (foreseen.fault granted)
    rw [unavailable] at failed
    have kept : next.plan = plan := by
      rw [notes.frame]
      exact planned
    refine Or.inl ⟨.linkUnavailable, ?_, .unavailable begun granted⟩
    unfold holdSession
    rw [attempt_bind, failed]
    exact reportUnavailable_fst foreseen kept _ _
  | none =>
    have passed : begun.ready.plan.fault? .opening (begun.ready.tally.opening + 1) = none := by
      rw [planned, uncounted]
      exact granted
    cases described : begun.ready.settings.describe with
    | error refusal =>
      have failed := openSession_of_undescribed closed passed described
      obtain ⟨blank, rfl⟩ := describe_error begun.completed (settings ▸ described)
      refine Or.inr ⟨.stopBits .blank, ?_, .stopBitsBlank begun granted blank⟩
      unfold holdSession
      rw [attempt_bind, failed]
      rfl
    | ok short =>
      exact holdSession_of_opened foreseen begun
        (openSession_of_described closed passed described) planned inactive

/-- A run whose surroundings fail only in ways that are foreseen, and whose script has no NUL
character in its path, ends with the status of the first failure: see `RunEnds`. It has no
status only when a value that it uses is a blank, when its help text is flawed, or when it
repeats a script without end: see `RunFails`. -/
theorem run_ends (foreseen : plan.Foreseen)
    (named : ∀ options path, readArguments arguments = .ok options →
      options.file = some path → '\x00' ∉ path.toList) :
    (∃ status, (run opening arguments (start plan finalArrivals batches)).1 = .ok status ∧
        RunEnds opening arguments (start plan finalArrivals batches) status.code) ∨
      ∃ failure, (run opening arguments (start plan finalArrivals batches)).1 = .error failure ∧
        RunFails opening arguments (start plan finalArrivals batches) failure := by
  rcases run_cases opening arguments (start plan finalArrivals batches) with
    ⟨begun, comes⟩ | ⟨_, early⟩
  · rw [comes]
    exact holdSession_ends foreseen begun
  · cases outcome : (run opening arguments (start plan finalArrivals batches)).1 with
    | ok status =>
      rw [outcome] at early
      cases early with
      | nothingGiven nothing => exact Or.inl ⟨_, rfl, .nothingGiven nothing⟩
      | helpWanted given wanted => exact Or.inl ⟨_, rfl, .helpWanted given wanted⟩
      | refused given refused => exact Or.inl ⟨_, rfl, .refused given refused⟩
      | unreadable accepted unread => exact Or.inl ⟨_, rfl, .unreadable accepted unread⟩
    | error failure =>
      rw [outcome] at early
      cases early with
      | unlisted failed other =>
        rw [foreseen.ports failure failed] at other
        cases other
      | helpFlawed wanted flawed => exact Or.inr ⟨_, rfl, .helpFlawed wanted flawed⟩
      | nulInPath accepted refused =>
        obtain ⟨path, given, holdsNul⟩ := scriptOf_nulInPath refused
        exact absurd holdsNul (named _ path accepted given)
      | handshakeBlank accepted loaded blank =>
        exact Or.inr ⟨_, rfl, .handshakeBlank accepted loaded blank⟩

end Run

/-- The last directive of a script is refused just after a read has failed. The sender has not
noticed that, so the directive decides. -/
theorem run_ends_by_directive :
    let arguments := ["--no-interactive", "COM3", "9600", "8", "None", "One", "None", "keys.txt"]
    let opening : Opening := fun _ => .ok [0x7E, 0x5A, 0x78]
    let plan : Plan := { duringSleep := [(3, [.failure (.transport "port is gone")])] }
    let first := start plan [] []
    plan.Foreseen ∧
      (∀ options path, readArguments arguments = .ok options → options.file = some path →
        '\x00' ∉ path.toList) ∧
      (run opening arguments first).2.listener.fault? = some (.reading "port is gone") ∧
      RunEnds opening arguments first 5 := by
  intro arguments opening plan first
  have foreseen : plan.Foreseen := by
    constructor
    · intro fault member
      cases member
    · intro failure failed
      cases failed
  have named : ∀ options path, readArguments arguments = .ok options → options.file = some path →
      '\x00' ∉ path.toList := by
    intro options path accepted given
    have file : (readArguments arguments).toOption.bind Options.file = some "keys.txt" := by
      decide +kernel
    rw [accepted] at file
    obtain rfl : path = "keys.txt" := Option.some.inj (given.symm.trans file)
    decide
  have ended : (run opening arguments first).1.toOption = some .badDirective := by decide +kernel
  have fault : (run opening arguments first).2.listener.fault? =
      some (.reading "port is gone") := by
    decide +kernel
  refine ⟨foreseen, named, fault, ?_⟩
  rcases run_ends foreseen named with ⟨status, comes, ends⟩ | ⟨failure, comes, _⟩
  · rw [comes] at ended
    cases ended
    exact ends
  · rw [comes] at ended
    cases ended

/-- With a blank handshake a run fails that nothing in its surroundings has disturbed. -/
theorem run_fails_by_blank :
    ¬∀ (opening : Opening) (arguments : List String) (plan : Plan) (finalArrivals : List Arrival)
      (batches : List (List Keystroke)), plan.Foreseen →
      (∀ options path, readArguments arguments = .ok options → options.file = some path →
        '\x00' ∉ path.toList) →
      ∀ failure, (run opening arguments (start plan finalArrivals batches)).1 = .error failure →
        failure = .unfinished := by
  intro never
  let arguments := ["--no-interactive", "COM3", "9600", "8", "None", "One", "--", "--"]
  have foreseen : ({} : Plan).Foreseen := by
    constructor
    · intro fault member
      cases member
    · intro failure failed
      cases failed
  have named : ∀ options path, readArguments arguments = .ok options → options.file = some path →
      '\x00' ∉ path.toList := by
    intro options path accepted given
    have file : (readArguments arguments).toOption.bind Options.file = none := by decide +kernel
    rw [accepted] at file
    cases given.symm.trans file
  have failed : (run (fun _ => .error .missing) arguments (start {} [] [])).1 =
      .error .blankHandshake := by rfl
  cases never (fun _ => .error .missing) arguments {} [] [] foreseen named _ failed

end KeyFeed.Command
