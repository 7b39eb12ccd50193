/-
This file says what each phase of a session does: sending a script and forwarding keys
go on, and the interactive phase makes the calls to the console of which every set-up that
succeeds is undone once, however the forwarding ends.
-/

import KeyFeed.Proofs.Rig.GoesOn
import KeyFeed.Proofs.Typing.Steps
import KeyFeed.Session

namespace KeyFeed

open KeyFeed.Run

open Rig (Notes Keeps Keyed GoesOn Sends)

/-! ### Sending a script -/

/-- What holds of the count of passes, of records and of closing the link holds of beginning another
pass. -/
theorem PassNotice.nextPass_leads {relation : Rig → Rig → Prop} [IsPreorder Rig relation]
    (counts : Leads relation (change fun rig => { rig with pass := rig.pass + 1 }))
    (records : ∀ event : Event, event.isWriter = false → Leads relation (record event))
    (closes : Leads relation Link.closeLink) (notice : PassNotice) :
    Leads relation notice.nextPass := by
  refine counts.bind fun _ => Leads.look fun rig => ?_
  refine Leads.bind (records (.logged _ _) rfl) (fun _ => ?_) rig
  cases notice with
  | silent => exact .pure ()
  | observer stopAt closeAt =>
    exact (records (.repeated _) rfl).bind fun _ => .ite (.fail _) (.ite closes (.pure ()))
  | output => exact Leads.look fun rig => records (.printed _) rfl rig

namespace Step

/-- The step tells no observer of the passes, who could close the link. -/
def isUnobserved : Step → Bool
  | again (.observer _ _) => false
  | _ => true

/-- Telling of another pass shows texts. -/
theorem nextPass_notes {notice : PassNotice} (unobserved : (again notice).isUnobserved = true)
    (rig : Rig) : { rig with pass := rig.pass + 1 }.Notes (notice.nextPass rig).2 := by
  unfold PassNotice.nextPass
  rw [change_bind, look_bind]
  refine (log_notes _ _).bind (fun _ => ?_) _
  cases notice with
  | silent => exact .pure ()
  | observer stopAt closeAt => cases unobserved
  | output => exact Leads.look fun rig => record_notes rfl rig

theorem perform_sends {step : Step} (unobserved : step.isUnobserved = true) :
    Leads Sends step.perform := by
  cases step with
  | write bytes => exact Link.write_sends bytes
  | sleep duration => exact Clock.sleep_sends duration
  | note message => exact log_sends _ _
  | again notice =>
    intro rig
    have counted : rig.Sends { rig with pass := rig.pass + 1 } :=
      { (Std.Refl.refl rig : rig.Sends rig) with }
    exact IsTrans.trans _ _ _ counted (Sends.of_notes (nextPass_notes unobserved rig))
  | stop failure => exact .fail failure

theorem performAll_sends {steps : List Step}
    (unobserved : ∀ step ∈ steps, step.isUnobserved = true) : Leads Sends (performAll steps) := by
  induction steps with
  | nil => exact .pure ()
  | cons step rest inductionHypothesis =>
    refine (perform_sends (unobserved step List.mem_cons_self)).bind fun _ => ?_
    exact inductionHypothesis fun other member => unobserved other (.tail step member)

end Step

namespace Sender

theorem isUnobserved_of_mem_textSteps {sender : Sender} {text : List Char} {step : Step}
    (member : step ∈ sender.textSteps text) : step.isUnobserved = true := by
  cases step with
  | again notice => exact absurd member (sender.again_not_mem_textSteps text notice)
  | _ => rfl

theorem isUnobserved_of_mem_passSteps {sender : Sender} {text : List Char} {bound : Nat}
    {step : Step} (member : step ∈ sender.passSteps .output text bound) :
    step.isUnobserved = true := by
  induction bound with
  | zero =>
    rw [List.mem_singleton.mp member]
    rfl
  | succ bound inductionHypothesis =>
    rcases List.mem_append.mp member with inText | later
    · exact isUnobserved_of_mem_textSteps inText
    · rcases List.mem_cons.mp later with rfl | inPasses
      · rfl
      · exact inductionHypothesis inPasses

theorem isUnobserved_scriptSteps (sender : Sender) (bound : Nat) (text : List Char)
    (again : Bool) :
    ∀ step ∈ sender.scriptSteps bound .output text again, step.isUnobserved = true := by
  intro step member
  unfold scriptSteps at member
  split at member
  · exact isUnobserved_of_mem_passSteps member
  · exact isUnobserved_of_mem_textSteps member

theorem ready_notes (text : List Char) (again : Bool) (rig : Rig) :
    { rig with pass := 1 }.Notes (ready text again rig) := by
  unfold ready
  split
  · exact Notes.push rfl { rig with pass := 1 }
  · exact ⟨rfl, [], by simp, by simp⟩

theorem sendScript_sends (sender : Sender) (text : List Char) (again : Bool) :
    Leads Sends (sender.sendScript .output text again) := by
  intro rig
  have counted : rig.Sends { rig with pass := 1 } :=
    { (Std.Refl.refl rig : rig.Sends rig) with }
  have begun := IsTrans.trans _ _ _ counted (Sends.of_notes (ready_notes text again rig))
  rw [sendScript_apply]
  exact IsTrans.trans _ _ _ begun
    (Step.performAll_sends (sender.isUnobserved_scriptSteps _ text again) _)

theorem sendKey_goesOn (sender : Sender) (key : Key) : Leads GoesOn (sender.sendKey key) := by
  have encoded : Leads GoesOn (sender.encode key) := .resume _
  exact encoded.bind fun bytes => (Link.write_sends bytes).mono fun _ _ => Sends.toGoesOn

end Sender

/-! ### Forwarding keys -/

namespace Session

/-- What holds of keys that come and go, of a pause between two looks for a key, of a write and of
the end of the session holds of forwarding keys. -/
theorem forward_leads {relation : Rig → Rig → Prop} [IsPreorder Rig relation] {sender : Sender}
    (keyed : ∀ rig next : Rig, rig.Keyed next → relation rig next)
    (sleeps : Leads relation (Clock.sleep sender.pacing.perPoll))
    (writes : ∀ bytes, Leads relation (Link.write bytes))
    (ends : Leads relation (change fun rig => { rig with running := false })) (bound : Nat) :
    Leads relation (forward sender bound) := by
  induction bound with
  | zero => exact .fail _
  | succ bound inductionHypothesis =>
    have alive : Leads relation isLive := Leads.look fun rig => Leads.pure _ rig
    have sends (key : Key) : Leads relation (sender.sendKey key) :=
      Leads.bind (.resume _) fun bytes => writes bytes
    refine alive.bind fun live => .ite ?_ (.pure ())
    refine (Console.readKey_keyed.mono keyed).bind fun taken => ?_
    split
    · exact sleeps.bind fun _ => inductionHypothesis
    · exact .ite (((Console.log_keyed _ _).mono keyed).bind fun _ => ends)
        ((sends _).bind fun _ => inductionHypothesis)

theorem forward_goesOn (sender : Sender) (bound : Nat) : Leads GoesOn (forward sender bound) :=
  forward_leads (fun _ _ => GoesOn.of_keyed)
    ((Clock.sleep_sends _).mono fun _ _ => Sends.toGoesOn)
    (fun bytes => (Link.write_sends bytes).mono fun _ _ => Sends.toGoesOn)
    (fun rig => { (Std.Refl.refl rig : rig.GoesOn rig) with }) bound

end Session

/-! ### The console -/

theorem reach_keeps (point : Point) : Leads Keeps (reach point) := by
  intro rig
  rw [reach_snd]
  exact { (Std.Refl.refl rig : rig.Keeps rig) with }

theorem log_keeps (level : Level) (message : String) : Leads Keeps (log level message) :=
  fun rig => Keeps.push rfl rig

namespace Console

theorem changeKeyboard_keeps (update : Keyboard → Keyboard) :
    Leads Keeps (changeKeyboard update) :=
  fun rig => { (Std.Refl.refl rig : rig.Keeps rig) with }

/-- What holds of the calls to the console, of the log and of a reader that begins holds of making
the console ready. -/
theorem start_leads {relation : Rig → Rig → Prop} [IsPreorder Rig relation]
    (records : ∀ event : Event, event.isConsole = true → Leads relation (record event))
    (creates : Leads relation (reach .consoleCreation))
    (prepares : Leads relation (reach .consoleSetUp))
    (logs : ∀ level message, Leads relation (log level message))
    (reads : Leads relation
      (changeKeyboard fun keyboard => { keyboard with active := true, reading := true })) :
    Leads relation start := by
  have sets : Leads relation setUp :=
    (records .consoleCreated rfl).bind fun _ => creates.bind fun _ =>
      (records .consoleSetUp rfl).bind fun _ => prepares
  refine Leads.look fun rig => ?_
  split
  · exact Leads.pure () rig
  · refine Leads.bind sets.attempt (fun outcome => ?_) rig
    split
    · exact (logs _ _).bind fun _ => reads
    · exact .ite ((logs _ _).bind fun _ => .fail _) (.fail _)

theorem start_keeps : Leads Keeps start := by
  refine start_leads (fun event ofConsole rig => Keeps.push ?_ rig) (reach_keeps _) (reach_keeps _)
    log_keeps (changeKeyboard_keeps _)
  cases event <;> cases ofConsole <;> rfl

/-- The state when the console gets its own settings back. -/
def restored (rig : Rig) : Rig :=
  { rig with
    keyboard := { rig.keyboard with active := false }
    tally := rig.tally.bump .consoleRestoring
    events := rig.events.push .consoleRestored }

theorem restored_keeps (rig : Rig) : rig.Keeps (restored rig) :=
  { Keeps.push (rfl : Event.consoleRestored.isPort = false) rig with }

/-- Restoring a console that is in use is called for once. -/
theorem stop_of_active {rig : Rig} (active : rig.keyboard.active = true) :
    (restored rig).Keyed (stop rig).2 := by
  have ends (reading : Bool) : Leads Keyed (if reading then endReader else pure ()) :=
    .ite endReader_keyed (.pure ())
  unfold stop
  rw [look_bind, if_pos active]
  simp only [changeKeyboard, change_bind, record_bind, attempt_bind, reach_snd]
  generalize (reach .consoleRestoring _).1 = outcome
  cases outcome with
  | ok result => exact ends rig.keyboard.reading _
  | error failure =>
    exact Leads.ite ((log_keyed _ _).bind fun _ => ends rig.keyboard.reading) (.fail _) _

theorem stop_of_inactive {rig : Rig} (inactive : rig.keyboard.active = false) :
    stop rig = (.ok (), rig) := by
  unfold stop
  rw [look_bind, inactive]
  rfl

/-- Restoring the console fails only by an interruption. -/
theorem stop_of_restorable {rig : Rig}
    (restorable : ∀ failure,
      rig.plan.fault? .consoleRestoring (rig.tally.consoleRestoring + 1) = some failure →
        failure.isOrdinary = true) : (stop rig).1 = .ok () := by
  cases active : rig.keyboard.active with
  | false => rw [stop_of_inactive active]
  | true =>
    let asked : Rig :=
      { rig with
        keyboard := { rig.keyboard with active := false }
        events := rig.events.push .consoleRestored }
    unfold stop
    rw [look_bind, if_pos active]
    simp only [changeKeyboard, change_bind, record_bind, attempt_bind]
    cases planned : rig.plan.fault? .consoleRestoring (rig.tally.consoleRestoring + 1) with
    | none =>
      have passes : reach .consoleRestoring asked = (.ok (), _) := reach_of_passed planned
      rw [passes]
      dsimp only
      split <;> rfl
    | some failure =>
      have fails : reach .consoleRestoring asked = (.error failure, _) := reach_of_planned planned
      rw [fails]
      dsimp only
      rw [if_pos (restorable failure planned), log_bind]
      split <;> rfl

/-- What holds when the console gets its own settings back, and of keys that come and go, holds of
restoring the console. -/
theorem stop_leads {relation : Rig → Rig → Prop} [IsPreorder Rig relation]
    (restores : ∀ rig, relation rig (restored rig))
    (keyed : ∀ rig next : Rig, rig.Keyed next → relation rig next) : Leads relation stop := by
  intro rig
  cases active : rig.keyboard.active with
  | true => exact IsTrans.trans _ _ _ (restores rig) (keyed _ _ (stop_of_active active))
  | false =>
    rw [stop_of_inactive active]
    exact Std.Refl.refl rig

theorem stop_keeps : Leads Keeps stop :=
  stop_leads restored_keeps fun _ _ keyed => (GoesOn.of_keyed keyed).toKeeps

/-- The state after a console was asked for. -/
def created (rig : Rig) : Rig :=
  { rig with tally := rig.tally.bump .consoleCreation, events := rig.events.push .consoleCreated }

/-- The state after the console was to be made ready. -/
def prepared (rig : Rig) : Rig :=
  { rig with tally := rig.tally.bump .consoleSetUp, events := rig.events.push .consoleSetUp }

/-- The state after the reader of the console was started. -/
def reading (rig : Rig) : Rig :=
  { rig with
    events := rig.events.push (.logged .debug "Keyboard reader started")
    keyboard := { rig.keyboard with active := true, reading := true } }

theorem setUp_of_uncreated {rig : Rig} {failure : Failure}
    (planned : rig.plan.fault? .consoleCreation (rig.tally.consoleCreation + 1) = some failure) :
    setUp rig = (.error failure, created rig) := by
  have failed : reach .consoleCreation { rig with events := rig.events.push .consoleCreated } =
      (.error failure, created rig) := reach_of_planned planned
  unfold setUp
  rw [record_bind, bind_of_error failed]

theorem setUp_of_created {rig : Rig}
    (passed : rig.plan.fault? .consoleCreation (rig.tally.consoleCreation + 1) = none) :
    setUp rig =
      reach .consoleSetUp
        { created rig with events := (created rig).events.push .consoleSetUp } := by
  have begun : reach .consoleCreation { rig with events := rig.events.push .consoleCreated } =
      (.ok (), created rig) := reach_of_passed passed
  unfold setUp
  rw [record_bind, bind_of_ok begun, record_bind]

theorem start_of_ok {rig next : Rig} (inactive : rig.keyboard.active = false)
    (succeeded : setUp rig = (.ok (), next)) : start rig = (.ok (), reading next) := by
  unfold start
  rw [look_bind, inactive]
  simp only [Bool.false_eq_true, if_false, attempt_bind, succeeded]
  rfl

theorem start_of_error {rig next : Rig} {failure : Failure} (inactive : rig.keyboard.active = false)
    (failed : setUp rig = (.error failure, next)) :
    ∃ reason final, start rig = (.error reason, final) ∧ next.Keyed final := by
  unfold start
  rw [look_bind, inactive]
  simp only [Bool.false_eq_true, if_false, attempt_bind, failed]
  split
  · exact ⟨_, _, rfl, log_keyed _ _ next⟩
  · exact ⟨_, _, rfl, Std.Refl.refl next⟩

/-- The calls to the console that the interactive phase makes. -/
def calls (rig : Rig) : List Event :=
  match rig.plan.fault? .consoleCreation (rig.tally.consoleCreation + 1) with
  | some _ => [.consoleCreated]
  | none =>
    match rig.plan.fault? .consoleSetUp (rig.tally.consoleSetUp + 1) with
    | some _ => [.consoleCreated, .consoleSetUp]
    | none => [.consoleCreated, .consoleSetUp, .consoleRestored]

theorem calls_of_goesOn {rig next : Rig} (goesOn : rig.GoesOn next) :
    calls next = calls rig := by
  have creation : next.tally.consoleCreation = rig.tally.consoleCreation :=
    goesOn.once .consoleCreation rfl
  have setUp : next.tally.consoleSetUp = rig.tally.consoleSetUp := goesOn.once .consoleSetUp rfl
  unfold calls
  rw [goesOn.plan, creation, setUp]

end Console

namespace Session

theorem interact_keeps (sender : Sender) : Leads Keeps (interact sender) := by
  refine Console.start_keeps.bind fun _ => Leads.look fun rig => ?_
  have forwarded := (forward_goesOn sender (forwardBound rig)).mono fun _ _ => GoesOn.toKeeps
  exact forwarded.ensuring Console.stop_keeps rig

/-- A console that is made ready in the interactive phase is restored, however the phase ends. -/
theorem interact_calls (sender : Sender) {rig : Rig} (inactive : rig.keyboard.active = false) :
    Event.only Event.isConsole (interact sender rig).2.events =
      Event.only Event.isConsole rig.events ++ Console.calls rig := by
  have creates : Event.only Event.isConsole (Console.created rig).events =
      Event.only Event.isConsole rig.events ++ [.consoleCreated] :=
    Event.only_push_of_sort rfl rig.events
  have prepares : Event.only Event.isConsole (Console.prepared (Console.created rig)).events =
      Event.only Event.isConsole rig.events ++ [.consoleCreated, .consoleSetUp] := by
    refine (Event.only_push_of_sort rfl _).trans ?_
    rw [creates, List.append_assoc]
    rfl
  unfold interact Console.calls
  cases creation : rig.plan.fault? .consoleCreation (rig.tally.consoleCreation + 1) with
  | some failure =>
    obtain ⟨reason, final, failed, keyed⟩ :=
      Console.start_of_error inactive (Console.setUp_of_uncreated creation)
    rw [bind_of_error failed]
    exact (GoesOn.of_keyed keyed).only_isConsole.trans creates
  | none =>
    have begun := Console.setUp_of_created creation
    cases setUp : rig.plan.fault? .consoleSetUp (rig.tally.consoleSetUp + 1) with
    | some failure =>
      have failedSetUp : Console.setUp rig =
          (.error failure, Console.prepared (Console.created rig)) :=
        begun.trans (reach_of_planned setUp)
      obtain ⟨reason, final, failed, keyed⟩ := Console.start_of_error inactive failedSetUp
      rw [bind_of_error failed]
      exact (GoesOn.of_keyed keyed).only_isConsole.trans prepares
    | none =>
      have succeeded : Console.setUp rig = (.ok (), Console.prepared (Console.created rig)) :=
        begun.trans (reach_of_passed setUp)
      rw [bind_of_ok (Console.start_of_ok inactive succeeded), look_bind]
      have forwarded := forward_goesOn sender (forwardBound
        (Console.reading (Console.prepared (Console.created rig))))
        (Console.reading (Console.prepared (Console.created rig)))
      have stopped := GoesOn.of_keyed (Console.stop_of_active forwarded.active)
      have restores (rig : Rig) : Event.only Event.isConsole (Console.restored rig).events =
          Event.only Event.isConsole rig.events ++ [.consoleRestored] :=
        Event.only_push_of_sort rfl _
      have reads : Event.only Event.isConsole
          (Console.reading (Console.prepared (Console.created rig))).events =
            Event.only Event.isConsole rig.events ++ [.consoleCreated, .consoleSetUp] :=
        (Event.only_push_of_not_sort rfl _).trans prepares
      rw [ensuring_snd, stopped.only_isConsole, restores, forwarded.only_isConsole, reads,
        List.append_assoc]
      rfl

end Session

end KeyFeed
