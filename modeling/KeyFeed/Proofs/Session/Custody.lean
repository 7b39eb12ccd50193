/-
This file says what opening and closing a session do to the port and to the listener.
Closing ends the listener before it closes the link, so nobody else can close the port
meanwhile: afterwards a port that was still held has been closed once, and one that was
dropped before has not been closed again.
-/

import KeyFeed.Proofs.Link.Closing
import KeyFeed.Proofs.Session.Phases

namespace KeyFeed

open KeyFeed.Run

open Rig (Aside Notes Keeps GoesOn Sends)

/-! ### Opening -/

namespace Link

/-- The state after a port was asked for. -/
def asked (rig : Rig) : Rig :=
  { rig with
    tally := rig.tally.bump .opening
    events := rig.events.push (.opening rig.settings) }

/-- The state after a port was opened. -/
def acquired (rig : Rig) : Rig := { asked rig with port := .held true }

theorem only_isPort_asked (rig : Rig) :
    Event.only Event.isPort (asked rig).events =
      Event.only Event.isPort rig.events ++ [.opening rig.settings] :=
  Event.only_push_of_sort rfl rig.events

/-- The failure that opening the link comes to when the port fails to open. -/
def refusal (settings : Settings) (failure : Failure) : Failure :=
  if failure.isRefusedOpening then .linkUnavailable failure.message settings.port else failure

theorem openLink_of_refused {rig : Rig} {failure : Failure} (closed : rig.port.isOpen = false)
    (planned : rig.plan.fault? .opening (rig.tally.opening + 1) = some failure) :
    ∃ final, openLink rig = (.error (refusal rig.settings failure), final) ∧
      (asked rig).Notes final := by
  have refused : reach .opening { rig with events := rig.events.push (.opening rig.settings) } =
      (.error failure, asked rig) := reach_of_planned planned
  unfold openLink
  rw [look_bind, closed]
  simp only [Bool.false_eq_true, if_false, record_bind, attempt_bind, refused]
  unfold refusal
  split
  · exact ⟨_, rfl, log_notes _ _ (asked rig)⟩
  · exact ⟨_, rfl, Std.Refl.refl (asked rig)⟩

theorem openLink_of_passed {rig : Rig} (closed : rig.port.isOpen = false)
    (passed : rig.plan.fault? .opening (rig.tally.opening + 1) = none) :
    openLink rig = logOpened (acquired rig) := by
  have granted : reach .opening { rig with events := rig.events.push (.opening rig.settings) } =
      (.ok (), asked rig) := reach_of_passed passed
  unfold openLink
  rw [look_bind, closed]
  simp only [Bool.false_eq_true, if_false, record_bind, attempt_bind, granted]
  rfl

end Link

namespace Session

/-- The state after a session was opened, with the short form of the settings in the log. -/
def opened (short : String) (rig : Rig) : Rig :=
  { Link.acquired rig with
    running := true
    listener := .listening
    events := (((Link.asked rig).events.push (.logged .info s!"Opened {short}")).push
      (.logged .debug "Echo drainer started")).push (.logged .debug "Session started") }

theorem openSession_of_refused {rig : Rig} {failure : Failure} (closed : rig.port.isOpen = false)
    (planned : rig.plan.fault? .opening (rig.tally.opening + 1) = some failure) :
    ∃ final, openSession rig = (.error (Link.refusal rig.settings failure), final) ∧
      (Link.asked rig).Notes final := by
  obtain ⟨final, failed, notes⟩ := Link.openLink_of_refused closed planned
  exact ⟨final, bind_of_error failed _, notes⟩

/-- A port whose settings have no short form is opened, and left behind. -/
theorem openSession_of_undescribed {rig : Rig} {refusal : Link.StopBitsRefusal}
    (closed : rig.port.isOpen = false)
    (passed : rig.plan.fault? .opening (rig.tally.opening + 1) = none)
    (undescribed : rig.settings.describe = .error refusal) :
    openSession rig = (.error (.stopBits refusal), Link.acquired rig) := by
  have failed : Link.logOpened (Link.acquired rig) =
      (.error (.stopBits refusal), Link.acquired rig) := by
    unfold Link.logOpened
    rw [look_bind, show (Link.acquired rig).settings.describe = .error refusal from undescribed]
    rfl
  exact bind_of_error ((Link.openLink_of_passed closed passed).trans failed) _

theorem openSession_of_described {rig : Rig} {short : String} (closed : rig.port.isOpen = false)
    (passed : rig.plan.fault? .opening (rig.tally.opening + 1) = none)
    (described : rig.settings.describe = .ok short) :
    openSession rig = (.ok (), opened short rig) := by
  have logged : Link.logOpened (Link.acquired rig) =
      (.ok (), { Link.acquired rig with
        events := (Link.asked rig).events.push (.logged .info s!"Opened {short}") }) := by
    unfold Link.logOpened
    rw [look_bind, show (Link.acquired rig).settings.describe = .ok short from described]
    rfl
  exact bind_of_ok ((Link.openLink_of_passed closed passed).trans logged) _

/-- A session that is opened was granted its port, which has a short form. -/
theorem openSession_ok {rig next : Rig} (closed : rig.port.isOpen = false)
    (succeeded : openSession rig = (.ok (), next)) :
    rig.plan.fault? .opening (rig.tally.opening + 1) = none ∧
      ∃ short, next = opened short rig := by
  cases granted : rig.plan.fault? .opening (rig.tally.opening + 1) with
  | some failure =>
    obtain ⟨final, failed, _⟩ := openSession_of_refused closed granted
    rw [failed] at succeeded
    cases succeeded
  | none =>
    cases described : rig.settings.describe with
    | error refusal =>
      rw [openSession_of_undescribed closed granted described] at succeeded
      cases succeeded
    | ok short =>
      rw [openSession_of_described closed granted described] at succeeded
      cases succeeded
      exact ⟨rfl, short, rfl⟩

theorem opened_events (short : String) (rig : Rig) :
    (opened short rig).events.toList =
      rig.events.toList ++ [.opening rig.settings, .logged .info s!"Opened {short}",
        .logged .debug "Echo drainer started", .logged .debug "Session started"] := by
  simp [opened, Link.asked]

end Session

/-! ### Waiting for the listener -/

namespace Echo

/-- When the session is to end, so does the listener before it reads again. -/
theorem readOn_ends {rig : Rig} (ending : rig.running = false) :
    (readOn rig).2.listener = .ended none := by
  unfold readOn
  rw [look_bind, ending]
  rfl

/-- When the session is to end, so does the listener with its next reading. -/
theorem advance_ends {rig : Rig} (arrival : Arrival) (ending : rig.running = false) :
    (advance arrival rig).2.listener ≠ .listening := by
  have still : (take arrival rig).2.running = false :=
    (take_aside arrival rig).running_eq_false ending
  have ends (activity : Run Unit)
      (leads : Leads (fun rig next => rig.running = false → next.listener ≠ .listening) activity) :
      (activity (take arrival rig).2).2.listener ≠ .listening := leads _ still
  have reads : Leads (fun rig next => rig.running = false → next.listener ≠ .listening) readOn :=
    fun rig ending => by rw [readOn_ends ending]; exact nofun
  unfold advance
  rw [attempt_bind]
  refine ends _ ?_
  split
  · exact reads
  · exact fun _ _ => nofun
  · split
    · refine Leads.look fun rig stopped => ?_
      rw [stopped]
      exact reads { rig with events := rig.events.push (.backedOff pause) } stopped
    · exact fun _ _ => nofun

theorem join_ends {rig : Rig} (ending : rig.running = false) :
    (join rig).2.listener ≠ .listening := by
  unfold join
  rw [look_bind]
  split
  · cases rig.finalArrivals with
    | nil => exact advance_ends _ ending
    | cons arrival rest =>
      have endingToo : { rig with finalArrivals := rest }.running = false := ending
      exact advance_ends _ endingToo
  · rename_i deaf
    exact deaf

/-- Waiting for the listener takes one arrival at most, and leaves everything else to it. -/
theorem join_aside (rig : Rig) :
    { rig with finalArrivals := (join rig).2.finalArrivals }.Aside (join rig).2 := by
  have unfinished : ∀ (next : Rig) (arrival : Arrival),
      { next with finalArrivals := (advance arrival next).2.finalArrivals }.Aside
        (advance arrival next).2 := by
    intro next arrival
    have aside := advance_aside arrival next
    have same : (advance arrival next).2.finalArrivals = next.finalArrivals := by
      rw [aside.frame]
    rw [same]
    exact aside
  unfold join
  rw [look_bind]
  split
  · cases rig.finalArrivals with
    | nil => exact unfinished rig _
    | cons arrival rest => exact unfinished { rig with finalArrivals := rest } arrival
  · exact .refl rig

theorem join_neverFails : NeverFails join := by
  refine NeverFails.look fun rig => ?_
  split
  · cases rig.finalArrivals with
    | nil => exact advance_neverFails _
    | cons arrival rest => exact NeverFails.bind (fun _ => rfl) (advance_neverFails _)
  · exact fun _ => rfl

end Echo

/-! ### Closing -/

namespace Link

/-- The state after a held port was closed and forgotten. -/
def released (rig : Rig) : Rig :=
  { rig with
    port := .none
    tally := rig.tally.bump .close
    events := rig.events.push .portClosed }

/-- Without a listener a held port is closed once, whatever the port does. -/
theorem closeLink_of_held {rig : Rig} (deaf : rig.listener ≠ .listening)
    (held : rig.port.isHeld = true) : (released rig).Notes (closeLink rig).2 := by
  have quietly : { rig with
      tally := rig.tally.bump .close
      events := rig.events.push .portClosed }.Notes (closeQuietly rig).2 := by
    unfold closeQuietly
    rw [attempt_bind, closePort_of_deaf deaf, shutPort_apply, reach_snd]
    cases (reach .close { rig with events := rig.events.push .portClosed }).1 with
    | ok result => exact Std.Refl.refl _
    | error failure => exact Leads.ite (log_notes _ _) (.fail _) _
  have forgotten : (released rig).Notes { (closeQuietly rig).2 with port := .none } :=
    ⟨congrArg (fun rig => { rig with port := .none }) quietly.frame, quietly.events⟩
  have ensured := ensuring_snd closeQuietly (change fun rig => { rig with port := .none }) rig
  unfold closeLink
  rw [look_bind, if_pos held]
  rcases outcome : ensuring closeQuietly (change fun rig => { rig with port := .none }) rig
    with ⟨failure | result, next⟩
  · rw [outcome] at ensured
    rw [bind_of_error outcome, show next = _ from ensured]
    exact forgotten
  · rw [outcome] at ensured
    rw [bind_of_ok outcome, show next = _ from ensured]
    exact IsTrans.trans _ _ _ forgotten (log_notes _ _ _)

/-- The link fails to close only when its port refuses to, for a reason other than the
transport. -/
theorem closeLink_error {rig : Rig} {failure : Failure}
    (failed : (closeLink rig).1 = .error failure) :
    rig.port.isHeld = true ∧ failure.isTransport = false ∧
      rig.plan.fault? .close (rig.tally.close + 1) = some failure := by
  cases held : rig.port.isHeld with
  | false =>
    rw [closeLink_of_dropped held] at failed
    cases failed
  | true =>
    rw [closeLink_fst held, closeQuietly_fst, reach_fst] at failed
    cases planned : rig.plan.fault? .close (rig.tally.get .close + 1) with
    | none =>
      rw [planned] at failed
      cases failed
    | some other =>
      rw [planned] at failed
      dsimp only at failed
      by_cases transport : other.isTransport = true
      · rw [if_pos transport] at failed
        cases failed
      · rw [if_neg transport] at failed
        cases failed
        exact ⟨rfl, by simpa using transport, planned⟩

/-- The state after a link was closed to which nobody listens. -/
def shut (rig : Rig) : Rig := if rig.port.isHeld then released rig else rig

theorem closeLink_shut {rig : Rig} (deaf : rig.listener ≠ .listening) :
    (shut rig).Notes (closeLink rig).2 := by
  unfold shut
  cases held : rig.port.isHeld with
  | true => exact closeLink_of_held deaf held
  | false =>
    rw [closeLink_of_dropped held]
    exact Std.Refl.refl rig

theorem shut_listener (rig : Rig) : (shut rig).listener = rig.listener := by
  unfold shut
  split <;> rfl

theorem shut_port (rig : Rig) : (shut rig).port = .none := by
  unfold shut
  split
  · rfl
  · rename_i dropped
    exact HeldPort.eq_none_of_not_isHeld dropped

theorem shut_events (rig : Rig) :
    (shut rig).events.toList =
      rig.events.toList ++ (if rig.port.isHeld then [.portClosed] else []) := by
  unfold shut
  cases rig.port.isHeld with
  | true => exact Array.toList_push
  | false => exact (List.append_nil _).symm

end Link

namespace Session

/-- Closing a session waits for the listener, and then closes the link, to which nobody listens
any more. -/
theorem closeSession_shut (rig : Rig) :
    (Link.shut (Echo.join { rig with running := false }).2).Notes (closeSession rig).2 := by
  have joined := Echo.join_neverFails.apply { rig with running := false }
  have ending : { rig with running := false }.running = false := rfl
  have shut := Link.closeLink_shut (Echo.join_ends ending)
  unfold closeSession
  rw [change_bind, bind_of_ok joined]
  rcases outcome : Link.closeLink (Echo.join { rig with running := false }).2
    with ⟨failure | result, next⟩
  · rw [outcome] at shut
    rw [bind_of_error outcome]
    exact shut
  · rw [outcome] at shut
    rw [bind_of_ok outcome]
    exact IsTrans.trans _ _ _ shut (log_notes _ _ next)

theorem closeSession_listener (rig : Rig) :
    (closeSession rig).2.listener = (Echo.join { rig with running := false }).2.listener := by
  rw [(closeSession_shut rig).frame]
  exact Link.shut_listener _

/-- Closing a session comes to what closing its link comes to. -/
theorem closeSession_fst (rig : Rig) :
    (closeSession rig).1 = (Link.closeLink (Echo.join { rig with running := false }).2).1 := by
  have joined := Echo.join_neverFails.apply { rig with running := false }
  unfold closeSession
  rw [change_bind, bind_of_ok joined]
  rcases outcome : Link.closeLink (Echo.join { rig with running := false }).2
    with ⟨failure | _, next⟩
  · rw [bind_of_error outcome]
  · rw [bind_of_ok outcome]
    rfl

/-- Closing a session fails only when the port refuses to close, for a reason other than the
transport. -/
theorem closeSession_error {rig : Rig} {failure : Failure}
    (failed : (closeSession rig).1 = .error failure) :
    let waited := (Echo.join { rig with running := false }).2
    waited.port.isHeld = true ∧ failure.isTransport = false ∧
      waited.plan.fault? .close (waited.tally.close + 1) = some failure := by
  rw [closeSession_fst] at failed
  exact Link.closeLink_error failed

/-- Closing a session calls the port to close, and shows texts. -/
theorem closeSession_tally {point : Point} (notClose : point ≠ .close) (notSink : point ≠ .sink)
    (rig : Rig) : (closeSession rig).2.tally.get point = rig.tally.get point := by
  rw [(closeSession_shut rig).tally]
  refine Eq.trans ?_ ((Echo.join_aside { rig with running := false }).tally point notClose notSink)
  unfold Link.shut
  split
  · exact Tally.get_bump_of_ne _ notClose
  · rfl

/-- Closing a session ends the listener, and a port that the link still holds is closed exactly
once: by the listener on the way, or else with the link. -/
theorem closeSession_closes (rig : Rig) :
    (closeSession rig).2.listener ≠ .listening ∧ (closeSession rig).2.port = .none ∧
      Event.only Event.isPort (closeSession rig).2.events =
        Event.only Event.isPort rig.events ++ (if rig.port.isHeld then [.portClosed] else []) ∧
      Event.only Event.isConsole (closeSession rig).2.events =
        Event.only Event.isConsole rig.events := by
  have aside := Echo.join_aside { rig with running := false }
  have ending : { rig with running := false }.running = false := rfl
  have notes := closeSession_shut rig
  have grown := Link.shut_events (Echo.join { rig with running := false }).2
  refine ⟨?_, ?_, ?_, ?_⟩
  · rw [closeSession_listener]
    exact Echo.join_ends ending
  · rw [notes.frame]
    exact Link.shut_port _
  · rw [notes.keyed.only_of_foreign fun event => Event.isPort_of_isText, Event.only_append grown]
    rcases aside.port with ⟨same, quiet⟩ | ⟨held, dropped, closed⟩
    · rw [quiet, same]
      cases rig.port.isHeld <;> rfl
    · have holds : rig.port.isHeld = true := held
      rw [closed, dropped, holds]
      exact List.append_nil _
  · rw [notes.keyed.only_of_foreign fun event => Event.isConsole_of_isText,
      Event.only_append grown, aside.only_of_foreign fun event => Event.isConsole_of_isAside]
    cases (Echo.join { rig with running := false }).2.port.isHeld <;> exact List.append_nil _

/-- A session that is opened, used and closed has closed the port that it was opened with, and no
other one, once. -/
theorem closeSession_ports {rig middle : Rig} {short : String}
    (keeps : (opened short rig).Keeps middle) :
    Event.only Event.isPort (closeSession middle).2.events =
      Event.only Event.isPort rig.events ++ [.opening rig.settings, .portClosed] := by
  obtain ⟨_, _, ports, _⟩ := closeSession_closes middle
  have opensOnce : Event.only Event.isPort (opened short rig).events =
      Event.only Event.isPort rig.events ++ [.opening rig.settings] :=
    Event.only_append (opened_events short rig)
  rw [ports]
  rcases keeps.port with ⟨samePort, same⟩ | ⟨_, dropped, closedOnce⟩
  · rw [same, samePort, opensOnce, List.append_assoc]
    rfl
  · rw [closedOnce, dropped, opensOnce, List.append_assoc, List.append_assoc]
    rfl

/-- A session that is opened for one script is closed after it, whatever sending the script and
closing come to: nobody listens any more, and the port that was asked for is closed exactly
once. -/
theorem sendOnce_closes (sender : Sender) (text : List Char) {rig next : Rig}
    (unopened : rig.port.isOpen = false) (opens : openSession rig = (.ok (), next)) :
    let final := (sendOnce sender text rig).2
    final.listener ≠ .listening ∧ final.port = .none ∧
      Event.only Event.isPort final.events =
        Event.only Event.isPort rig.events ++ [.opening rig.settings, .portClosed] := by
  obtain ⟨_, short, rfl⟩ := openSession_ok unopened opens
  have sends := sender.sendScript_sends text false (opened short rig)
  have comes : (sendOnce sender text rig).2 =
      (closeSession (sender.sendScript .output text false (opened short rig)).2).2 := by
    unfold sendOnce
    rw [bind_of_ok opens, ensuring_snd, sender.sendScript_once, ← sender.sendScript_once .output]
  obtain ⟨silenced, released, _, _⟩ :=
    closeSession_closes (sender.sendScript .output text false (opened short rig)).2
  rw [comes]
  exact ⟨silenced, released, closeSession_ports sends.toKeeps⟩

end Session

end KeyFeed
