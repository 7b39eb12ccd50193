/-
This file says what the parts of a session leave of it. Nothing that is done with an open
session sets its flag, brings back a listener, or gives the link another port. On top of
that a session is tended: it goes on only with a port that the listener reads. Whoever
takes the port away, be it the sender after a fault or somebody who closes the link, does
it while the listener reads, and the read that fails by it ends the session.
-/

import KeyFeed.Proofs.Echo.Tending
import KeyFeed.Proofs.Session.Custody

namespace KeyFeed

open KeyFeed.Run

open Rig (Keyed Notes)

/-- What is not undone while a session is open. -/
structure Rig.Recedes (rig next : Rig) : Prop where
  plan : next.plan = rig.plan
  /-- The link gets no other port. -/
  port : next.port = rig.port ∨ next.port = .none
  /-- The flag of the session is never set. -/
  running : next.running = true → rig.running = true
  /-- No listener begins to read. -/
  listener : next.listener = .listening → rig.listener = .listening

/-- What holds of every part of a session: nothing is undone, and where nothing interrupts the
listener the session stays tended. -/
structure Rig.Abides (rig next : Rig) : Prop extends rig.Recedes next where
  tended : rig.plan.Gentle → rig.Tended → next.Tended

namespace Rig

variable {rig next : Rig}

instance : IsPreorder Rig Rig.Recedes where
  refl _ := ⟨rfl, Or.inl rfl, id, id⟩
  trans _ _ _ earlier later := by
    refine ⟨later.plan.trans earlier.plan, ?_, fun still => earlier.running (later.running still),
      fun still => earlier.listener (later.listener still)⟩
    rcases later.port with same | dropped
    · rw [same]
      exact earlier.port
    · exact Or.inr dropped

instance : IsPreorder Rig Rig.Abides where
  refl rig := ⟨Std.Refl.refl rig, fun _ => id⟩
  trans _ _ _ earlier later := by
    refine ⟨IsTrans.trans _ _ _ earlier.toRecedes later.toRecedes, fun gentle tended => ?_⟩
    exact later.tended (earlier.plan ▸ gentle) (earlier.tended gentle tended)

theorem Recedes.running_eq_false (recedes : rig.Recedes next) (ending : rig.running = false) :
    next.running = false := by
  refine Bool.eq_false_iff.mpr fun still => ?_
  rw [recedes.running still] at ending
  cases ending

theorem Recedes.of_aside (aside : rig.Aside next) : rig.Recedes next where
  plan := aside.plan
  port := aside.port.imp And.left fun dropped => dropped.2.1
  running := aside.running
  listener := aside.listener

/-- A session that is not to go on is tended by nobody. -/
theorem Tended.of_ended (ended : rig.running = false) : rig.Tended := by
  intro goesOn
  rw [ended] at goesOn
  cases goesOn

namespace Abides

theorem of_ended (recedes : rig.Recedes next) (ended : next.running = false) : rig.Abides next :=
  ⟨recedes, fun _ _ => .of_ended ended⟩

/-- Nothing is done that a session or its link would notice. -/
theorem of_idle (plan : next.plan = rig.plan) (port : next.port = rig.port)
    (running : next.running = rig.running) (listener : next.listener = rig.listener) :
    rig.Abides next where
  plan := plan
  port := Or.inl port
  running := by rw [running]; exact id
  listener := by rw [listener]; exact id
  tended _ tended := by
    unfold Rig.Tended at tended ⊢
    rwa [port, running, listener]

theorem of_keyed (keyed : rig.Keyed next) : rig.Abides next := by
  rw [keyed.frame]
  exact of_idle rfl rfl rfl rfl

end Abides

end Rig

open Rig (Recedes Abides)

theorem record_abides (event : Event) : Leads Abides (record event) :=
  fun _ => .of_idle rfl rfl rfl rfl

theorem log_abides (level : Level) (message : String) : Leads Abides (log level message) :=
  record_abides _

theorem reach_abides (point : Point) : Leads Abides (reach point) := by
  intro rig
  rw [reach_snd]
  exact .of_idle rfl rfl rfl rfl

/-! ### The listener -/

namespace Echo

theorem deliver_abides {arrival : Arrival} (undisturbed : arrival.isInterruption = false) :
    Leads Abides (deliver arrival) := by
  refine Leads.look fun rig => ?_
  split
  · rename_i listening
    exact ⟨.of_aside (advance_aside arrival rig),
      fun gentle _ => advance_tended gentle undisturbed listening⟩
  · exact Std.Refl.refl rig

theorem deliverAll_abides {arrivals : List Arrival}
    (undisturbed : ∀ arrival ∈ arrivals, arrival.isInterruption = false) :
    Leads Abides (deliverAll arrivals) := by
  induction arrivals with
  | nil => exact .pure ()
  | cons arrival rest inductionHypothesis =>
    obtain ⟨first, others⟩ := List.forall_mem_cons.mp undisturbed
    exact (deliver_abides first).bind fun _ => inductionHypothesis others

end Echo

/-! ### The sender -/

namespace Link

/-- The port is dropped and closed: the listener that reads it then ends the session. -/
theorem dropPort_closePort_abides : Leads Abides (dropPort closePort) := by
  intro rig
  have aside := dropPort_closePort_aside rig
  refine ⟨.of_aside aside, fun gentle tended => ?_⟩
  cases running : rig.running with
  | false => exact .of_ended (aside.running_eq_false running)
  | true =>
    obtain ⟨held, listening⟩ := tended running
    have gentleToo : { rig with port := .none }.plan.Gentle := gentle
    obtain ⟨closed, ended⟩ := closePort_tended gentleToo fun _ => listening
    refine .of_ended ?_
    unfold dropPort
    rw [look_bind, if_pos held]
    simp only [change_bind, attempt_bind]
    rw [closed]
    exact ended

theorem write_abides (bytes : List UInt8) : Leads Abides (write bytes) :=
  write_leads (fun event _ => record_abides event) (fun point _ => reach_abides point)
    dropPort_closePort_abides bytes

end Link

theorem Clock.sleep_abides (duration : Float) : Leads Abides (sleep duration) := by
  refine (record_abides _).bind fun _ => (reach_abides _).bind fun _ => Leads.look fun rig => ?_
  have delivered : rig.Abides (Echo.deliverAll (rig.plan.arrivals rig.tally.sleep) rig).2 := by
    refine ⟨.of_aside (Echo.deliverAll_aside _ rig), fun gentle tended => ?_⟩
    exact (Echo.deliverAll_abides (gentle.reads rig.tally.sleep) rig).tended gentle tended
  have passes := Console.passTime_keyed
    (Echo.deliverAll (rig.plan.arrivals rig.tally.sleep) rig).2
  rw [bind_of_ok ((Echo.deliverAll_neverFails _).apply rig)]
  exact IsTrans.trans _ _ _ delivered (.of_keyed passes)

/-! ### Closing the link -/

namespace Link

theorem closePort_recedes : Leads Recedes closePort := by
  have counted : Leads Recedes shutPort :=
    (record_abides _).bind (fun _ => reach_abides _) |>.mono fun _ _ => Abides.toRecedes
  exact counted.bind fun _ => (Echo.deliver_aside _).mono fun _ _ => Recedes.of_aside

theorem closeLink_recedes : Leads Recedes closeLink := by
  have logs (level : Level) (message : String) : Leads Recedes (log level message) :=
    (log_abides level message).mono fun _ _ => Abides.toRecedes
  exact closeLink_leads closePort_recedes logs fun rig => ⟨rfl, Or.inr rfl, id, id⟩

/-- The link is closed: the listener that reads its port then ends the session. -/
theorem closeLink_abides : Leads Abides closeLink := by
  intro rig
  have recedes := closeLink_recedes rig
  refine ⟨recedes, fun gentle tended => ?_⟩
  cases running : rig.running with
  | false => exact .of_ended (recedes.running_eq_false running)
  | true =>
    obtain ⟨held, listening⟩ := tended running
    obtain ⟨closed, ended⟩ := closePort_tended gentle fun _ => listening
    have quietly : closeQuietly rig = (.ok (), (closePort rig).2) := by
      unfold closeQuietly
      rw [attempt_bind, closed]
      rfl
    have ensured := ensuring_apply closeQuietly (change fun rig => { rig with port := .none }) rig
    rw [quietly] at ensured
    refine .of_ended ?_
    unfold closeLink
    rw [look_bind, if_pos held, bind_of_ok ensured]
    exact ended

end Link

/-! ### Scripts -/

theorem PassNotice.nextPass_abides (notice : PassNotice) : Leads Abides notice.nextPass :=
  nextPass_leads (fun _ => .of_idle rfl rfl rfl rfl) (fun event _ => record_abides event)
    Link.closeLink_abides notice

namespace Step

theorem perform_abides (step : Step) : Leads Abides step.perform := by
  cases step with
  | write bytes => exact Link.write_abides bytes
  | sleep duration => exact Clock.sleep_abides duration
  | note message => exact log_abides _ _
  | again notice => exact notice.nextPass_abides
  | stop failure => exact .fail failure

theorem performAll_abides (steps : List Step) : Leads Abides (performAll steps) := by
  induction steps with
  | nil => exact .pure ()
  | cons step rest inductionHypothesis =>
    exact step.perform_abides.bind fun _ => inductionHypothesis

end Step

theorem Sender.sendScript_abides (sender : Sender) (notice : PassNotice) (text : List Char)
    (again : Bool) : Leads Abides (sender.sendScript notice text again) := by
  intro rig
  have begins : rig.Abides (ready text again rig) := .of_idle rfl rfl rfl rfl
  rw [sendScript_apply]
  exact IsTrans.trans _ _ _ begins (Step.performAll_abides _ _)

/-! ### The interactive phase -/

namespace Console

theorem changeKeyboard_abides (update : Keyboard → Keyboard) :
    Leads Abides (changeKeyboard update) :=
  fun _ => .of_idle rfl rfl rfl rfl

theorem start_abides : Leads Abides start :=
  start_leads (fun event _ => record_abides event) (reach_abides _) (reach_abides _) log_abides
    (changeKeyboard_abides _)

theorem stop_abides : Leads Abides stop :=
  stop_leads (fun _ => .of_idle rfl rfl rfl rfl) fun _ _ => Abides.of_keyed

end Console

namespace Session

theorem forward_abides (sender : Sender) (bound : Nat) : Leads Abides (forward sender bound) :=
  forward_leads (fun _ _ => Abides.of_keyed) (Clock.sleep_abides _) Link.write_abides
    (fun _ => .of_ended ⟨rfl, Or.inl rfl, nofun, id⟩ rfl) bound

theorem interact_abides (sender : Sender) : Leads Abides (interact sender) :=
  Console.start_abides.bind fun _ => Leads.look fun rig =>
    (forward_abides sender (forwardBound rig)).ensuring Console.stop_abides rig

end Session

/-! ### Closing the session -/

theorem Echo.join_recedes (rig : Rig) : rig.Recedes (join rig).2 := by
  have aside := Recedes.of_aside (join_aside rig)
  exact ⟨aside.plan, aside.port, aside.running, aside.listener⟩

namespace Session

/-- What is done after the flag of the session was cleared. -/
theorem closeSession_recedes (rig : Rig) :
    { rig with running := false }.Recedes (closeSession rig).2 := by
  have logs : Leads Recedes (log .debug "Session closed") :=
    (log_abides _ _).mono fun _ _ => Abides.toRecedes
  have joins : Leads Recedes Echo.join := Echo.join_recedes
  exact joins.bind (fun _ => Link.closeLink_recedes.bind fun _ => logs)
    { rig with running := false }

theorem closeSession_abides : Leads Abides closeSession := by
  intro rig
  have ends : rig.Recedes { rig with running := false } := ⟨rfl, Or.inl rfl, nofun, id⟩
  have recedes := closeSession_recedes rig
  exact .of_ended (IsTrans.trans _ _ _ ends recedes) (recedes.running_eq_false rfl)

end Session

end KeyFeed
