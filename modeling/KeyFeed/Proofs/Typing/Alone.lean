/-
This file says what a step comes to when the sender is alone: nobody listens, the console
is not in use, and no call is planned to fail. Then every call leaves its own event, the
counts of the calls are those of the events, and the port is closed at most once. With a
fault planned for a later call every step comes to the same.
-/

import KeyFeed.Proofs.Typing.Calls
import KeyFeed.Proofs.Typing.Steps

namespace KeyFeed

open KeyFeed.Run

/-! ### The horizon of the plan -/

theorem le_foldl_max {Item : Type} (measure : Item → Nat) (items : List Item) (least : Nat) :
    let greatest := items.foldl (fun last item => max last (measure item)) least
    least ≤ greatest ∧ ∀ item ∈ items, measure item ≤ greatest := by
  induction items generalizing least with
  | nil => exact ⟨Nat.le_refl least, nofun⟩
  | cons first rest inductionHypothesis =>
    obtain ⟨grown, others⟩ := inductionHypothesis (max least (measure first))
    refine ⟨Nat.le_trans (Nat.le_max_left _ _) grown, List.forall_mem_cons.mpr ⟨?_, others⟩⟩
    exact Nat.le_trans (Nat.le_max_right _ _) grown

theorem Plan.count_le_horizon {plan : Plan} {fault : PlannedFault} (member : fault ∈ plan.faults) :
    fault.count ≤ plan.horizon :=
  Nat.le_trans ((le_foldl_max PlannedFault.count plan.faults 0).2 fault member)
    (le_foldl_max Prod.fst plan.duringSleep _).1

/-! ### Calls and their events -/

/-- The point belongs to the sender: it writes, empties the buffer of the port, or sleeps. -/
def Point.isSending : Point → Bool
  | write => true
  | flush => true
  | sleep => true
  | _ => false

/-- The event that a call of the sender leaves when it passes. -/
def Event.isCall (point : Point) : Event → Bool
  | wrote _ => point = .write
  | flushed => point = .flush
  | slept _ => point = .sleep
  | _ => false

/-- The step calls at a point of the sender, once if it passes. -/
def Step.isCall (point : Point) : Step → Bool
  | write _ => point = .write ∨ point = .flush
  | sleep _ => point = .sleep
  | _ => false

/-- What happens while the sender is alone. -/
structure Rig.Follows (rig next : Rig) : Prop where
  plan : next.plan = rig.plan
  listener : next.listener = rig.listener
  keyboard : next.keyboard = rig.keyboard
  /-- Every counted call of the sender has left its event. -/
  counted : ∃ added, next.events.toList = rig.events.toList ++ added ∧
    ∀ point, point.isSending = true →
      next.tally.get point = rig.tally.get point + added.countP (Event.isCall point)
  /-- The port is kept, or dropped and closed. -/
  port : rig.PortKept next

namespace Rig.Follows

variable {rig next : Rig}

instance : IsPreorder Rig Rig.Follows where
  refl rig := ⟨rfl, rfl, rfl, ⟨[], by simp, by simp⟩, .refl rig⟩
  trans first middle last earlier later := by
    refine ⟨later.plan.trans earlier.plan, later.listener.trans earlier.listener,
      later.keyboard.trans earlier.keyboard, ?_, earlier.port.trans later.port⟩
    obtain ⟨front, grown, counted⟩ := earlier.counted
    obtain ⟨back, grownAgain, countedAgain⟩ := later.counted
    refine ⟨front ++ back, by rw [grownAgain, grown, List.append_assoc], ?_⟩
    intro point sending
    rw [countedAgain point sending, counted point sending, List.countP_append, Nat.add_assoc]

/-- An event that is neither a call of the sender nor one of the port. -/
theorem push {event : Event} (notCall : ∀ point, event.isCall point = false)
    (notPort : event.isPort = false) (rig : Rig) :
    rig.Follows { rig with events := rig.events.push event } where
  plan := rfl
  listener := rfl
  keyboard := rfl
  counted := ⟨[event], by simp, by simp [notCall]⟩
  port := Or.inl ⟨rfl, Event.only_push_of_not_sort notPort rig.events⟩

/-- A call of the sender that passes leaves its event and is counted. -/
theorem call {point : Point} {event : Event} (own : ∀ other, other.isSending = true →
      (event.isCall other = true ↔ other = point)) (notPort : event.isPort = false) (rig : Rig) :
    rig.Follows { rig with tally := rig.tally.bump point, events := rig.events.push event } where
  plan := rfl
  listener := rfl
  keyboard := rfl
  counted := by
    refine ⟨[event], by simp, ?_⟩
    intro other sending
    by_cases same : other = point
    · have called := (own other sending).mpr same
      subst same
      simp [called]
    · have missed : event.isCall other = false := by
        simpa using fun called => same ((own other sending).mp called)
      simp [missed, Tally.get_bump_of_ne rig.tally same]
  port := Or.inl ⟨rfl, Event.only_push_of_not_sort notPort rig.events⟩

theorem written (bytes : List UInt8) (rig : Rig) : rig.Follows (Link.written bytes rig) :=
  call (by rintro (_ | _ | _ | _) <;> simp [Point.isSending, Event.isCall]) rfl rig

theorem emptied (rig : Rig) : rig.Follows (Link.emptied rig) :=
  call (by rintro (_ | _ | _ | _) <;> simp [Point.isSending, Event.isCall]) rfl rig

theorem asleep (duration : Float) (rig : Rig) : rig.Follows (Clock.asleep duration rig) :=
  call (by rintro (_ | _ | _ | _) <;> simp [Point.isSending, Event.isCall]) rfl rig

end Rig.Follows

/-! ### Closing the link and beginning another pass -/

/-- The sender is alone with a port on which closing does not fail. -/
structure Rig.Alone (rig : Rig) : Prop where
  deaf : rig.listener ≠ .listening
  away : rig.keyboard.active = false
  closes : ∀ count, rig.plan.fault? .close count = none

theorem Rig.Alone.of_follows {rig next : Rig} (alone : rig.Alone) (follows : rig.Follows next) :
    next.Alone where
  deaf := by rw [follows.listener]; exact alone.deaf
  away := by rw [follows.keyboard]; exact alone.away
  closes := by rw [follows.plan]; exact alone.closes

namespace Link

/-- The state after the link is closed. -/
def closed (rig : Rig) : Rig :=
  if rig.port.isHeld then
    { rig with
      port := .none
      tally := rig.tally.bump .close
      events := (rig.events.push .portClosed).push
        (.logged .info s!"Closed {rig.settings.port}") }
  else rig

theorem closePort_of_alone {rig : Rig} (alone : rig.Alone) :
    closePort rig = (.ok (),
      { rig with tally := rig.tally.bump .close, events := rig.events.push .portClosed }) := by
  rw [closePort_of_deaf alone.deaf, shutPort_apply]
  exact reach_of_passed (alone.closes _)

theorem closeLink_of_alone {rig : Rig} (alone : rig.Alone) :
    closeLink rig = (.ok (), closed rig) := by
  unfold closeLink closed
  rw [look_bind]
  split
  · have quietly : closeQuietly rig = (.ok (),
        { rig with tally := rig.tally.bump .close, events := rig.events.push .portClosed }) := by
      unfold closeQuietly
      rw [attempt_bind, closePort_of_alone alone]
      rfl
    have ensured := ensuring_apply closeQuietly (change fun rig => { rig with port := .none }) rig
    rw [quietly] at ensured
    rw [bind_of_ok ensured]
    rfl
  · rfl

theorem closed_follows (rig : Rig) : rig.Follows (closed rig) := by
  unfold closed
  split
  · rename_i held
    have sending : ∀ point : Point, point.isSending = true → point ≠ .close := by
      rintro (_ | _) <;> simp [Point.isSending]
    refine ⟨rfl, rfl, rfl, ⟨[.portClosed, .logged .info s!"Closed {rig.settings.port}"], by simp,
      ?_⟩, Or.inr ⟨held, rfl, ?_⟩⟩
    · intro point isSending
      simp [Event.isCall, Tally.get_bump_of_ne rig.tally (sending point isSending)]
    · exact (Event.only_push_of_not_sort rfl _).trans (Event.only_push_of_sort rfl rig.events)
  · exact Std.Refl.refl rig

end Link

theorem Link.closed_tally (rig : Rig) {point : Point} (sending : point.isSending = true) :
    (Link.closed rig).tally.get point = rig.tally.get point := by
  unfold Link.closed
  split
  · refine Tally.get_bump_of_ne rig.tally ?_
    rintro rfl
    cases sending
  · rfl

namespace PassNotice

theorem tell_follows (notice : PassNotice) (pass : Nat) {rig : Rig} (alone : rig.Alone) :
    rig.Follows (notice.tell pass rig).2 ∧
      ∀ point, point.isSending = true →
        (notice.tell pass rig).2.tally.get point = rig.tally.get point := by
  cases notice with
  | silent => exact ⟨Std.Refl.refl rig, fun _ _ => rfl⟩
  | observer stopAt closeAt =>
    have told : rig.Follows { rig with events := rig.events.push (.repeated pass) } :=
      .push (fun _ => rfl) rfl rig
    unfold tell
    dsimp only
    rw [record_bind]
    split
    · exact ⟨told, fun _ _ => rfl⟩
    · split
      · rw [Link.closeLink_of_alone (alone.of_follows told)]
        exact ⟨IsTrans.trans _ _ _ told (Link.closed_follows _),
          fun _ sending => Link.closed_tally _ sending⟩
      · exact ⟨told, fun _ _ => rfl⟩
  | output => exact ⟨.push (fun _ => rfl) rfl rig, fun _ _ => rfl⟩

/-- The state in which the observer of the passes is told. -/
def begun (rig : Rig) : Rig :=
  { rig with
    pass := rig.pass + 1
    events := rig.events.push (.logged .info s!"Repeating script, pass {rig.pass + 1}") }

theorem begun_follows (rig : Rig) : rig.Follows (begun rig) :=
  { Rig.Follows.push (fun _ => rfl) rfl rig with }

/-- Beginning another pass calls for nothing to be sent. -/
theorem nextPass_follows (notice : PassNotice) {rig : Rig} (alone : rig.Alone) :
    rig.Follows (notice.nextPass rig).2 ∧
      ∀ point, point.isSending = true →
        (notice.nextPass rig).2.tally.get point = rig.tally.get point := by
  obtain ⟨told, uncounted⟩ :=
    notice.tell_follows (rig.pass + 1) (alone.of_follows (begun_follows rig))
  exact ⟨IsTrans.trans _ _ _ (begun_follows rig) told, uncounted⟩

end PassNotice

/-! ### Steps without a fault -/

namespace Step

variable {rig : Rig}

theorem sleep_of_alone (alone : rig.Alone)
    (passed : rig.plan.fault? .sleep (rig.tally.sleep + 1) = none) (duration : Float) :
    Clock.sleep duration rig = (.ok (), Clock.asleep duration rig) := by
  rw [Clock.sleep_of_passed alone.away passed]
  have deaf : (Clock.asleep duration rig).listener ≠ .listening := alone.deaf
  rw [Echo.deliverAll_of_deaf deaf]

/-- Whatever a step comes to, its calls have left their events. -/
theorem perform_follows (alone : rig.Alone)
    (sound : ∀ point count, rig.plan.fault? point count = none) (step : Step) :
    rig.Follows (step.perform rig).2 := by
  cases step with
  | write bytes =>
    show rig.Follows (Link.write bytes rig).2
    cases held : rig.port.isHeld with
    | true =>
      rw [Link.write_of_passed held (sound _ _) (sound _ _)]
      exact IsTrans.trans _ _ _ (.written bytes rig) (.emptied _)
    | false =>
      rw [Link.write_of_lost held]
      exact Std.Refl.refl rig
  | sleep duration =>
    show rig.Follows (Clock.sleep duration rig).2
    rw [sleep_of_alone alone (sound _ _)]
    exact .asleep duration rig
  | note message => exact .push (fun _ => rfl) rfl rig
  | again notice => exact (notice.nextPass_follows alone).1
  | stop failure => exact Std.Refl.refl rig

/-- A step that passes makes its calls. -/
theorem calls_of_ok (alone : rig.Alone)
    (sound : ∀ point count, rig.plan.fault? point count = none) {step : Step} {next : Rig}
    (performed : step.perform rig = (.ok (), next)) {point : Point}
    (sending : point.isSending = true) :
    next.tally.get point = rig.tally.get point + if step.isCall point then 1 else 0 := by
  cases step with
  | write bytes =>
    have written : Link.write bytes rig = (.ok (), next) := performed
    cases held : rig.port.isHeld with
    | true =>
      rw [Link.write_of_passed held (sound _ _) (sound _ _)] at written
      cases written
      cases point <;> simp_all [isCall, Point.isSending, Tally.get, Link.emptied, Link.written,
        Tally.bump]
    | false =>
      rw [Link.write_of_lost held] at written
      cases written
  | sleep duration =>
    have slept : Clock.sleep duration rig = (.ok (), next) := performed
    rw [sleep_of_alone alone (sound _ _)] at slept
    cases slept
    cases point <;> simp_all [isCall, Point.isSending, Tally.get, Clock.asleep, Tally.bump]
  | note message =>
    cases performed
    rfl
  | again notice =>
    have told : notice.nextPass rig = (.ok (), next) := performed
    have uncounted := (notice.nextPass_follows alone).2 point sending
    rw [told] at uncounted
    exact uncounted
  | stop failure => cases performed

end Step

end KeyFeed
