/-
This file follows a failure that a write meets through the work of a session. As long as no
write fails, the port and the counts of the calls to it go on undisturbed, whatever else the
listener, the user and the console do. The first write that fails ends the work: nothing
that is left to do afterwards writes, and the work comes to what that write has come to.
-/

import KeyFeed.Proofs.Link.Writing
import KeyFeed.Proofs.Session.Custody

namespace KeyFeed

open KeyFeed.Run

/-- The port is called for a write. -/
def Point.isWriting : Point → Bool
  | write => true
  | flush => true
  | _ => false

theorem Point.ne_of_isWriting {point other : Point} (writes : point.isWriting = true)
    (silent : other.isWriting = false) : point ≠ other := by
  rintro rfl
  rw [silent] at writes
  cases writes

/-! ### Whether a write fails -/

/-- No write fails. The link gets no port, and a port that it keeps is not closed. -/
structure Rig.Writes (rig next : Rig) : Prop where
  plan : next.plan = rig.plan
  passed : ∀ point, point.isWriting = true → ∀ count, rig.tally.get point < count →
    count ≤ next.tally.get point → rig.plan.fault? point count = none
  kept : next.port.isHeld = true → rig.port.isHeld = true ∧ next.tally.close = rig.tally.close

/-- The one write that fails meets the failure, with a port that the link still holds. -/
structure Rig.Meets (failure : Failure) (rig next : Rig) : Prop where
  plan : next.plan = rig.plan
  met : ∀ point, point.isWriting = true → ∀ count other, rig.tally.get point < count →
    count ≤ next.tally.get point → rig.plan.fault? point count = some other → other = failure
  began : rig.port.isHeld = true
  dropped : failure.isTransport = true → next.port = .none
  kept : next.port.isHeld = true → next.tally.close = rig.tally.close

namespace Rig

variable {rig middle next : Rig} {failure : Failure}

instance : IsPreorder Rig Rig.Writes where
  refl _ := ⟨rfl, fun _ _ _ more most => absurd (Nat.lt_of_lt_of_le more most) (Nat.lt_irrefl _),
    fun held => ⟨held, rfl⟩⟩
  trans _ middle _ earlier later := by
    refine ⟨later.plan.trans earlier.plan, fun point writes count more most => ?_, fun held => ?_⟩
    · by_cases early : count ≤ middle.tally.get point
      · exact earlier.passed point writes count more early
      · rw [← earlier.plan]
        exact later.passed point writes count (Nat.lt_of_not_le early) most
    · obtain ⟨held, same⟩ := later.kept held
      obtain ⟨held, sameToo⟩ := earlier.kept held
      exact ⟨held, same.trans sameToo⟩

/-- The port is not called for a write. -/
theorem Writes.of_silent (plan : next.plan = rig.plan)
    (silent : ∀ point, point.isWriting = true → next.tally.get point = rig.tally.get point)
    (kept : next.port.isHeld = true → rig.port.isHeld = true ∧ next.tally.close = rig.tally.close) :
    rig.Writes next where
  plan := plan
  passed point writes count more most := by
    rw [silent point writes] at most
    exact absurd (Nat.lt_of_lt_of_le more most) (Nat.lt_irrefl _)
  kept := kept

/-- Neither the port nor the counts of the calls to it change. -/
theorem Writes.of_idle (plan : next.plan = rig.plan) (port : next.port = rig.port)
    (tally : next.tally = rig.tally) : rig.Writes next :=
  .of_silent plan (fun _ _ => by rw [tally]) fun held => ⟨port ▸ held, by rw [tally]⟩

theorem Writes.of_keyed (keyed : rig.Keyed next) : rig.Writes next := by
  rw [keyed.frame]
  exact .of_idle rfl rfl rfl

theorem Writes.of_aside (aside : rig.Aside next)
    (kept : next.port.isHeld = true → next.tally.close = rig.tally.close) : rig.Writes next := by
  refine .of_silent aside.plan (fun point writes => ?_) fun held => ⟨?_, kept held⟩
  · exact aside.tally point (Point.ne_of_isWriting writes rfl) (Point.ne_of_isWriting writes rfl)
  · rcases aside.port with ⟨same, _⟩ | ⟨_, dropped, _⟩
    · rwa [← same]
    · rw [dropped] at held
      cases held

/-- Nothing fails before the write that does. -/
theorem Meets.after (meets : middle.Meets failure next) (writes : rig.Writes middle) :
    rig.Meets failure next where
  plan := meets.plan.trans writes.plan
  met point writing count other more most planned := by
    by_cases early : count ≤ middle.tally.get point
    · rw [writes.passed point writing count more early] at planned
      cases planned
    · rw [← writes.plan] at planned
      exact meets.met point writing count other (Nat.lt_of_not_le early) most planned
  began := (writes.kept meets.began).1
  dropped := meets.dropped
  kept held := (meets.kept held).trans (writes.kept meets.began).2

/-- No write fails after the one that did. -/
theorem Meets.before (meets : rig.Meets failure middle) (writes : middle.Writes next) :
    rig.Meets failure next where
  plan := writes.plan.trans meets.plan
  met point writing count other more most planned := by
    by_cases early : count ≤ middle.tally.get point
    · exact meets.met point writing count other more early planned
    · rw [← meets.plan, writes.passed point writing count (Nat.lt_of_not_le early) most] at planned
      cases planned
  began := meets.began
  dropped transport := by
    refine HeldPort.eq_none_of_not_isHeld fun held => ?_
    have heldBefore := (writes.kept held).1
    rw [meets.dropped transport] at heldBefore
    cases heldBefore
  kept held := (writes.kept held).2.trans (meets.kept (writes.kept held).1)

end Rig

open Rig (Writes)

namespace Run

variable {First Second Result : Type} {plan : Plan}

/-- Under the plan no write of the activity fails, or the first one that does decides what it comes
to. -/
def Heeds (plan : Plan) (activity : Run Result) : Prop :=
  ∀ rig, rig.plan = plan → rig.Writes (activity rig).2 ∨
    ∃ failure, rig.Meets failure (activity rig).2 ∧
      (activity rig).1 = .error (Link.writeFailure failure (Link.closeFault? rig))

namespace Heeds

theorem of_leads {activity : Run Result} (leads : Leads Writes activity) : Heeds plan activity :=
  fun rig _ => Or.inl (leads rig)

theorem pure (result : Result) : Heeds plan (pure result : Run Result) := of_leads (.pure result)

theorem fail (failure : Failure) : Heeds plan (Run.fail failure : Run Result) :=
  of_leads (.fail failure)

theorem look {second : Rig → Run Second} (heeds : ∀ rig, Heeds plan (second rig)) :
    Heeds plan (Run.look >>= second) := fun rig => heeds rig rig

theorem ite {condition : Prop} [Decidable condition] {first second : Run Result}
    (holds : Heeds plan first) (fails : Heeds plan second) :
    Heeds plan (if condition then first else second) := by
  split
  · exact holds
  · exact fails

/-- An activity that follows some states in which no write failed. A port that it still finds was
not closed before. -/
theorem later {activity : Run Result} (heeds : Heeds plan activity) {rig middle : Rig}
    (planned : rig.plan = plan) (writes : rig.Writes middle) :
    rig.Writes (activity middle).2 ∨
      ∃ failure, rig.Meets failure (activity middle).2 ∧
        (activity middle).1 = .error (Link.writeFailure failure (Link.closeFault? rig)) := by
  rcases heeds middle (writes.plan.trans planned) with later | ⟨failure, meets, failed⟩
  · exact Or.inl (IsTrans.trans _ _ _ writes later)
  · have same : Link.closeFault? middle = Link.closeFault? rig := by
      unfold Link.closeFault?
      rw [writes.plan, (writes.kept meets.began).2]
    exact Or.inr ⟨failure, meets.after writes, same ▸ failed⟩

theorem bind {first : Run First} {second : First → Run Second} (begins : Heeds plan first)
    (ends : ∀ result, Heeds plan (second result)) : Heeds plan (first >>= second) := by
  intro rig planned
  rcases begins rig planned with writes | ⟨failure, meets, failed⟩
  · rcases outcome : first rig with ⟨cause | result, middle⟩
    · rw [outcome] at writes
      rw [bind_of_error outcome]
      exact Or.inl writes
    · rw [outcome] at writes
      rw [bind_of_ok outcome]
      exact (ends result).later planned writes
  · have outcome : first rig = (.error _, (first rig).2) := Prod.ext failed rfl
    rw [bind_of_error outcome]
    exact Or.inr ⟨failure, meets, rfl⟩

/-- What is left to do afterwards does not fail, so it does not hide the failure of a write. -/
theorem ensuring {activity : Run Result} {after : Run Unit} (heeds : Heeds plan activity)
    (last : Leads Writes after) (safe : ∀ rig, rig.plan = plan → (after rig).1 = .ok ()) :
    Heeds plan (Run.ensuring activity after) := by
  intro rig planned
  rcases heeds rig planned with writes | ⟨failure, meets, failed⟩
  · rw [ensuring_snd]
    exact Or.inl (IsTrans.trans _ _ _ writes (last _))
  · have ended : after (activity rig).2 = (.ok (), (after (activity rig).2).2) :=
      Prod.ext (safe _ (meets.plan.trans planned)) rfl
    rw [ensuring_apply, ended]
    exact Or.inr ⟨failure, meets.before (last _), failed⟩

end Heeds

end Run

/-! ### What does not write -/

theorem record_writes (event : Event) : Leads Writes (record event) :=
  fun _ => .of_idle rfl rfl rfl

theorem log_writes (level : Level) (message : String) : Leads Writes (log level message) :=
  record_writes _

theorem reach_writes (point : Point) (silent : point.isWriting = false) (other : point ≠ .close) :
    Leads Writes (reach point) := by
  intro rig
  rw [reach_snd]
  refine .of_silent rfl (fun writing writes => ?_) fun held => ⟨held, ?_⟩
  · exact Tally.get_bump_of_ne rig.tally (Point.ne_of_isWriting writes silent)
  · exact Tally.get_bump_of_ne rig.tally other.symm

/-- A read that fails at the transport costs the link its port, and every other one changes
nothing. -/
theorem Link.receive_writes (arrival : Arrival) : Leads Writes (receive arrival) := by
  intro rig
  refine .of_aside (receive_aside arrival rig) fun held => ?_
  cases arrival with
  | bytes bytes => rfl
  | failure failure =>
    cases transport : failure.isTransport with
    | false => rw [receive_of_other transport]
    | true =>
      obtain ⟨_, _, dropped⟩ := @receive_port (.failure failure) transport rig
      rw [dropped] at held
      cases held

theorem Rig.Writes.of_quiet {rig next : Rig} (quiet : rig.Quiet next) : rig.Writes next :=
  .of_aside quiet.toAside fun _ => quiet.unclosed

namespace Echo

theorem deliverAll_writes (arrivals : List Arrival) : Leads Writes (deliverAll arrivals) :=
  deliverAll_leads (fun _ _ => Writes.of_quiet) fun arrival _ => Link.receive_writes arrival

theorem join_writes : Leads Writes join := by
  have reads (arrival : Arrival) : Leads Writes (advance arrival) :=
    advance_leads (fun _ _ => Writes.of_quiet) (Link.receive_writes arrival)
  refine Leads.look fun rig => ?_
  split
  · cases rig.finalArrivals with
    | nil => exact reads _ rig
    | cons arrival rest =>
      have taken : Leads Writes (change fun rig => { rig with finalArrivals := rest }) :=
        fun _ => .of_idle rfl rfl rfl
      exact taken.bind (fun _ => reads arrival) rig
  · exact Leads.pure () rig

end Echo

theorem Clock.sleep_writes (duration : Float) : Leads Writes (sleep duration) := by
  refine (record_writes _).bind fun _ => (reach_writes .sleep rfl nofun).bind fun _ => ?_
  refine Leads.look fun rig => ?_
  have delivered := Echo.deliverAll_writes (rig.plan.arrivals rig.tally.sleep)
  exact delivered.bind (fun _ => Console.passTime_keyed.mono fun _ _ => Writes.of_keyed) rig

namespace Console

theorem changeKeyboard_writes (update : Keyboard → Keyboard) :
    Leads Writes (changeKeyboard update) := fun _ => .of_idle rfl rfl rfl

theorem start_writes : Leads Writes start :=
  start_leads (fun event _ => record_writes event) (reach_writes .consoleCreation rfl nofun)
    (reach_writes .consoleSetUp rfl nofun) log_writes (changeKeyboard_writes _)

theorem stop_writes : Leads Writes stop := by
  refine stop_leads (fun rig => ?_) fun _ _ => Writes.of_keyed
  refine .of_silent rfl (fun point writes => ?_) fun held => ⟨held, rfl⟩
  exact Tally.get_bump_of_ne rig.tally (Point.ne_of_isWriting writes rfl)

end Console

/-! ### Writes -/

namespace Link

/-- A count that goes up by one at most passes that one count at most. -/
theorem eq_succ_of_lt_of_le {count first : Nat} (more : first < count) (most : count ≤ first + 1) :
    count = first + 1 := by omega

theorem written_writes {rig : Rig} (sound : writeFault? rig = none) (bytes : List UInt8) :
    rig.Writes (emptied (written bytes rig)) := by
  obtain ⟨taken, flushed⟩ := Option.or_eq_none_iff.mp sound
  refine ⟨rfl, fun point writes count more most => ?_, fun held => ⟨held, rfl⟩⟩
  cases point with
  | write => rwa [eq_succ_of_lt_of_le more most]
  | flush => rwa [eq_succ_of_lt_of_le more most]
  | _ => cases writes

/-- A write that fails has met the failure, when the calls it has made have met no other one. -/
theorem afterFailure_meets {rig called : Rig} {failure : Failure} (held : rig.port.isHeld = true)
    (plan : called.plan = rig.plan) (port : called.port = rig.port)
    (close : called.tally.close = rig.tally.close)
    (met : ∀ point, point.isWriting = true → ∀ count other, rig.tally.get point < count →
      count ≤ called.tally.get point → rig.plan.fault? point count = some other →
        other = failure) : rig.Meets failure (afterFailure failure called).2 where
  plan := (afterFailure_aside failure called).plan.trans plan
  met point writes count other more most planned := by
    rw [(afterFailure_aside failure called).tally point (Point.ne_of_isWriting writes rfl)
      (Point.ne_of_isWriting writes rfl)] at most
    exact met point writes count other more most planned
  began := held
  dropped transport := by
    rw [(afterFailure_apply (port ▸ held) failure).2, if_pos transport]
  kept heldStill := by
    cases transport : failure.isTransport with
    | false => rw [afterFailure_of_other transport, close]
    | true =>
      rw [(afterFailure_apply (port ▸ held) failure).2, if_pos transport] at heldStill
      cases heldStill

/-- The port refuses the bytes, and is not called to empty its buffer. -/
theorem refused_meets {rig : Rig} {failure : Failure} (held : rig.port.isHeld = true)
    (planned : rig.plan.fault? .write (rig.tally.write + 1) = some failure) (bytes : List UInt8) :
    rig.Meets failure (afterFailure failure (refused bytes rig)).2 := by
  refine afterFailure_meets held rfl rfl rfl fun point writes count other more most due => ?_
  cases point with
  | write =>
    rw [eq_succ_of_lt_of_le more most] at due
    exact Option.some.inj (due.symm.trans planned)
  | flush => exact absurd (Nat.lt_of_lt_of_le more most) (Nat.lt_irrefl _)
  | _ => cases writes

/-- The port takes the bytes, but fails to empty its buffer. -/
theorem stuck_meets {rig : Rig} {failure : Failure} (held : rig.port.isHeld = true)
    (taken : rig.plan.fault? .write (rig.tally.write + 1) = none)
    (planned : rig.plan.fault? .flush (rig.tally.flush + 1) = some failure) (bytes : List UInt8) :
    rig.Meets failure (afterFailure failure (emptied (written bytes rig))).2 := by
  refine afterFailure_meets held rfl rfl rfl fun point writes count other more most due => ?_
  cases point with
  | write =>
    rw [eq_succ_of_lt_of_le more most] at due
    cases due.symm.trans taken
  | flush =>
    rw [eq_succ_of_lt_of_le more most] at due
    exact Option.some.inj (due.symm.trans planned)
  | _ => cases writes

theorem write_heeds {plan : Plan} (bytes : List UInt8) : Heeds plan (write bytes) := by
  intro rig _
  cases held : rig.port.isHeld with
  | false =>
    rw [write_of_lost held]
    exact Or.inl (Std.Refl.refl rig)
  | true =>
    cases met : writeFault? rig with
    | none =>
      rw [write_of_sound held met]
      exact Or.inl (written_writes met bytes)
    | some failure =>
      refine Or.inr ⟨failure, ?_, (write_of_fault held met bytes).1⟩
      rcases Option.or_eq_some_iff.mp met with planned | ⟨taken, stuck⟩
      · rw [write_of_refused held planned]
        exact refused_meets held planned bytes
      · rw [write_of_stuck held taken stuck]
        exact stuck_meets held taken stuck bytes

end Link

/-! ### The work of a session -/

theorem Step.perform_heeds {plan : Plan} {step : Step} (unobserved : step.isUnobserved = true) :
    Heeds plan step.perform := by
  cases step with
  | write bytes => exact Link.write_heeds bytes
  | sleep duration => exact .of_leads (Clock.sleep_writes duration)
  | note message => exact .of_leads (log_writes _ _)
  | again notice =>
    refine .of_leads fun rig => ?_
    have counted : rig.Writes { rig with pass := rig.pass + 1 } := .of_idle rfl rfl rfl
    exact IsTrans.trans _ _ _ counted (.of_keyed (nextPass_notes unobserved rig).keyed)
  | stop failure => exact .fail failure

theorem Step.performAll_heeds {plan : Plan} {steps : List Step}
    (unobserved : ∀ step ∈ steps, step.isUnobserved = true) : Heeds plan (performAll steps) := by
  induction steps with
  | nil => exact .pure ()
  | cons step rest inductionHypothesis =>
    refine (perform_heeds (unobserved step List.mem_cons_self)).bind fun _ => ?_
    exact inductionHypothesis fun other member => unobserved other (.tail step member)

theorem Sender.sendScript_heeds {plan : Plan} (sender : Sender) (text : List Char) (again : Bool) :
    Heeds plan (sender.sendScript .output text again) := by
  intro rig planned
  have counted : rig.Writes { rig with pass := 1 } := .of_idle rfl rfl rfl
  have begins := IsTrans.trans _ _ _ counted (Writes.of_keyed (ready_notes text again rig).keyed)
  rw [sendScript_apply]
  exact (Step.performAll_heeds (sender.isUnobserved_scriptSteps _ text again)).later planned begins

namespace Session

variable {plan : Plan}

theorem forward_heeds (sender : Sender) (bound : Nat) : Heeds plan (forward sender bound) := by
  induction bound with
  | zero => exact .fail _
  | succ bound inductionHypothesis =>
    have alive : Heeds plan isLive := .look fun rig => .pure _
    have reads : Heeds plan Console.readKey :=
      .of_leads (Console.readKey_keyed.mono fun _ _ => Writes.of_keyed)
    have ended : Heeds plan (change fun rig => { rig with running := false }) :=
      .of_leads fun _ => .of_idle rfl rfl rfl
    have encodes (key : Key) : Heeds plan (sender.encode key) := .of_leads (.resume _)
    have sends (key : Key) : Heeds plan (sender.sendKey key) :=
      (encodes key).bind fun bytes => Link.write_heeds bytes
    refine alive.bind fun live => .ite (reads.bind fun taken => ?_) (.pure ())
    split
    · exact (Heeds.of_leads (Clock.sleep_writes _)).bind fun _ => inductionHypothesis
    · exact .ite ((Heeds.of_leads (log_writes _ _)).bind fun _ => ended)
        ((sends _).bind fun _ => inductionHypothesis)

/-- A write that fails in the interactive phase decides what it comes to, unless the user
interrupts while the console is restored. -/
theorem interact_heeds (sender : Sender)
    (restorable : ∀ count failure, plan.fault? .consoleRestoring count = some failure →
      failure.isOrdinary = true) : Heeds plan (interact sender) := by
  refine (Heeds.of_leads Console.start_writes).bind fun _ => .look fun rig => ?_
  refine (forward_heeds sender _).ensuring Console.stop_writes fun rig planned => ?_
  exact Console.stop_of_restorable fun failure due => restorable _ failure (planned ▸ due)

end Session

end KeyFeed
