/-
This file compares a script with itself when other things arrive meanwhile. As long as no
read fails at the transport, the listener leaves the link alone, so the sender finds the
same link whatever arrives and whatever becomes of the texts that are shown. The two runs
have the same events of the sender and the same outcome, pass by pass.

Both runs may call the port to close a different number of times, but only once the link
has forgotten it, when nobody asks for that number any more.
-/

import KeyFeed.Proofs.Echo.Tending
import KeyFeed.Proofs.Typing.Endless

namespace KeyFeed

open KeyFeed.Run

open Rig (Spares)

/-- Two plans let the same calls of the sender and of the link fail. -/
def Plan.Agrees (plan other : Plan) : Prop :=
  ∀ point count, point ≠ .sink → plan.fault? point count = other.fault? point count

/-- Two states that the sender cannot tell apart, nor will as long as no read fails at the
transport. -/
structure Rig.Alike (rig other : Rig) : Prop where
  plan : rig.plan.Agrees other.plan
  delivers : ∀ count, rig.plan.Delivers count ∧ other.plan.Delivers count
  settings : rig.settings = other.settings
  port : rig.port = other.port
  pass : rig.pass = other.pass
  away : rig.keyboard.active = false ∧ other.keyboard.active = false
  tally : ∀ point, point.isSending = true → rig.tally.get point = other.tally.get point
  close : rig.port.isHeld = true → rig.tally.close = other.tally.close
  events : Event.only Event.isSender rig.events = Event.only Event.isSender other.events

namespace Rig.Alike

variable {rig other next final : Rig}

theorem symm (alike : rig.Alike other) : other.Alike rig where
  plan point count shown := (alike.plan point count shown).symm
  delivers count := (alike.delivers count).symm
  settings := alike.settings.symm
  port := alike.port.symm
  pass := alike.pass.symm
  away := alike.away.symm
  tally point sending := (alike.tally point sending).symm
  close held := (alike.close (alike.port ▸ held)).symm
  events := alike.events.symm

/-- What the listener does to one of the two is not noticed, as long as it leaves the port
alone. -/
theorem of_quiet (alike : rig.Alike other) (quiet : rig.Quiet next) : next.Alike other := by
  have spares := Spares.of_aside quiet.toAside
  refine ⟨?_, ?_, ?_, quiet.samePort.trans alike.port, ?_, ?_, fun point sending => ?_,
    fun held => ?_, spares.events.trans alike.events⟩
  · rw [quiet.plan]
    exact alike.plan
  · rw [quiet.plan]
    exact alike.delivers
  · rw [quiet.frame]
    exact alike.settings
  · rw [quiet.frame]
    exact alike.pass
  · rw [quiet.keyboard]
    exact alike.away
  · rw [spares.tally point sending]
    exact alike.tally point sending
  · rw [quiet.unclosed]
    exact alike.close (quiet.samePort ▸ held)

/-- The link forgets its port in both, whatever the listener does then. -/
theorem of_dropped (alike : rig.Alike other) (left : rig.Spares next) (right : other.Spares final)
    (dropped : next.port = .none) (droppedToo : final.port = .none) : next.Alike final := by
  refine ⟨?_, ?_, ?_, dropped.trans droppedToo.symm, ?_, ?_, fun point sending => ?_,
    fun held => ?_, (left.events.trans alike.events).trans right.events.symm⟩
  · rw [left.frame, right.frame]
    exact alike.plan
  · rw [left.frame, right.frame]
    exact alike.delivers
  · rw [left.frame, right.frame]
    exact alike.settings
  · rw [left.frame, right.frame]
    exact alike.pass
  · rw [left.frame, right.frame]
    exact alike.away
  · rw [left.tally point sending, right.tally point sending]
    exact alike.tally point sending
  · rw [dropped] at held
    cases held

/-- Both record an event that is the same, or none of the sender. -/
theorem push (alike : rig.Alike other) {event eventToo : Event}
    (same : [event].filter Event.isSender = [eventToo].filter Event.isSender) :
    { rig with events := rig.events.push event }.Alike
      { other with events := other.events.push eventToo } :=
  { alike with
    events := by
      have grown (rig : Rig) (event : Event) : Event.only Event.isSender (rig.events.push event) =
          Event.only Event.isSender rig.events ++ [event].filter Event.isSender :=
        Event.only_append Array.toList_push
      show Event.only _ _ = Event.only _ _
      rw [grown, grown, same, alike.events] }

/-- Both make the same call of the sender. -/
theorem count (alike : rig.Alike other) {point : Point} (sending : point.isSending = true) :
    { rig with tally := rig.tally.bump point }.Alike
      { other with tally := other.tally.bump point } :=
  { alike with
    tally := by
      intro called isSending
      show (rig.tally.bump point).get called = (other.tally.bump point).get called
      by_cases same : called = point
      · subst same
        rw [Tally.get_bump_self, Tally.get_bump_self, alike.tally called isSending]
      · rw [Tally.get_bump_of_ne _ same, Tally.get_bump_of_ne _ same, alike.tally called isSending]
    close := by
      intro held
      have notClose : Point.close ≠ point := by
        rintro rfl
        cases sending
      show (rig.tally.bump point).get .close = (other.tally.bump point).get .close
      rw [Tally.get_bump_of_ne _ notClose, Tally.get_bump_of_ne _ notClose]
      exact alike.close held }

theorem fault? (alike : rig.Alike other) {point : Point} (sending : point.isSending = true) :
    rig.plan.fault? point (rig.tally.get point + 1) =
      other.plan.fault? point (other.tally.get point + 1) := by
  rw [alike.tally point sending]
  refine alike.plan point _ ?_
  rintro rfl
  cases sending

end Rig.Alike

open Rig (Alike)

/-! ### Activities of the sender -/

namespace Run

/-- The activity comes to the same in two states that the sender cannot tell apart, and leaves two
such states. -/
def Indifferent {Result : Type} (activity : Run Result) : Prop :=
  ∀ rig other, rig.Alike other →
    (activity rig).1 = (activity other).1 ∧ (activity rig).2.Alike (activity other).2

namespace Indifferent

variable {First Second Result : Type}

theorem pure (result : Result) : Indifferent (pure result : Run Result) :=
  fun _ _ alike => ⟨rfl, alike⟩

theorem fail (failure : Failure) : Indifferent (Run.fail failure : Run Result) :=
  fun _ _ alike => ⟨rfl, alike⟩

theorem attempt {activity : Run Result} (same : Indifferent activity) :
    Indifferent (Run.attempt activity) := by
  intro rig other alike
  obtain ⟨outcome, left⟩ := same rig other alike
  exact ⟨congrArg Except.ok outcome, left⟩

theorem ite {condition : Prop} [Decidable condition] {first second : Run Result}
    (holds : Indifferent first) (fails : Indifferent second) :
    Indifferent (if condition then first else second) := by
  split
  · exact holds
  · exact fails

theorem bind {first : Run First} {second : First → Run Second} (begins : Indifferent first)
    (ends : ∀ result, Indifferent (second result)) : Indifferent (first >>= second) := by
  intro rig other alike
  obtain ⟨outcome, left⟩ := begins rig other alike
  rcases begun : first rig with ⟨failure | result, next⟩
  · rcases begunToo : first other with ⟨failureToo | resultToo, nextToo⟩
    · rw [begun, begunToo] at outcome left
      cases outcome
      rw [bind_of_error begun, bind_of_error begunToo]
      exact ⟨rfl, left⟩
    · rw [begun, begunToo] at outcome
      cases outcome
  · rcases begunToo : first other with ⟨failureToo | resultToo, nextToo⟩
    · rw [begun, begunToo] at outcome
      cases outcome
    · rw [begun, begunToo] at outcome left
      cases outcome
      rw [bind_of_ok begun, bind_of_ok begunToo]
      exact ends result next nextToo left

end Indifferent

theorem record_indifferent (event : Event) : Indifferent (record event) :=
  fun _ _ alike => ⟨rfl, alike.push rfl⟩

theorem log_indifferent (level : Level) (message : String) : Indifferent (log level message) :=
  record_indifferent _

theorem reach_indifferent {point : Point} (sending : point.isSending = true) :
    Indifferent (reach point) := by
  intro rig other alike
  have shown : point ≠ .sink := by
    rintro rfl
    cases sending
  refine ⟨?_, ?_⟩
  · rw [reach_fst, reach_fst, alike.tally point sending, alike.plan point _ shown]
  · rw [reach_snd, reach_snd]
    exact alike.count sending

end Run

/-! ### The port -/

namespace Link

/-- While the link holds the port, both runs have called it to close equally often. -/
theorem closing_same {rig other : Rig} (counted : rig.tally.close = other.tally.close)
    (agrees : rig.plan.Agrees other.plan) : (reach .close rig).1 = (reach .close other).1 := by
  have same : rig.tally.get .close = other.tally.get .close := counted
  rw [reach_fst, reach_fst, same, agrees .close _ nofun]

theorem dropPort_indifferent : Indifferent (dropPort closePort) := by
  have closes (rig : Rig) (portless : rig.port = .none) : (closePort rig).2.port = .none :=
    (closePort_closes rig).port.none portless
  intro rig other alike
  refine ⟨?_, alike.of_dropped (.of_aside (dropPort_closePort_aside rig))
    (.of_aside (dropPort_closePort_aside other)) (dropPort_port closes rig)
    (dropPort_port closes other)⟩
  unfold dropPort
  rw [look_bind, look_bind, ← alike.port]
  split
  · rename_i held
    have closes : (closePort { rig with port := .none }).1 =
        (closePort { other with port := .none }).1 := by
      rw [closePort_fst, closePort_fst]
      exact closing_same (alike.close held) alike.plan
    simp only [change_bind, attempt_bind]
    rw [closes]
    cases (closePort { other with port := .none }).1 with
    | ok result => rfl
    | error failure =>
      dsimp only
      split <;> rfl
  · rfl

theorem requirePort_indifferent : Indifferent requirePort := by
  intro rig other alike
  unfold requirePort
  rw [look_bind, look_bind, ← alike.port, ← alike.settings]
  split
  · exact ⟨rfl, alike⟩
  · exact ⟨rfl, alike⟩

theorem write_indifferent (bytes : List UInt8) : Indifferent (write bytes) := by
  have hands : Indifferent (put bytes) := by
    refine (reach_indifferent rfl).attempt.bind fun outcome => ?_
    split
    · exact record_indifferent _
    · exact (record_indifferent _).bind fun _ => .fail _
  have empties : Indifferent flush := (record_indifferent _).bind fun _ => reach_indifferent rfl
  refine requirePort_indifferent.bind fun _ => ?_
  refine (hands.bind fun _ => empties).attempt.bind fun outcome => ?_
  split
  · exact .pure ()
  · refine .ite ?_ (.fail _)
    exact (log_indifferent _ _).bind fun _ => dropPort_indifferent.bind fun _ => .fail _

/-- A read that does not fail at the transport leaves the port alone. -/
theorem receive_quiet {arrival : Arrival} (readable : arrival.isFault = false) :
    Leads Rig.Quiet (receive arrival) := by
  cases arrival with
  | bytes bytes => exact .pure bytes
  | failure failure =>
    have other : ¬failure.isTransport = true := Bool.eq_false_iff.mp readable
    unfold receive
    dsimp only
    rw [if_neg other]
    exact .fail failure

theorem closeLink_indifferent : Indifferent closeLink := by
  intro rig other alike
  refine ⟨?_, alike.of_dropped (closeLink_spares rig) (closeLink_spares other) (closeLink_port rig)
    (closeLink_port other)⟩
  cases held : rig.port.isHeld with
  | true =>
    have heldToo : other.port.isHeld = true := alike.port ▸ held
    rw [closeLink_fst held, closeLink_fst heldToo, closeQuietly_fst, closeQuietly_fst,
      closing_same (alike.close held) alike.plan]
  | false =>
    have droppedToo : other.port.isHeld = false := alike.port ▸ held
    rw [closeLink_of_dropped held, closeLink_of_dropped droppedToo]

end Link

/-! ### Pauses and passes -/

/-- Whatever arrives while the sender sleeps, the port is left alone. -/
theorem Clock.sleep_indifferent (duration : Float) : Indifferent (sleep duration) := by
  have listens (rig : Rig) (delivers : ∀ count, rig.plan.Delivers count) :
      rig.Quiet (Echo.deliverAll (rig.plan.arrivals rig.tally.sleep) rig).2 :=
    Echo.deliverAll_leads (fun _ _ => id)
      (fun arrival member => Link.receive_quiet (delivers _ arrival member)) rig
  have awake : Indifferent (do
      let rig ← look
      Echo.deliverAll (rig.plan.arrivals rig.tally.sleep)
      Console.passTime) := by
    intro rig other alike
    have left := listens rig fun count => (alike.delivers count).1
    have right := listens other fun count => (alike.delivers count).2
    have after := ((alike.of_quiet left).symm.of_quiet right).symm
    rw [look_bind, look_bind, bind_of_ok ((Echo.deliverAll_neverFails _).apply rig),
      bind_of_ok ((Echo.deliverAll_neverFails _).apply other),
      Console.passTime_of_inactive after.away.1, Console.passTime_of_inactive after.away.2]
    exact ⟨rfl, after⟩
  exact (record_indifferent _).bind fun _ => (reach_indifferent rfl).bind fun _ => awake

theorem PassNotice.nextPass_indifferent (notice : PassNotice) : Indifferent notice.nextPass := by
  have tells (pass : Nat) : Indifferent (notice.tell pass) := by
    cases notice with
    | silent => exact .pure ()
    | observer stopAt closeAt =>
      exact (record_indifferent _).bind fun _ =>
        .ite (.fail _) (.ite Link.closeLink_indifferent (.pure ()))
    | output => exact fun rig other alike => ⟨rfl, alike.push rfl⟩
  have counts : Indifferent (change fun rig => { rig with pass := rig.pass + 1 }) :=
    fun _ _ alike => ⟨rfl, { alike with pass := congrArg (· + 1) alike.pass }⟩
  refine counts.bind fun _ rig other alike => ?_
  rw [look_bind, look_bind, ← alike.pass]
  exact ((log_indifferent _ _).bind fun _ => tells rig.pass) rig other alike

/-! ### Scripts -/

namespace Step

theorem perform_indifferent (step : Step) : Indifferent step.perform := by
  cases step with
  | write bytes => exact Link.write_indifferent bytes
  | sleep duration => exact Clock.sleep_indifferent duration
  | note message => exact log_indifferent _ _
  | again notice => exact notice.nextPass_indifferent
  | stop failure => exact .fail failure

theorem performAll_indifferent (steps : List Step) : Indifferent (performAll steps) := by
  induction steps with
  | nil => exact .pure ()
  | cons step rest inductionHypothesis =>
    exact step.perform_indifferent.bind fun _ => inductionHypothesis

end Step

namespace Sender

variable (sender : Sender) (notice : PassNotice) (text : List Char) (again : Bool)

theorem ready_alike {rig other : Rig} (alike : rig.Alike other) :
    (ready text again rig).Alike (ready text again other) := by
  unfold ready
  split
  · exact { alike.push rfl with pass := rfl }
  · exact { alike with pass := rfl }

/-- A script that is sent with the same bound on its passes comes to the same, whatever arrives
meanwhile. -/
theorem sendWithin_indifferent (bound : Nat) :
    Indifferent (sender.sendWithin bound notice text again) := by
  intro rig other alike
  rw [sendWithin_apply, sendWithin_apply]
  exact Step.performAll_indifferent _ _ _ (ready_alike text again alike)

variable {sender notice text again}

/-- A script is repeated without end, or every number of passes from some number on comes to the
same. -/
theorem sendWithin_settles {rig : Rig} (away : rig.keyboard.active = false) :
    (∀ bound, (sender.sendWithin bound notice text again rig).1 = .error .unfinished) ∨
      ∀ bound, passBound rig.plan notice ≤ bound →
        sender.sendWithin bound notice text again rig =
          sender.sendScript notice text again rig := by
  simp only [sendScript_apply, sendWithin_apply]
  unfold scriptSteps
  by_cases repeats : (again && !text.isEmpty) = true
  · simp only [if_pos repeats, passSteps_eq, Step.performAll_append]
    rcases passed : Step.performAll (sender.rounds notice text (passBound rig.plan notice))
      (ready text again rig) with ⟨failure | _, last⟩
    · refine Or.inr fun bound more => ?_
      rw [bind_of_error (rounds_of_fewer more passed), bind_of_error passed]
    · refine Or.inl fun bound => ?_
      have awayToo : (ready text again rig).keyboard.active = false := away
      obtain ⟨next, later⟩ := rounds_endless awayToo passed bound
      rw [bind_of_ok later]
      rfl
  · refine Or.inr fun bound _ => ?_
    rw [if_neg repeats, if_neg repeats]

/-- What a script comes to does not depend on what arrives meanwhile. Unless it is repeated without
end, neither does what the adapter notices of it. -/
theorem sendScript_same {rig other : Rig} (alike : rig.Alike other) :
    (sender.sendScript notice text again rig).1 = (sender.sendScript notice text again other).1 ∧
      ((sender.sendScript notice text again rig).1 ≠ .error .unfinished →
        Event.only Event.isSender (sender.sendScript notice text again rig).2.events =
          Event.only Event.isSender (sender.sendScript notice text again other).2.events) := by
  -- Both runs are compared at a bound that is enough for each of them.
  let enough := max (passBound rig.plan notice) (passBound other.plan notice)
  obtain ⟨same, left⟩ := sender.sendWithin_indifferent notice text again enough rig other alike
  rcases sendWithin_settles alike.away.1 with endless | settles
  · rcases sendWithin_settles alike.away.2 with endlessToo | settlesToo
    · have ends : (sender.sendScript notice text again rig).1 = .error .unfinished := endless _
      have endsToo : (sender.sendScript notice text again other).1 = .error .unfinished :=
        endlessToo _
      exact ⟨ends.trans endsToo.symm, fun finished => absurd ends finished⟩
    · have ends : (sender.sendScript notice text again rig).1 = .error .unfinished := endless _
      rw [endless, settlesToo enough (Nat.le_max_right _ _)] at same
      exact ⟨ends.trans same, fun finished => absurd ends finished⟩
  · rcases sendWithin_settles alike.away.2 with endlessToo | settlesToo
    · have endsToo : (sender.sendScript notice text again other).1 = .error .unfinished :=
        endlessToo _
      rw [endlessToo, settles enough (Nat.le_max_left _ _)] at same
      exact ⟨same.trans endsToo.symm, fun finished => absurd same finished⟩
    · rw [settles enough (Nat.le_max_left _ _), settlesToo enough (Nat.le_max_right _ _)]
        at same left
      exact ⟨same, fun _ => left.events⟩

end Sender

end KeyFeed
