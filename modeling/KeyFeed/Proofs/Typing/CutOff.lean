/-
This file says how the echo listener can reach the sender at all. It cannot, unless a read
fails at the transport: then the listener drops the port, and the sender finds out with its
next write. A pause never follows another pause without a write between them, so nothing is
written and no pause is made after the one during which the link was lost. A script that
has nothing left to write ends as if nothing had happened.
-/

import KeyFeed.Proofs.Typing.Alike
import KeyFeed.Proofs.Typing.Course
import KeyFeed.Proofs.Typing.Planted

namespace KeyFeed

open KeyFeed.Run

open Rig (Quiet Reads)

/-! ### A session that serves the sender -/

/-- Neither the sender nor the observer of the echo meets a fault. -/
def Plan.Serves (plan : Plan) : Prop :=
  ∀ point count, (point.isSending = true ∨ point = .sink) → plan.fault? point count = none

/-- Only bytes arrive during the sleep of a count, or none when the time limit passes. -/
def Plan.BringsBytes (plan : Plan) (count : Nat) : Prop :=
  ∀ arrival ∈ plan.arrivals count, ∃ bytes, arrival = .bytes bytes

/-- A session goes on, its listener reads a port that the link holds, and nobody meets a fault. -/
structure Rig.Served (rig : Rig) : Prop where
  running : rig.running = true
  listener : rig.listener = .listening
  held : rig.port.isHeld = true
  away : rig.keyboard.active = false
  plan : rig.plan.Serves

theorem Rig.Served.of_reads {rig next : Rig} (served : rig.Served) (reads : rig.Reads next)
    (port : next.port = rig.port) : next.Served := by
  rw [show next = _ from reads] at port ⊢
  exact ⟨served.running, served.listener, port ▸ served.held, served.away, served.plan⟩

/-- Bytes are shown, and the listener reads on. -/
theorem Rig.Served.deliverAll {rig : Rig} (served : rig.Served) {arrivals : List Arrival}
    (bytes : ∀ arrival ∈ arrivals, ∃ bytes, arrival = .bytes bytes) :
    rig.Quiet (Echo.deliverAll arrivals rig).2 ∧ (Echo.deliverAll arrivals rig).2.Served := by
  obtain ⟨quiet, reads⟩ := Echo.deliverAll_bytes (fun count => served.plan .sink count (Or.inr rfl))
    served.running served.held bytes
  exact ⟨quiet, served.of_reads reads quiet.samePort⟩

namespace Echo

theorem deliverAll_append (front back : List Arrival) (rig : Rig) :
    (deliverAll (front ++ back) rig).2 = (deliverAll back (deliverAll front rig).2).2 := by
  induction front generalizing rig with
  | nil => rfl
  | cons arrival rest inductionHypothesis =>
    rw [List.cons_append, deliverAll, deliverAll, bind_of_ok ((deliver_neverFails _).apply rig),
      bind_of_ok ((deliver_neverFails _).apply rig)]
    exact inductionHypothesis _

/-- A read that fails at the transport costs the link its port, which does not come back. -/
theorem deliverAll_cut {rig : Rig} (served : rig.Served) {before after : List Arrival}
    {failure : Failure} (bytes : ∀ arrival ∈ before, ∃ bytes, arrival = .bytes bytes)
    (transport : failure.isTransport = true) :
    (deliverAll (before ++ .failure failure :: after) rig).2.port = .none := by
  have listening := (served.deliverAll bytes).2.listener
  have dropped : (deliver (.failure failure) (deliverAll before rig).2).2.port = .none := by
    unfold deliver
    rw [look_bind, if_pos listening]
    have fault : (Arrival.failure failure).isFault = true := transport
    exact advance_drops fault _
  rw [deliverAll_append, deliverAll, bind_of_ok ((deliver_neverFails _).apply _)]
  exact (deliverAll_aside after _).port.none dropped

end Echo

/-! ### Steps -/

/-- The state after a step, beside the state before: what the sender can rely on. -/
structure Rig.Passes (step : Step) (rig next : Rig) : Prop where
  plan : next.plan = rig.plan
  settings : next.settings = rig.settings
  slept : next.tally.sleep = rig.tally.sleep + if step.isSleep then 1 else 0
  events : Event.only Event.isSender next.events =
    Event.only Event.isSender rig.events ++ step.events

theorem Clock.asleep_passes (duration : Float) {rig next : Rig}
    (aside : (asleep duration rig).Aside next) : rig.Passes (.sleep duration) next where
  plan := aside.plan
  settings := by rw [aside.frame]; rfl
  slept := aside.tally .sleep nofun nofun
  events := (Rig.Spares.of_aside aside).events.trans (Event.only_push_of_sort rfl rig.events)

namespace Rig.Served

variable {rig : Rig}

/-- While bytes arrive, a step passes. -/
theorem perform (served : rig.Served) {step : Step} (plain : step.isPlain = true)
    (bytes : step.isSleep = true → rig.plan.BringsBytes (rig.tally.sleep + 1)) :
    ∃ next, step.perform rig = (.ok (), next) ∧ next.Served ∧ rig.Passes step next := by
  cases step with
  | write text =>
    refine ⟨_, Link.write_of_passed served.held (served.plan .write _ (Or.inl rfl))
      (served.plan .flush _ (Or.inl rfl)) text, { served with }, rfl, rfl, rfl, ?_⟩
    refine (Event.only_push_of_not_sort rfl _).trans ?_
    exact Event.only_push_of_sort rfl rig.events
  | sleep duration =>
    have asleep : (Clock.asleep duration rig).Served := { served with }
    obtain ⟨quiet, still⟩ := asleep.deliverAll (bytes rfl)
    exact ⟨_, Clock.sleep_of_passed served.away (served.plan .sleep _ (Or.inl rfl)) duration, still,
      Clock.asleep_passes duration quiet.toAside⟩
  | note message =>
    refine ⟨_, log_apply .debug message rig, { served with }, rfl, rfl, rfl, ?_⟩
    exact (Event.only_push_of_not_sort rfl rig.events).trans (List.append_nil _).symm
  | again notice => cases plain
  | stop failure => cases plain

/-- The link is lost during a sleep, which the sender does not notice. -/
theorem sleep_cut (served : rig.Served) {before after : List Arrival} {failure : Failure}
    (arrives : rig.plan.arrivals (rig.tally.sleep + 1) = before ++ .failure failure :: after)
    (bytes : ∀ arrival ∈ before, ∃ bytes, arrival = .bytes bytes)
    (transport : failure.isTransport = true) (duration : Float) :
    ∃ next, Clock.sleep duration rig = (.ok (), next) ∧ next.port = .none ∧
      rig.Passes (.sleep duration) next := by
  have asleep : (Clock.asleep duration rig).Served := { served with }
  refine ⟨_, Clock.sleep_of_passed served.away (served.plan .sleep _ (Or.inl rfl)) duration, ?_,
    Clock.asleep_passes duration (Echo.deliverAll_aside _ _)⟩
  rw [arrives]
  exact Echo.deliverAll_cut asleep bytes transport

end Rig.Served

namespace Step

theorem trace_cons {step : Step} (plain : step.isPlain = true) (rest : List Step) :
    trace (step :: rest) = step.events ++ trace rest := by
  cases step with
  | again notice => cases plain
  | stop failure => cases plain
  | _ => rfl

theorem outcome_cons {step : Step} (plain : step.isPlain = true) (rest : List Step) :
    outcome (step :: rest) = outcome rest := by
  cases step with
  | again notice => cases plain
  | stop failure => cases plain
  | _ => rfl

/-- A step that is neither a call nor a record ends sending, unless another pass begins. -/
theorem eq_stop_of_not_plain {step : Step} (special : step.isPlain = false)
    (single : ∀ notice, step ≠ again notice) : ∃ failure, step = stop failure := by
  cases step with
  | again notice => exact absurd rfl (single notice)
  | stop failure => exact ⟨failure, rfl⟩
  | _ => cases special

variable {rig : Rig}

/-- While bytes arrive, steps end as they say, and the adapter notices just their events. -/
theorem performAll_served (served : rig.Served) (bytes : ∀ count, rig.plan.BringsBytes count)
    {steps : List Step} (single : ∀ notice, again notice ∉ steps) :
    (performAll steps rig).1 = outcome steps ∧
      Event.only Event.isSender (performAll steps rig).2.events =
        Event.only Event.isSender rig.events ++ trace steps := by
  induction steps generalizing rig with
  | nil => exact ⟨rfl, (List.append_nil _).symm⟩
  | cons step rest inductionHypothesis =>
    have singleRest : ∀ notice, again notice ∉ rest :=
      fun notice member => single notice (.tail step member)
    cases plain : step.isPlain with
    | true =>
      obtain ⟨next, performed, still, passes⟩ := served.perform plain fun _ => bytes _
      obtain ⟨ended, left⟩ :=
        inductionHypothesis still (by rw [passes.plan]; exact bytes) singleRest
      rw [performAll_cons, bind_of_ok performed, trace_cons plain, outcome_cons plain]
      refine ⟨ended, ?_⟩
      rw [left, passes.events, List.append_assoc]
    | false =>
      obtain ⟨failure, rfl⟩ := eq_stop_of_not_plain plain
        fun notice same => single notice (same ▸ List.mem_cons_self)
      exact ⟨rfl, (List.append_nil _).symm⟩

end Step

/-! ### Steps whose link is lost -/

/-- The events up to and with a pause, which is counted among them; all of them if there are fewer
pauses. -/
def Event.throughPause : Nat → List Event → List Event
  | 0, _ => []
  | _ + 1, [] => []
  | count + 1, slept duration :: rest => slept duration :: throughPause count rest
  | count + 1, event :: rest => event :: throughPause (count + 1) rest

namespace Step

open Event (throughPause)

theorem throughPause_zero (events : List Event) : throughPause 0 events = [] := by
  unfold throughPause
  rfl

theorem throughPause_step (step : Step) (count : Nat) (events : List Event) :
    throughPause (count + 1) (step.events ++ events) =
      step.events ++ throughPause (if step.isSleep then count else count + 1) events := by
  cases step <;> rfl

/-- How steps end whose link is lost during a pause: they leave their events up to that pause. They
end as they say if these are all of their events; otherwise the link is found not to be
open. -/
structure Cut (count : Nat) (steps : List Step) (rig : Rig) (ended : Except Failure Unit × Rig) :
    Prop where
  events : Event.only Event.isSender ended.2.events =
    Event.only Event.isSender rig.events ++ throughPause count (trace steps)
  whole : throughPause count (trace steps) = trace steps → ended.1 = outcome steps
  cut : throughPause count (trace steps) ≠ trace steps →
    ended.1 = .error (.link (.notOpen rig.settings.port))

variable {rig next : Rig} {ended : Except Failure Unit × Rig} {count : Nat}

theorem Cut.of_silent {steps : List Step} (silent : trace steps = [])
    (same : ended.1 = outcome steps)
    (left : Event.only Event.isSender ended.2.events = Event.only Event.isSender rig.events) :
    Cut count steps rig ended where
  events := by
    rw [left, silent]
    cases count <;> exact (List.append_nil _).symm
  whole _ := same
  cut more := by
    rw [silent] at more
    cases count <;> exact absurd rfl more

/-- A step that passes comes before. -/
theorem Cut.cons {step : Step} {rest : List Step} (plain : step.isPlain = true)
    (passes : rig.Passes step next)
    (cut : Cut (if step.isSleep then count else count + 1) rest next ended) :
    Cut (count + 1) (step :: rest) rig ended where
  events := by
    rw [cut.events, passes.events, trace_cons plain, throughPause_step, List.append_assoc]
  whole all := by
    rw [trace_cons plain, throughPause_step] at all
    rw [cut.whole (List.append_cancel_left all), outcome_cons plain]
  cut more := by
    rw [trace_cons plain, throughPause_step] at more
    rw [cut.cut fun all => more (congrArg _ all), passes.settings]

/-- Without a port the next write fails. Steps that begin with no pause leave no event then. -/
theorem performAll_lost (lost : rig.port = .none) {steps : List Step}
    (fedSteps : fed false steps = true) (single : ∀ notice, again notice ∉ steps) :
    Cut 0 steps rig (performAll steps rig) := by
  induction steps generalizing rig with
  | nil => exact .of_silent rfl rfl rfl
  | cons step rest inductionHypothesis =>
    simp only [fed, Bool.and_eq_true] at fedSteps
    have singleRest : ∀ notice, again notice ∉ rest :=
      fun notice member => single notice (.tail step member)
    cases step with
    | write bytes =>
      have dropped : rig.port.isHeld = false := by
        rw [lost]
        rfl
      have failed : (write bytes).perform rig = _ := Link.write_of_lost dropped bytes
      rw [performAll_cons, bind_of_error failed]
      refine ⟨?_, fun silent => absurd silent.symm (List.cons_ne_nil _ _), fun _ => rfl⟩
      rw [throughPause_zero]
      exact (List.append_nil _).symm
    | sleep duration => exact absurd fedSteps.1 (by simp [isSleep])
    | note message =>
      have lostToo : { rig with
          events := rig.events.push (.logged .debug message) }.port = .none := lost
      have rest := inductionHypothesis lostToo fedSteps.2 singleRest
      have left := rest.events
      rw [Event.only_push_of_not_sort rfl] at left
      exact ⟨left, rest.whole, rest.cut⟩
    | again notice => exact absurd List.mem_cons_self (single notice)
    | stop failure => exact .of_silent rfl rfl rfl

theorem performAll_cut (served : rig.Served) {before after : List Arrival} {failure : Failure}
    (early : ∀ earlier, rig.tally.sleep < earlier → earlier ≤ rig.tally.sleep + count →
      rig.plan.BringsBytes earlier)
    (arrives : rig.plan.arrivals (rig.tally.sleep + (count + 1)) =
      before ++ .failure failure :: after)
    (bytes : ∀ arrival ∈ before, ∃ bytes, arrival = .bytes bytes)
    (transport : failure.isTransport = true) {steps : List Step} {written : Bool}
    (fedSteps : fed written steps = true) (single : ∀ notice, again notice ∉ steps) :
    Cut (count + 1) steps rig (performAll steps rig) := by
  induction steps generalizing rig count written with
  | nil => exact .of_silent rfl rfl rfl
  | cons step rest inductionHypothesis =>
    simp only [fed, Bool.and_eq_true] at fedSteps
    have singleRest : ∀ notice, again notice ∉ rest :=
      fun notice member => single notice (.tail step member)
    -- A step before that pause passes, and leaves it ahead.
    have goesOn (plain : step.isPlain = true) (left : Nat)
        (ahead : left + (if step.isSleep then 1 else 0) = count) :
        Cut (count + 1) (step :: rest) rig (performAll (step :: rest) rig) := by
      have brings : step.isSleep = true → rig.plan.BringsBytes (rig.tally.sleep + 1) := by
        intro sleeps
        rw [if_pos sleeps] at ahead
        exact early _ (Nat.lt_succ_self _) (by omega)
      obtain ⟨next, performed, still, passes⟩ := served.perform plain brings
      have counted := passes.slept
      have later : (if step.isSleep then count else count + 1) = left + 1 := by
        split at ahead <;> simp_all
      rw [performAll_cons, bind_of_ok performed]
      refine .cons plain passes ?_
      rw [later]
      refine inductionHypothesis still (fun earlier more less => ?_) ?_ fedSteps.2 singleRest
      · rw [passes.plan]
        exact early earlier (by omega) (by omega)
      · rw [passes.plan, ← arrives]
        congr 1
        omega
    cases step with
    | write text => exact goesOn rfl count rfl
    | note message => exact goesOn rfl count rfl
    | again notice => exact absurd List.mem_cons_self (single notice)
    | stop failure => exact .of_silent rfl rfl rfl
    | sleep duration =>
      cases count with
      | succ left => exact goesOn rfl left rfl
      | zero =>
        obtain ⟨next, slept, lost, passes⟩ := served.sleep_cut arrives bytes transport duration
        have performed : (sleep duration).perform rig = (.ok (), next) := slept
        rw [performAll_cons, bind_of_ok performed]
        exact .cons rfl passes (performAll_lost lost fedSteps.2 singleRest)

end Step

/-- The rig with another plan. -/
def Rig.under (plan : Plan) (rig : Rig) : Rig := { rig with plan := plan }

namespace Sender

open Event (throughPause)

/-- While bytes arrive, a script that is sent once leaves just the events of its steps. -/
theorem sendScript_served (sender : Sender) (notice : PassNotice) (text : List Char) {rig : Rig}
    (served : rig.Served) (bytes : ∀ count, rig.plan.BringsBytes count) :
    (sender.sendScript notice text false rig).1 = Step.outcome (sender.textSteps text) ∧
      Event.only Event.isSender (sender.sendScript notice text false rig).2.events =
        Event.only Event.isSender rig.events ++ Step.trace (sender.textSteps text) := by
  have begun : { rig with pass := 1 }.Served := { served with }
  rw [sendScript_once]
  exact Step.performAll_served begun bytes (sender.again_not_mem_textSteps text)

/-- What arrives while a script is sent. As long as no read fails at the transport, it makes no
difference: with the same faults for the sender and the link, two runs of the script come to
the same, and so does what the adapter notices of them, pass by pass. When a read fails at the
transport during a pause, in a session that is open and meets no fault otherwise, the script
goes as far as that pause. If it has more to write it fails there, with a link that is not
open; if not, it ends as it would have otherwise. -/
theorem sendScript_undisturbed (sender : Sender) (notice : PassNotice) (text : List Char)
    {rig : Rig} (away : rig.keyboard.active = false) :
    (∀ (again : Bool) (first second : Plan), first.Agrees second →
      (∀ count, first.Delivers count ∧ second.Delivers count) →
      let one := rig.under first
      let other := rig.under second
      (∀ bound,
        (sender.sendWithin bound notice text again one).1 =
            (sender.sendWithin bound notice text again other).1 ∧
          Event.only Event.isSender (sender.sendWithin bound notice text again one).2.events =
            Event.only Event.isSender (sender.sendWithin bound notice text again other).2.events) ∧
        (sender.sendScript notice text again one).1 =
          (sender.sendScript notice text again other).1 ∧
        ((sender.sendScript notice text again one).1 ≠ .error .unfinished →
          Event.only Event.isSender (sender.sendScript notice text again one).2.events =
            Event.only Event.isSender (sender.sendScript notice text again other).2.events)) ∧
      (rig.running = true → rig.listener = .listening → rig.port.isOpen = true →
        ∀ (calm cut : Plan) (sleeps : Nat) (before after : List Arrival) (failure : Failure),
        calm.Serves → (∀ count, calm.BringsBytes count) → cut.Serves →
        (∀ count, rig.tally.sleep < count → count ≤ rig.tally.sleep + sleeps →
          cut.BringsBytes count) →
        cut.arrivals (rig.tally.sleep + (sleeps + 1)) = before ++ .failure failure :: after →
        (∀ arrival ∈ before, ∃ bytes, arrival = .bytes bytes) → failure.isTransport = true →
        let undisturbed := sender.sendScript notice text false (rig.under calm)
        let disturbed := sender.sendScript notice text false (rig.under cut)
        ∃ added,
          Event.only Event.isSender undisturbed.2.events =
              Event.only Event.isSender rig.events ++ added ∧
            Event.only Event.isSender disturbed.2.events =
              Event.only Event.isSender rig.events ++ throughPause (sleeps + 1) added ∧
            (throughPause (sleeps + 1) added = added → disturbed.1 = undisturbed.1) ∧
            (throughPause (sleeps + 1) added ≠ added →
              disturbed.1 = .error (.link (.notOpen rig.settings.port)))) := by
  constructor
  · intro again first second agrees delivers one other
    have alike : one.Alike other :=
      ⟨agrees, delivers, rfl, rfl, rfl, ⟨away, away⟩, fun _ _ => rfl, fun _ => rfl, rfl⟩
    refine ⟨fun bound => ?_, sendScript_same alike⟩
    obtain ⟨same, left⟩ := sender.sendWithin_indifferent notice text again bound one other alike
    exact ⟨same, left.events⟩
  · intro running listening isOpen calm cut sleeps before after failure serves brings servesToo
      early arrives bytes transport undisturbed disturbed
    have held := HeldPort.isHeld_of_isOpen isOpen
    have served : (rig.under calm).Served := ⟨running, listening, held, away, serves⟩
    have servedToo : { rig.under cut with pass := 1 }.Served :=
      ⟨running, listening, held, away, servesToo⟩
    obtain ⟨ended, left⟩ := sender.sendScript_served notice text served brings
    have ends := Step.performAll_cut servedToo early arrives bytes transport
      (sender.textSteps_fed text) (sender.again_not_mem_textSteps text)
    rw [← sender.sendScript_once notice] at ends
    exact ⟨_, left, ends.events, fun all => (ends.whole all).trans ended.symm, ends.cut⟩

/-- A port that goes away while the sender pauses after the first of two characters, and text that
cannot be shown. -/
theorem sendScript_undisturbed_unless_cut :
    let rig : Rig :=
      { plan := {}
        settings := { port := "COM3" }
        port := .held true
        running := true
        listener := .listening }
    let odd : Plan :=
      { faults := [⟨.sink, 1, .other "odd"⟩], duringSleep := [(1, [.bytes [0x41]])] }
    let cut : Plan := { duringSleep := [(1, [.failure (.transport "gone")])] }
    rig.keyboard.active = false ∧ odd.Agrees {} ∧
      (sendScript {} .silent "ab".toList true (rig.under odd)).1 =
        (sendScript {} .silent "ab".toList true (rig.under {})).1 ∧
      Event.only Event.isSender (sendScript {} .silent "ab".toList false (rig.under cut)).2.events =
        [.wrote [0x61], .slept 0.042] ∧
      (sendScript {} .silent "ab".toList false (rig.under cut)).1 =
        .error (.link (.notOpen "COM3")) := by
  intro rig odd cut
  have away : rig.keyboard.active = false := rfl
  have agrees : odd.Agrees {} := by
    intro point count shown
    simp [odd, Plan.fault?, shown.symm]
  have delivers : ∀ count, odd.Delivers count ∧ ({} : Plan).Delivers count := by
    refine fun count => ⟨fun arrival member => ?_, fun arrival member => by cases member⟩
    obtain ⟨planned, isPlanned, arrives⟩ := Plan.mem_duringSleep_of_mem_arrivals member
    cases List.mem_singleton.mp isPlanned
    cases List.mem_singleton.mp arrives
    rfl
  have calm : ∀ count, ({} : Plan).BringsBytes count := by
    intro count arrival member
    cases member
  have serves (plan : Plan) (faultless : plan.faults = []) : plan.Serves := by
    intro point count _
    rw [Plan.fault?, faultless]
    rfl
  obtain ⟨alike, overheard⟩ := sendScript_undisturbed {} .silent "ab".toList away
  obtain ⟨added, left, cutShort, _, fails⟩ := overheard rfl rfl rfl {} cut 0 [] []
    (.transport "gone") (serves _ rfl) calm (serves _ rfl) (fun _ more less => by omega) rfl
    (fun arrival member => by cases member) rfl
  have served : (rig.under {}).Served := ⟨rfl, rfl, rfl, rfl, serves _ rfl⟩
  have shown := (sendScript_served {} .silent "ab".toList served calm).2
  have traced : Step.trace (textSteps {} "ab".toList) =
      [.wrote [0x61], .slept 0.042, .wrote [0x62], .slept 0.042] := by rfl
  rw [traced] at shown
  obtain rfl := List.append_cancel_left (left.symm.trans shown)
  have shorter : throughPause 1 [.wrote [0x61], .slept 0.042, .wrote [0x62], .slept 0.042] ≠
      [.wrote [0x61], .slept 0.042, .wrote [0x62], .slept 0.042] :=
    fun same => absurd (congrArg List.length same) (by decide)
  exact ⟨away, agrees, (alike true odd {} agrees delivers).2.1, cutShort, fails shorter⟩

end Sender

end KeyFeed
