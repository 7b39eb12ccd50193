/-
This file says what sending a script again and again leaves behind, whatever happens around
the sender. A step leaves its own events if it passes, and the first few of them if it does
not. So a script whose every directive is accepted leaves, in each pass that is complete, just
what it leaves when it is sent once with nothing in its way, and the beginning of that in the
last pass; in front of every other pass comes the notice of it.
-/

import KeyFeed.Proofs.Typing.Course
import KeyFeed.Proofs.Typing.Endless

namespace KeyFeed

open KeyFeed.Run KeyFeed.Script

/-! ### What shows progress -/

namespace Event

/-- What shows how far sending has come: bytes that the port takes, pauses, and other passes. -/
def isProgress : Event → Bool
  | wrote _ => true
  | slept _ => true
  | repeated _ => true
  | _ => false

/-- The observer is told of another pass. -/
def isNotice : Event → Bool
  | repeated _ => true
  | _ => false

theorem isNotice_of_isWriter {event : Event} (writer : event.isWriter = true) :
    event.isNotice = false := by
  cases event <;> simp_all [isWriter, isNotice]

end Event

/-- What sending has added to the events that show progress, and to the number of the pass. -/
structure Rig.Adds (added : List Event) (passes : Nat) (rig next : Rig) : Prop where
  events : Event.only Event.isProgress next.events =
    Event.only Event.isProgress rig.events ++ added
  pass : next.pass = rig.pass + passes

namespace Rig.Adds

variable {rig next : Rig} {added : List Event} {passes : Nat}

theorem nothing (events : Event.only Event.isProgress next.events =
      Event.only Event.isProgress rig.events) (pass : next.pass = rig.pass) :
    rig.Adds [] 0 next :=
  ⟨events.trans (List.append_nil _).symm, pass⟩

theorem append {first middle last : Rig} {front back : List Event} {earlier later : Nat}
    (begins : first.Adds front earlier middle) (ends : middle.Adds back later last) :
    first.Adds (front ++ back) (earlier + later) last where
  events := by rw [ends.events, begins.events, List.append_assoc]
  pass := by rw [ends.pass, begins.pass, Nat.add_assoc]

/-- What adds nothing afterwards can be left out. -/
theorem before (begins : rig.Adds added passes next) {last : Rig} (ends : next.Adds [] 0 last) :
    rig.Adds added passes last := by
  have whole := begins.append ends
  rwa [List.append_nil] at whole

theorem of_aside (aside : rig.Aside next) : rig.Adds [] 0 next := by
  refine nothing (aside.only_of_foreign fun event => ?_) (by rw [aside.frame])
  cases event <;> simp [Event.isAside, Event.isProgress]

theorem of_keyed (keyed : rig.Keyed next) : rig.Adds [] 0 next := by
  refine nothing (keyed.only_of_foreign fun event => ?_) (by rw [keyed.frame])
  cases event <;> simp [Event.isText, Event.isProgress]

end Rig.Adds

/-! ### One step -/

/-- The steps may fail anywhere: they leave the first of the events, and all of them if they
pass. -/
structure Rig.Begins (whole : List Event) (rig : Rig) (ended : Except Failure Unit × Rig) :
    Prop where
  part : ∃ added, added <+: whole ∧ rig.Adds added 0 ended.2
  all : ended.1 = .ok () → rig.Adds whole 0 ended.2

namespace Rig.Begins

variable {whole : List Event} {rig next : Rig}

theorem of_whole {outcome : Except Failure Unit} (adds : rig.Adds whole 0 next) :
    rig.Begins whole (outcome, next) :=
  ⟨⟨whole, List.prefix_rfl, adds⟩, fun _ => adds⟩

theorem of_error {failure : Failure} {added : List Event} (begun : added <+: whole)
    (adds : rig.Adds added 0 next) : rig.Begins whole (.error failure, next) :=
  ⟨⟨added, begun, adds⟩, nofun⟩

end Rig.Begins

namespace Link

theorem write_begins (bytes : List UInt8) (rig : Rig) :
    rig.Begins [.wrote bytes] (write bytes rig) := by
  have adds_written : rig.Adds [.wrote bytes] 0 (emptied (written bytes rig)) := by
    refine ⟨?_, rfl⟩
    refine (Event.only_push_of_not_sort rfl _).trans ?_
    exact Event.only_push_of_sort rfl rig.events
  have adds_refused : rig.Adds [] 0 (refused bytes rig) :=
    .nothing (Event.only_push_of_not_sort rfl rig.events) rfl
  -- Whatever comes after a failure is no progress.
  have fails (failure : Failure) (next : Rig) :
      next.Adds [] 0 (afterFailure failure next).2 := .of_aside (afterFailure_aside failure next)
  cases held : rig.port.isHeld with
  | false =>
    rw [write_of_lost held]
    exact .of_error List.nil_prefix (.nothing rfl rfl)
  | true =>
    cases taken : rig.plan.fault? .write (rig.tally.write + 1) with
    | some failure =>
      rw [write_of_refused held taken]
      refine ⟨⟨[], List.nil_prefix, adds_refused.before (fails _ _)⟩, fun succeeded => ?_⟩
      have passes : afterFailure failure (refused bytes rig) = (.ok (), _) := Prod.ext succeeded rfl
      exact absurd passes (afterFailure_ne_ok _ _ _)
    | none =>
      cases flushed : rig.plan.fault? .flush (rig.tally.flush + 1) with
      | some failure =>
        rw [write_of_stuck held taken flushed]
        exact .of_whole (adds_written.before (fails _ _))
      | none =>
        rw [write_of_passed held taken flushed]
        exact .of_whole adds_written

end Link

theorem Clock.sleep_begins (duration : Float) (rig : Rig) :
    rig.Begins [.slept duration] (sleep duration rig) := by
  have adds : rig.Adds [.slept duration] 0 (asleep duration rig) :=
    ⟨Event.only_push_of_sort rfl rig.events, rfl⟩
  cases planned : rig.plan.fault? .sleep (rig.tally.sleep + 1) with
  | some failure =>
    rw [sleep_of_planned planned]
    exact .of_whole adds
  | none =>
    rw [sleep_of_begun planned]
    have delivered := Rig.Adds.of_aside (Echo.deliverAll_aside
      (rig.plan.arrivals (rig.tally.sleep + 1)) (asleep duration rig))
    exact .of_whole ((adds.before delivered).before (.of_keyed (Console.passTime_keyed _)))

/-- The events that an observer leaves when a pass begins. -/
def PassNotice.notices (notice : PassNotice) (pass : Nat) : List Event :=
  match notice with
  | observer _ _ => [.repeated pass]
  | _ => []

/-- Another pass begins with its notice, which may end sending. -/
theorem PassNotice.nextPass_adds (notice : PassNotice) (rig : Rig) :
    rig.Adds (notice.notices (rig.pass + 1)) 1 (notice.nextPass rig).2 := by
  have begins : rig.Adds [] 1 (begun rig) :=
    ⟨(Event.only_push_of_not_sort rfl rig.events).trans (List.append_nil _).symm, rfl⟩
  have tells : (begun rig).Adds (notice.notices (rig.pass + 1)) 0
      (notice.tell (rig.pass + 1) (begun rig)).2 := by
    cases notice with
    | silent => exact .nothing rfl rfl
    | observer stopAt closeAt =>
      have told : (begun rig).Adds [.repeated (rig.pass + 1)] 0
          { begun rig with events := (begun rig).events.push (.repeated (rig.pass + 1)) } :=
        ⟨Event.only_push_of_sort rfl _, rfl⟩
      unfold tell
      dsimp only
      rw [record_bind]
      split
      · exact told
      · split
        · have spares := Link.closeLink_spares
            { begun rig with events := (begun rig).events.push (.repeated (rig.pass + 1)) }
          refine told.before (.nothing ?_ (by rw [spares.frame]))
          refine Event.only_of_only (fun event => ?_) spares.events
          cases event <;> simp [Event.isProgress, Event.isSender]
        · exact told
    | output => exact .nothing (Event.only_push_of_not_sort rfl _) rfl
  have whole := begins.append tells
  rwa [List.nil_append] at whole

namespace Step

/-- A step that begins no other pass leaves its events, or the first of them. -/
theorem perform_begins {step : Step} (single : ∀ notice, step ≠ again notice) (rig : Rig) :
    rig.Begins step.events (step.perform rig) := by
  cases step with
  | write bytes => exact Link.write_begins bytes rig
  | sleep duration => exact Clock.sleep_begins duration rig
  | note message =>
    exact .of_whole (.nothing (Event.only_push_of_not_sort rfl rig.events) rfl)
  | again notice => exact absurd rfl (single notice)
  | stop failure => exact .of_whole (.nothing rfl rfl)

theorem performAll_begins {steps : List Step} (single : ∀ notice, again notice ∉ steps)
    (rig : Rig) : rig.Begins (steps.flatMap events) (performAll steps rig) := by
  induction steps generalizing rig with
  | nil => exact .of_whole (.nothing rfl rfl)
  | cons step rest inductionHypothesis =>
    have singleRest : ∀ notice, again notice ∉ rest :=
      fun notice member => single notice (.tail step member)
    have begins := perform_begins
      (fun notice same => single notice (same ▸ List.mem_cons_self)) rig
    rw [performAll_cons, List.flatMap_cons]
    rcases performed : step.perform rig with ⟨failure | _, next⟩
    · rw [performed] at begins
      rw [bind_of_error performed]
      obtain ⟨added, begun, adds⟩ := begins.part
      exact .of_error (begun.trans (List.prefix_append _ _)) adds
    · rw [performed] at begins
      rw [bind_of_ok performed]
      have first := begins.all rfl
      have later := inductionHypothesis singleRest next
      obtain ⟨added, begun, adds⟩ := later.part
      exact ⟨⟨_, (List.prefix_append_right_inj _).mpr begun, first.append adds⟩,
        fun succeeded => first.append (later.all succeeded)⟩

/-- Steps that end well leave all their events. -/
theorem trace_of_outcome {steps : List Step} (well : outcome steps = .ok ()) :
    trace steps = steps.flatMap events := by
  induction steps with
  | nil => rfl
  | cons step rest inductionHypothesis =>
    cases step with
    | stop failure => cases well
    | _ => exact congrArg _ (inductionHypothesis well)

end Step

/-! ### Passes -/

/-- The events of so many complete passes, each with the notice of the pass that follows it. -/
def laps (notice : PassNotice) (once : List Event) (first : Nat) : (count : Nat) → List Event
  | 0 => []
  | count + 1 => once ++ notice.notices (first + 1) ++ laps notice once (first + 1) count

/-- Fewer passes leave the first events of more passes, and so does a pass that is not complete. -/
theorem laps_prefix {notice : PassNotice} {once begun : List Event} (part : begun <+: once)
    {first fewer more : Nat} (less : fewer < more) :
    laps notice once first fewer ++ begun <+: laps notice once first more := by
  induction more generalizing first fewer with
  | zero => exact absurd less (Nat.not_lt_zero fewer)
  | succ more inductionHypothesis =>
    cases fewer with
    | zero => exact part.trans ((List.prefix_append _ _).trans (List.prefix_append _ _))
    | succ fewer =>
      rw [laps, laps, List.append_assoc]
      exact (List.prefix_append_right_inj _).mpr
        (inductionHypothesis (Nat.lt_of_succ_lt_succ less))

/-- The notices of passes are those of the numbers in a row. -/
theorem laps_notices {notice : PassNotice} {once : List Event}
    (silent : once.filter Event.isNotice = []) (first count : Nat) :
    (laps notice once first count).filter Event.isNotice =
      (List.range' (first + 1) count).flatMap notice.notices := by
  induction count generalizing first with
  | zero => rfl
  | succ count inductionHypothesis =>
    have own : (notice.notices (first + 1)).filter Event.isNotice = notice.notices (first + 1) := by
      cases notice <;> rfl
    rw [laps, List.filter_append, List.filter_append, silent, own, inductionHypothesis,
      List.range'_succ]
    rfl

namespace Sender

open Step

/-- Sending in passes never ends well. After so many complete passes it leaves the beginning of one
more. -/
theorem passSteps_course (sender : Sender) (notice : PassNotice) (text : List Char) (bound : Nat)
    (rig : Rig) :
    ∃ count begun, begun <+: (sender.textSteps text).flatMap events ∧
      rig.Adds (laps notice ((sender.textSteps text).flatMap events) rig.pass count ++ begun) count
        (performAll (sender.passSteps notice text bound) rig).2 ∧
      (performAll (sender.passSteps notice text bound) rig).1 ≠ .ok () := by
  induction bound generalizing rig with
  | zero => exact ⟨0, [], List.nil_prefix, .nothing rfl rfl, fun ended => by cases ended⟩
  | succ bound inductionHypothesis =>
    have begins := performAll_begins (sender.again_not_mem_textSteps text) rig
    rw [passSteps, performAll_append]
    rcases passed : performAll (sender.textSteps text) rig with ⟨failure | _, middle⟩
    · rw [passed] at begins
      rw [bind_of_error passed]
      obtain ⟨added, begun, adds⟩ := begins.part
      exact ⟨0, added, begun, adds, fun ended => by cases ended⟩
    · rw [passed] at begins
      rw [bind_of_ok passed, performAll_cons]
      have complete := begins.all rfl
      have notes := complete.append (notice.nextPass_adds middle)
      rw [complete.pass] at notes
      rcases told : (again notice).perform middle with ⟨failure | _, next⟩
      · rw [show notice.nextPass middle = _ from told] at notes
        rw [bind_of_error told]
        refine ⟨1, [], List.nil_prefix, ?_, fun ended => by cases ended⟩
        simpa [laps] using notes
      · rw [show notice.nextPass middle = _ from told] at notes
        rw [bind_of_ok told]
        obtain ⟨count, begun, part, adds, unending⟩ := inductionHypothesis next
        refine ⟨count + 1, begun, part, ?_, unending⟩
        have whole := notes.append adds
        rw [notes.pass] at whole
        rw [laps]
        simpa [Nat.add_comm, List.append_assoc] using whole

/-- A script that has text is sent in passes. -/
theorem sendWithin_again (sender : Sender) {text : List Char} (nonempty : text ≠ [])
    (notice : PassNotice) (bound : Nat) (rig : Rig) :
    sender.sendWithin bound notice text true rig =
      performAll (sender.passSteps notice text bound) { rig with pass := 1 } := by
  have repeats : (true && !text.isEmpty) = true := by simpa using nonempty
  have loud : (true && text.isEmpty) = false := by simpa using nonempty
  rw [sendWithin_apply, scriptSteps, if_pos repeats, ready, loud]
  rfl

/-- A script without text is one empty line, for which nothing is sent. -/
theorem sendWithin_nil (sender : Sender) (notice : PassNotice) (bound : Nat) (rig : Rig) :
    sender.sendWithin bound notice [] true rig = (.ok (), ready [] true rig) :=
  sender.sendWithin_apply bound notice [] true rig

/-- What a script leaves when it is sent once with nothing in its way are the events of its
steps. -/
theorem once_eq (sender : Sender) {text : List Char} {once : List Event} {calm : Rig}
    (isCalm : calm.Calm) (returns : (sender.sendScript .silent text false calm).1 = .ok ())
    (left : Event.only Event.isWriter (sender.sendScript .silent text false calm).2.events =
      Event.only Event.isWriter calm.events ++ once) :
    once = (sender.textSteps text).flatMap events ∧ ∀ event ∈ once, event.isWriter = true := by
  obtain ⟨ended, traced⟩ := sender.sendScript_calm isCalm .silent text
  rw [left, trace_of_outcome (ended.symm.trans returns)] at traced
  refine ⟨List.append_cancel_left traced, fun event member => ?_⟩
  have among := List.mem_append_right (Event.only Event.isWriter calm.events) member
  rw [← left] at among
  exact (List.mem_filter.mp among).2

/-- A script that is sent again and again leaves what it leaves when it is sent once with nothing in
its way, then the notice of the second pass, then the same once more, and so on, whatever
happens around it: so many complete passes, each with the notice of the next one, and at last
the beginning of one more. So the notices are those of the second pass up to the last one, in
their order. It does not end well. A script without text is sent once, as if it was not to be
repeated. -/
theorem sendWithin_repeats (sender : Sender) (notice : PassNotice) (bound : Nat) (rig : Rig) :
    (∀ (text : List Char) (once : List Event) (calm : Rig), text ≠ [] → calm.Calm →
      (sender.sendScript .silent text false calm).1 = .ok () →
      Event.only Event.isWriter (sender.sendScript .silent text false calm).2.events =
        Event.only Event.isWriter calm.events ++ once →
      let sent := sender.sendWithin bound notice text true rig
      1 ≤ sent.2.pass ∧ sent.1 ≠ .ok () ∧
        ∃ added, Event.only Event.isProgress sent.2.events =
            Event.only Event.isProgress rig.events ++ added ∧
          (∃ begun, begun <+: once ∧ added = laps notice once 1 (sent.2.pass - 1) ++ begun) ∧
          (∀ more, sent.2.pass ≤ more → added <+: laps notice once 1 more) ∧
          added.filter Event.isNotice =
            (List.range' 2 (sent.2.pass - 1)).flatMap notice.notices) ∧
      let sent := sender.sendWithin bound notice [] true rig
      let single := sender.sendScript notice [] false rig
      sent.1 = .ok () ∧ single.1 = .ok () ∧ sent.2.pass = 1 ∧
        Event.only Event.isProgress sent.2.events =
          Event.only Event.isProgress single.2.events := by
  constructor
  · intro text once calm nonempty isCalm returns left sent
    obtain ⟨same, writes⟩ := sender.once_eq isCalm returns left
    have silent : ∀ {part : List Event}, part <+: once → part.filter Event.isNotice = [] := by
      intro part begins
      refine List.filter_eq_nil_iff.mpr fun event member => ?_
      simp [Event.isNotice_of_isWriter (writes event (begins.subset member))]
    have sends : sent = performAll (sender.passSteps notice text bound) { rig with pass := 1 } :=
      sender.sendWithin_again nonempty notice bound rig
    obtain ⟨count, begun, part, adds, unending⟩ :=
      sender.passSteps_course notice text bound { rig with pass := 1 }
    rw [← same] at part adds
    rw [← sends] at adds unending
    have passes : sent.2.pass = 1 + count := adds.pass
    have complete : sent.2.pass - 1 = count := by omega
    refine ⟨by omega, unending, _, adds.events, ⟨begun, part, by rw [complete]⟩, ?_, ?_⟩
    · exact fun more less => laps_prefix part (by omega)
    · rw [List.filter_append, silent part, List.append_nil, complete,
        laps_notices (silent List.prefix_rfl)]
  · intro sent single
    have sends : sent = (.ok (), ready [] true rig) := sender.sendWithin_nil notice bound rig
    have once : single = (.ok (), ready [] false rig) := sender.sendScript_apply notice [] false rig
    rw [sends, once]
    exact ⟨rfl, rfl, rfl, Event.only_push_of_not_sort rfl rig.events⟩

/-- The port refuses the character of the second pass. -/
theorem sendWithin_repeats_until_refused :
    let calm : Rig := { plan := {}, settings := { port := "COM3" }, port := .held true }
    let rig : Rig := { calm with plan := { faults := [⟨.write, 2, .transport "gone"⟩] } }
    let sent := sendWithin {} 5 (.observer none none) ['a'] true rig
    calm.Calm ∧ sent.2.pass = 2 ∧ sent.1 ≠ .ok () ∧
      ∃ begun, begun <+: [.wrote [0x61], .slept 0.042] ∧
        Event.only Event.isProgress sent.2.events =
          [.wrote [0x61], .slept 0.042, .repeated 2] ++ begun := by
  intro calm rig sent
  have isCalm : calm.Calm := ⟨rfl, nofun, rfl, rfl⟩
  have returns : (sendScript {} .silent ['a'] false calm).1 = .ok () := by
    rw [sendScript_once]
    rfl
  have left : Event.only Event.isWriter (sendScript {} .silent ['a'] false calm).2.events =
      Event.only Event.isWriter calm.events ++ [.wrote [0x61], .slept 0.042] := by
    rw [sendScript_once]
    rfl
  have passes : sent.2.pass = 2 := by
    show (sendWithin {} 5 (.observer none none) ['a'] true rig).2.pass = 2
    rw [sendWithin_apply]
    rfl
  obtain ⟨repeats, -⟩ := sendWithin_repeats {} (.observer none none) 5 rig
  obtain ⟨-, unending, added, leaves, ⟨begun, part, shape⟩, -, -⟩ :=
    repeats ['a'] _ calm (by decide) isCalm returns left
  refine ⟨isCalm, passes, unending, begun, part, leaves.trans ?_⟩
  rw [shape, show (sendWithin {} 5 (.observer none none) ['a'] true rig).2.pass = 2 from passes]
  rfl

end Sender

end KeyFeed
