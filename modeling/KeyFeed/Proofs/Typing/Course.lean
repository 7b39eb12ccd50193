/-
This file says what sending a script comes to when nothing goes wrong around it. A rig
is calm when the link is open, no call is planned to fail, nothing but bytes arrives at
a listener, and the console is not in use. A calm rig stays calm through every step, so
sending leaves exactly the events of its steps, and only the script itself can end it
early. The course of a script says which events these are, piece by piece.
-/

import KeyFeed.Proofs.Typing.Calls
import KeyFeed.Proofs.Typing.Steps

namespace KeyFeed

open KeyFeed.Run KeyFeed.Script

/-! ### What steps leave behind -/

namespace Step

/-- What the adapter notices of a step that passes. -/
def events : Step → List Event
  | write bytes => [.wrote bytes]
  | sleep duration => [.slept duration]
  | _ => []

/-- What the adapter notices of steps that pass, up to the one that ends sending. -/
def trace : List Step → List Event
  | [] => []
  | stop _ :: _ => []
  | step :: rest => step.events ++ trace rest

/-- How steps end that pass, up to the one that ends sending. -/
def outcome : List Step → Except Failure Unit
  | [] => .ok ()
  | stop failure :: _ => .error failure
  | _ :: rest => outcome rest

/-- The step is a call or a record; neither does it end sending nor begin another pass. -/
def isPlain : Step → Bool
  | again _ => false
  | stop _ => false
  | _ => true

theorem trace_append {front : List Step} (plain : ∀ step ∈ front, step.isPlain = true)
    (back : List Step) : trace (front ++ back) = front.flatMap events ++ trace back := by
  induction front with
  | nil => rfl
  | cons step rest inductionHypothesis =>
    have plainRest := inductionHypothesis fun other member => plain other (.tail step member)
    have plainStep := plain step List.mem_cons_self
    cases step with
    | again notice => cases plainStep
    | stop failure => cases plainStep
    | _ => simp [trace, plainRest]

theorem outcome_append {front : List Step} (plain : ∀ step ∈ front, step.isPlain = true)
    (back : List Step) : outcome (front ++ back) = outcome back := by
  induction front with
  | nil => rfl
  | cons step rest inductionHypothesis =>
    have plainRest := inductionHypothesis fun other member => plain other (.tail step member)
    have plainStep := plain step List.mem_cons_self
    cases step with
    | again notice => cases plainStep
    | stop failure => cases plainStep
    | _ => exact plainRest

end Step

/-! ### Calm rigs -/

/-- Nothing goes wrong around the sender. -/
structure Rig.Calm (rig : Rig) : Prop where
  /-- No call is planned to fail. -/
  faults : rig.plan.faults = []
  /-- Nothing but bytes arrives, if anybody listens. -/
  arrivals : rig.listener = .listening →
    ∀ planned ∈ rig.plan.duringSleep, ∀ arrival ∈ planned.2, ∃ bytes, arrival = .bytes bytes
  /-- The link is open. -/
  port : rig.port.isOpen = true
  /-- The console is not in use. -/
  keyboard : rig.keyboard.active = false

theorem Plan.mem_duringSleep_of_mem_arrivals {plan : Plan} {count : Nat} {arrival : Arrival}
    (member : arrival ∈ plan.arrivals count) :
    ∃ planned ∈ plan.duringSleep, arrival ∈ planned.2 := by
  unfold Plan.arrivals at member
  cases found : plan.duringSleep.lookup count with
  | none =>
    rw [found] at member
    cases member
  | some arrivals =>
    obtain ⟨front, back, shape, _⟩ := List.lookup_eq_some_iff.mp found
    rw [found] at member
    refine ⟨(count, arrivals), ?_, member⟩
    rw [shape]
    exact List.mem_append_right front List.mem_cons_self

namespace Rig.Calm

variable {rig next : Rig}

theorem fault?_eq_none (calm : rig.Calm) (point : Point) (count : Nat) :
    rig.plan.fault? point count = none := by
  rw [Plan.fault?, calm.faults]
  rfl

theorem of_quiet (calm : rig.Calm) (quiet : rig.Quiet next) : next.Calm where
  faults := by rw [quiet.plan]; exact calm.faults
  arrivals := by rw [quiet.plan]; exact fun listening => calm.arrivals (quiet.listener listening)
  port := by rw [quiet.samePort]; exact calm.port
  keyboard := by rw [quiet.keyboard]; exact calm.keyboard

/-- What arrives during a sleep leaves the port alone. -/
theorem deliverAll (calm : rig.Calm) (count : Nat) :
    rig.Quiet (Echo.deliverAll (rig.plan.arrivals count) rig).2 := by
  by_cases listening : rig.listener = .listening
  · refine Echo.deliverAll_quiet (fun arrival member => ?_) rig
    obtain ⟨planned, isPlanned, arrives⟩ := Plan.mem_duringSleep_of_mem_arrivals member
    exact calm.arrivals listening planned isPlanned arrival arrives
  · rw [Echo.deliverAll_of_deaf listening]
    exact Std.Refl.refl rig

/-- On a calm rig a step passes, and the adapter notices just its events. -/
theorem perform (calm : rig.Calm) {step : Step} (plain : step.isPlain = true) :
    ∃ next, step.perform rig = (.ok (), next) ∧ next.Calm ∧
      Event.only Event.isWriter next.events =
        Event.only Event.isWriter rig.events ++ step.events := by
  cases step with
  | write bytes =>
    refine ⟨_, Link.write_of_passed (HeldPort.isHeld_of_isOpen calm.port)
      (calm.fault?_eq_none _ _) (calm.fault?_eq_none _ _) bytes, ?_, ?_⟩
    · exact ⟨calm.faults, calm.arrivals, calm.port, calm.keyboard⟩
    · refine (Event.only_push_of_not_sort rfl _).trans ?_
      exact Event.only_push_of_sort rfl rig.events
  | sleep duration =>
    have asleep : (Clock.asleep duration rig).Calm :=
      ⟨calm.faults, calm.arrivals, calm.port, calm.keyboard⟩
    have delivered := asleep.deliverAll (rig.tally.sleep + 1)
    refine ⟨_, Clock.sleep_of_passed calm.keyboard (calm.fault?_eq_none _ _) duration, ?_, ?_⟩
    · exact asleep.of_quiet delivered
    · refine (delivered.only_of_foreign fun event => Event.isWriter_of_isAside).trans ?_
      exact Event.only_push_of_sort rfl rig.events
  | note message =>
    refine ⟨_, log_apply .debug message rig, ?_, ?_⟩
    · exact ⟨calm.faults, calm.arrivals, calm.port, calm.keyboard⟩
    · exact (Event.only_push_of_not_sort rfl rig.events).trans (List.append_nil _).symm
  | again notice => cases plain
  | stop failure => cases plain

/-- On a calm rig steps end as they say, and the adapter notices just their events. -/
theorem performAll (calm : rig.Calm) {steps : List Step}
    (single : ∀ notice, Step.again notice ∉ steps) :
    (Step.performAll steps rig).1 = Step.outcome steps ∧
      Event.only Event.isWriter (Step.performAll steps rig).2.events =
        Event.only Event.isWriter rig.events ++ Step.trace steps := by
  induction steps generalizing rig with
  | nil => exact ⟨rfl, (List.append_nil _).symm⟩
  | cons step rest inductionHypothesis =>
    have singleRest : ∀ notice, Step.again notice ∉ rest :=
      fun notice member => single notice (.tail step member)
    by_cases plain : step.isPlain = true
    · obtain ⟨next, performed, calmNext, noticed⟩ := calm.perform plain
      obtain ⟨ended, left⟩ := inductionHypothesis calmNext singleRest
      have alone : ∀ other ∈ [step], other.isPlain = true := by simpa using plain
      rw [Step.performAll_cons, bind_of_ok performed]
      refine ⟨ended.trans (Step.outcome_append alone rest).symm, ?_⟩
      rw [left, noticed, List.append_assoc]
      exact congrArg _ (by simpa using (Step.trace_append alone rest).symm)
    · cases step with
      | again notice => exact absurd List.mem_cons_self (single notice)
      | stop failure => exact ⟨rfl, (List.append_nil _).symm⟩
      | write bytes => exact absurd rfl plain
      | sleep duration => exact absurd rfl plain
      | note message => exact absurd rfl plain

end Rig.Calm

/-! ### The course of a script -/

namespace Script

section Course

variable (charset : Charset) (delay margin : Float)

/-- The events of typing a line that is no comment: each character is written and followed by a
pause. -/
def typing (line : List Char) : List Event :=
  if line.head? = some ';' then []
  else line.flatMap fun char => [.wrote (charset.encode [char]), .slept delay]

/-- The events of the directive of a line, if there is one. -/
def firing : Option Directive → List Event
  | none => []
  | some ⟨.immediate, _⟩ => [.wrote [0x0D]]
  | some ⟨.delay, seconds⟩ =>
    .wrote [0x0D] :: if 0 < seconds then [.slept (Float.ofInt seconds + margin)] else []

/-- The events of sending pieces of a text one after the other, and how that ends: the first
piece whose directive is refused is typed and then ends it. -/
def course : List (List Char) → List Event × Except DirectiveRefusal Unit
  | [] => ([], .ok ())
  | piece :: rest =>
    match scan (clean piece) with
    | .error refusal => (typing charset delay (clean piece), .error refusal)
    | .ok found =>
      (typing charset delay (clean piece) ++ firing margin found ++ (course rest).1,
        (course rest).2)

variable {charset delay margin}

/-- The course ends well exactly when every directive is accepted. -/
theorem course_ok_iff (parts : List (List Char)) :
    (course charset delay margin parts).2 = .ok () ↔
      ∀ piece ∈ parts, ∃ found, scan (clean piece) = .ok found := by
  induction parts with
  | nil => simp [course]
  | cons piece rest inductionHypothesis =>
    rw [List.forall_mem_cons, ← inductionHypothesis, course]
    cases scan (clean piece) with
    | error refusal => simp
    | ok found => simp

/-- A course that ends early does so at the first piece whose directive is refused. -/
theorem course_error {parts : List (List Char)} {refusal : DirectiveRefusal}
    (failed : (course charset delay margin parts).2 = .error refusal) :
    ∃ before piece after, parts = before ++ piece :: after ∧
      (∀ earlier ∈ before, ∃ found, scan (clean earlier) = .ok found) ∧
      scan (clean piece) = .error refusal ∧
      (course charset delay margin parts).1 =
        (course charset delay margin before).1 ++ typing charset delay (clean piece) := by
  induction parts with
  | nil => cases failed
  | cons piece rest inductionHypothesis =>
    rw [course] at failed ⊢
    cases scanned : scan (clean piece) with
    | error other =>
      rw [scanned] at failed
      cases failed
      exact ⟨[], piece, rest, rfl, by simp, scanned, rfl⟩
    | ok found =>
      rw [scanned] at failed
      obtain ⟨before, culprit, after, shape, accepted, refused, left⟩ := inductionHypothesis failed
      refine ⟨piece :: before, culprit, after, by rw [shape]; rfl, ?_, refused, ?_⟩
      · exact List.forall_mem_cons.mpr ⟨⟨found, scanned⟩, accepted⟩
      · dsimp only
        rw [left, course, scanned]
        exact (List.append_assoc _ _ _).symm

end Course

/-- A refused directive names the line that it stands in. -/
theorem refusal_line {line : List Char} {refusal : DirectiveRefusal}
    (refused : scan line = .error refusal) : refusal.line = some line := by
  unfold scan at refused
  split at refused
  · cases refused
  · split at refused
    · cases refused
    · unfold readDelay at refused
      split at refused
      · split at refused
        · cases refused
          rfl
        · split at refused
          · cases refused
            rfl
          · cases refused
      · cases refused
        rfl

/-- A directive that is found asks for one day at most. -/
theorem seconds_le_of_scan {line : List Char} {directive : Directive}
    (found : scan line = .ok (some directive)) : directive.seconds ≤ longestDelay := by
  unfold scan at found
  split at found
  · cases found
    decide
  · split at found
    · cases found
    · rename_i parameter _
      cases read : readDelay parameter (some line) with
      | error refusal =>
        rw [read] at found
        cases found
      | ok seconds =>
        rw [read] at found
        cases found
        exact readDelay_le read

end Script

/-! ### The steps of a script follow its course -/

/-- A whole number of a few digits is converted as it stands. -/
theorem Number.floatOfInt?_of_small {value : Nat} (positive : 0 < value) (small : value < 100000) :
    Number.floatOfInt? value = some (Float.ofNat value) := by
  have bounded : (value : Int).natAbs < Number.floatBound := by
    have large : 100000 ≤ Number.floatBound := by decide +kernel
    rw [Int.natAbs_natCast]
    exact Nat.lt_of_lt_of_le small large
  have digits : (toString value).length ≤ 5 :=
    (Nat.length_repr_le_iff (by decide)).mpr small
  have nonnegative : decide ((value : Int) < 0) = false := by simp
  have nonzero : value ≠ 0 := by omega
  have notHuge : ¬400 < (0 : Int) + (toString value).length := by omega
  have notTiny : ¬(0 : Int) + (toString value).length < -400 := by omega
  unfold Number.floatOfInt? Number.nearestFloat
  rw [if_pos bounded, Int.natAbs_natCast]
  dsimp only
  rw [nonnegative, if_neg nonzero, if_neg notHuge, if_neg notTiny]
  rfl

theorem Clock.settleTime?_of_day {seconds : Int} (positive : 0 < seconds)
    (short : seconds ≤ longestDelay) (pacing : Pacing) :
    Clock.settleTime? pacing seconds = some (Float.ofInt seconds + pacing.settleMargin) := by
  obtain ⟨value, rfl⟩ := Int.eq_ofNat_of_zero_le (Int.le_of_lt positive)
  have small : value < 100000 := by
    have day : longestDelay = 86400 := rfl
    omega
  unfold Clock.settleTime?
  rw [Number.floatOfInt?_of_small (by omega) small]
  rfl

namespace Sender

section Course

variable {sender : Sender} {name : String} {charset : Charset} {delay : Float}

theorem charSteps_of_known (named : sender.encoding = .value name)
    (known : Charset.find name = .ok charset) (paced : sender.pacing.perCharacter = .value delay)
    (char : Char) : sender.charSteps char = [.write (charset.encode [char]), .sleep delay] := by
  simp [charSteps, bytes, pauseStep, named, known, paced]

/-- The steps of typing a line pass, and leave the events of typing it. -/
theorem typingSteps (named : sender.encoding = .value name)
    (known : Charset.find name = .ok charset) (paced : sender.pacing.perCharacter = .value delay)
    (line : List Char) :
    (∀ step ∈ (typed line).flatMap sender.charSteps, step.isPlain = true) ∧
      ((typed line).flatMap sender.charSteps).flatMap Step.events = typing charset delay line := by
  have steps := funext (charSteps_of_known named known paced)
  constructor
  · intro step member
    obtain ⟨char, _, among⟩ := List.mem_flatMap.mp member
    rw [steps] at among
    rcases List.mem_cons.mp among with rfl | last
    · rfl
    · rw [List.mem_singleton.mp last]
      rfl
  · rw [List.flatMap_assoc, steps, typing, typed]
    by_cases comment : line.head? = some ';'
    · simp [isComment, commentMark, comment]
    · simp [isComment, commentMark, comment, Step.events]

/-- The steps of a directive pass, and leave its events. -/
theorem firingSteps (sender : Sender) {line : List Char} {found : Option Directive}
    (scanned : scan line = .ok found) :
    (∀ step ∈ sender.scanSteps line, step.isPlain = true) ∧
      (sender.scanSteps line).flatMap Step.events = firing sender.pacing.settleMargin found := by
  unfold scanSteps
  rw [scanned]
  cases found with
  | none => simp [firing]
  | some directive =>
    obtain ⟨kind, seconds⟩ := directive
    have short : seconds ≤ longestDelay := seconds_le_of_scan scanned
    cases kind with
    | immediate => simp [directiveSteps, Directive.needsSettle, Step.isPlain, Step.events, firing,
        terminator]
    | delay =>
      by_cases positive : 0 < seconds
      · have settles := Clock.settleTime?_of_day positive short sender.pacing
        simp [directiveSteps, Directive.needsSettle, settleSteps, settles, positive, Step.isPlain,
          Step.events, firing, terminator]
      · simp [directiveSteps, Directive.needsSettle, positive, Step.isPlain, Step.events, firing,
          terminator]

/-- The steps of pieces leave the events of their course, and end as it does. -/
theorem pieceSteps (named : sender.encoding = .value name)
    (known : Charset.find name = .ok charset) (paced : sender.pacing.perCharacter = .value delay)
    (parts : List (List Char)) :
    Step.trace (parts.flatMap sender.lineSteps) =
        (course charset delay sender.pacing.settleMargin parts).1 ∧
      Step.outcome (parts.flatMap sender.lineSteps) =
        (course charset delay sender.pacing.settleMargin parts).2.mapError .directive := by
  induction parts with
  | nil => exact ⟨rfl, rfl⟩
  | cons piece rest inductionHypothesis =>
    obtain ⟨typesPlainly, types⟩ := typingSteps named known paced (clean piece)
    rw [List.flatMap_cons, lineSteps, List.append_assoc, Step.trace_append typesPlainly,
      Step.outcome_append typesPlainly, types, course]
    cases scanned : scan (clean piece) with
    | error refusal =>
      rw [scanSteps, scanned]
      exact ⟨List.append_nil _, rfl⟩
    | ok found =>
      obtain ⟨firesPlainly, fires⟩ := firingSteps sender scanned
      rw [Step.trace_append firesPlainly, Step.outcome_append firesPlainly, fires,
        inductionHypothesis.1]
      exact ⟨(List.append_assoc _ _ _).symm, inductionHypothesis.2⟩

end Course

/-- On a calm rig a script that is sent once leaves just the events of its steps. -/
theorem sendScript_calm (sender : Sender) {rig : Rig} (calm : rig.Calm) (notice : PassNotice)
    (text : List Char) :
    (sender.sendScript notice text false rig).1 = Step.outcome (sender.textSteps text) ∧
      Event.only Event.isWriter (sender.sendScript notice text false rig).2.events =
        Event.only Event.isWriter rig.events ++ Step.trace (sender.textSteps text) := by
  have begun : { rig with pass := 1 }.Calm :=
    ⟨calm.faults, calm.arrivals, calm.port, calm.keyboard⟩
  rw [sendScript_once]
  exact begun.performAll (sender.again_not_mem_textSteps text)

/-- Over an open link on which nothing goes wrong, sending a script once makes the port take and
the clock pause exactly what the course of its pieces says. It ends well exactly when every
directive is accepted. Otherwise it fails with the refusal of the first piece whose directive
is refused, which names the line, after the characters of that piece were typed; no later
piece leaves any event. -/
theorem sendScript_course {sender : Sender} {name : String} {charset : Charset} {delay : Float}
    (named : sender.encoding = .value name) (known : Charset.find name = .ok charset)
    (paced : sender.pacing.perCharacter = .value delay) {rig : Rig} (calm : rig.Calm)
    (notice : PassNotice) (text : List Char) :
    let sent := sender.sendScript notice text false rig
    let expected := course charset delay sender.pacing.settleMargin (pieces text)
    Event.only Event.isWriter sent.2.events =
        Event.only Event.isWriter rig.events ++ expected.1 ∧
      (sent.1 = .ok () ↔ ∀ piece ∈ pieces text, ∃ found, scan (clean piece) = .ok found) ∧
      ∀ failure, sent.1 = .error failure →
        ∃ before piece after refusal, pieces text = before ++ piece :: after ∧
          (∀ earlier ∈ before, ∃ found, scan (clean earlier) = .ok found) ∧
          scan (clean piece) = .error refusal ∧ refusal.line = some (clean piece) ∧
          failure = .directive refusal ∧
          expected.1 = (course charset delay sender.pacing.settleMargin before).1 ++
            typing charset delay (clean piece) := by
  intro sent expected
  obtain ⟨ended, left⟩ := sender.sendScript_calm calm notice text
  obtain ⟨traced, outcome⟩ := pieceSteps named known paced (pieces text)
  have ending : sent.1 = expected.2.mapError .directive := ended.trans outcome
  refine ⟨left.trans (congrArg _ traced), ?_, ?_⟩
  · rw [ending, ← course_ok_iff (pieces text)]
    show _ ↔ expected.2 = .ok ()
    cases expected.2 with
    | ok result => exact ⟨fun _ => rfl, fun _ => rfl⟩
    | error refusal => exact ⟨(nomatch ·), (nomatch ·)⟩
  · intro failure failed
    rw [ending] at failed
    cases refused : expected.2 with
    | ok result =>
      rw [refused] at failed
      cases failed
    | error refusal =>
      rw [refused] at failed
      cases failed
      obtain ⟨before, piece, after, shape, accepted, culprit, typed⟩ := course_error refused
      exact ⟨before, piece, after, refusal, shape, accepted, culprit, refusal_line culprit, rfl,
        typed⟩

/-- A line that is typed, a comment with a delay, and a line whose directive is refused. -/
theorem sendScript_course_of_refused :
    let rig : Rig := { plan := {}, settings := { port := "COM3" }, port := .held true }
    let sent := sendScript {} .silent "a\r\n;~Z2\n~Zx\nb".toList false rig
    rig.Calm ∧ Charset.find "ascii" = .ok .ascii ∧
      Event.only Event.isWriter sent.2.events =
        [.wrote [0x61], .slept 0.042, .wrote [0x0D], .slept (Float.ofInt 2 + 1.0),
          .wrote [0x7E], .slept 0.042, .wrote [0x5A], .slept 0.042,
          .wrote [0x78], .slept 0.042] := by
  intro rig sent
  have calm : rig.Calm := ⟨rfl, nofun, rfl, rfl⟩
  have known : Charset.find "ascii" = .ok .ascii := by rfl
  have named : ({} : Sender).encoding = .value "ascii" := rfl
  have paced : ({} : Sender).pacing.perCharacter = .value 0.042 := rfl
  have sends := sendScript_course named known paced calm .silent "a\r\n;~Z2\n~Zx\nb".toList
  refine ⟨calm, known, sends.1.trans ?_⟩
  rfl

end Sender

end KeyFeed
