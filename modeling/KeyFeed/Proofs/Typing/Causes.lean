/-
This file says for which causes sending a script ends early when the surroundings fail only
in ways that are foreseen: a directive is refused, the link is lost, or the user interrupts.
Besides there are two values without which nothing can be typed, the encoding and the pause,
and a script that is repeated without end.
-/

import KeyFeed.Proofs.Link.Closing
import KeyFeed.Proofs.Rig.Foreseen
import KeyFeed.Proofs.Typing.Alike
import KeyFeed.Proofs.Typing.Course

namespace KeyFeed

open KeyFeed.Run KeyFeed.Script

theorem Failure.interrupted_of_not_isOrdinary {failure : Failure}
    (interrupts : failure.isOrdinary = false) : ∃ message, failure = .interrupted message := by
  cases failure with
  | interrupted message => exact ⟨message, rfl⟩
  | _ => cases interrupts

/-- The causes for which a session ends early, when text is sent in it in the given way. -/
inductive Sender.EndsBy (sender : Sender) : Failure → Prop where
  | directive (refusal : DirectiveRefusal) : sender.EndsBy (.directive refusal)
  | link (fault : LinkFault) : sender.EndsBy (.link fault)
  | consoleUnavailable (reason : String) : sender.EndsBy (.consoleUnavailable reason)
  | interrupted (message : String) : sender.EndsBy (.interrupted message)
  | blankEncoding (blank : sender.encoding = .blank) : sender.EndsBy .blankEncoding
  | blankPause (blank : sender.pacing.perCharacter = .blank) : sender.EndsBy .blankPause

/-- What is given for an encoding, unless it is a blank, can be looked up. -/
def Encodable (encoding : Given String) : Prop :=
  ∀ name, encoding = .value name → ∃ charset, Charset.find name = .ok charset

theorem Sender.bytes_error {sender : Sender} (encodable : Encodable sender.encoding)
    {text : List Char} {failure : Failure} (refused : sender.bytes text = .error failure) :
    sender.EndsBy failure := by
  unfold bytes at refused
  cases named : sender.encoding with
  | value name =>
    obtain ⟨charset, found⟩ := encodable name named
    rw [named] at refused
    dsimp only at refused
    rw [found] at refused
    cases refused
  | blank =>
    rw [named] at refused
    cases refused
    exact .blankEncoding named

variable {plan : Plan} {sender : Sender} {sort : Failure → Prop}

/-! ### The calls of the sender -/

/-- What can go wrong around the sender is of the sort: what happens to the link, what the user
does, and what the plan holds for the calls, as far as the link does not make a fault of its own of
it. -/
structure Plan.Confined (plan : Plan) (sort : Failure → Prop) : Prop where
  link : ∀ fault, sort (.link fault)
  interrupted : ∀ message, sort (.interrupted message)
  port : ∀ point ∈ [Point.write, .flush, .close], ∀ count failure,
    plan.fault? point count = some failure → failure.isTransport = false → sort failure
  sleep : ∀ count failure, plan.fault? .sleep count = some failure → sort failure

theorem Plan.Foreseen.confined (foreseen : plan.Foreseen) : plan.Confined sender.EndsBy where
  link := .link
  interrupted := .interrupted
  port point member count failure due other := by
    have transport : failure.isTransport = true := by
      have foresees := foreseen.fault due
      simp only [List.mem_cons, List.not_mem_nil, or_false] at member
      rcases member with rfl | rfl | rfl <;> exact foresees
    rw [transport] at other
    cases other
  sleep count failure due := by
    have interrupts : failure.isOrdinary = false := by
      simpa [Point.foresees] using foreseen.fault due
    obtain ⟨message, rfl⟩ := Failure.interrupted_of_not_isOrdinary interrupts
    exact .interrupted message

/-- A sort to which faults of the link, interruptions and all faults of the plan belong. -/
theorem Plan.Confined.of_faults (link : ∀ fault, sort (.link fault))
    (interrupted : ∀ message, sort (.interrupted message))
    (faults : ∀ fault ∈ plan.faults, sort fault.failure) : plan.Confined sort := by
  have due {point : Point} {count : Nat} {failure : Failure}
      (planned : plan.fault? point count = some failure) : sort failure := by
    obtain ⟨fault, found, rfl⟩ := Option.map_eq_some_iff.mp planned
    exact faults fault (List.mem_of_find?_eq_some found)
  exact ⟨link, interrupted, fun _ _ _ _ planned _ => due planned, fun _ _ => due⟩

namespace Link

/-- A port that is called fails at the transport, or for a cause of the sort. -/
theorem reach_failsBy_confined (confined : plan.Confined sort) {point : Point}
    (member : point ∈ [Point.write, .flush, .close]) :
    FailsBy plan (fun failure => failure.isTransport = false → sort failure) (reach point) :=
  (reach_failsBy_planned plan point).mono fun failure ⟨count, due⟩ =>
    confined.port point member count failure due

/-- A port that is closed fails as one that is called. What its listener makes of that does not
fail. -/
theorem closePort_failsBy (confined : plan.Confined sort) :
    FailsBy plan (fun failure => failure.isTransport = false → sort failure) closePort := by
  refine FailsBy.bind ?_ fun _ => .of_neverFails (Echo.deliver_neverFails _) fun rig =>
    (Echo.deliver_aside _ rig).plan
  exact (FailsBy.record _).bind fun _ => reach_failsBy_confined confined (by simp)

theorem dropPort_failsBy (confined : plan.Confined sort) :
    FailsBy plan sort (dropPort closePort) := by
  refine .look fun rig => .ite (fun _ => ?_) fun _ => .log _ _
  refine FailsBy.bind (.change fun _ => rfl) fun _ =>
    .attempt (closePort_failsBy confined) (fun _ => .log _ _) ?_
  intro failure stray
  refine .ite (fun _ => (FailsBy.log _ _).bind fun _ => .log _ _) fun other => ?_
  exact .fail (stray (by simpa using other))

theorem closeLink_failsBy (confined : plan.Confined sort) : FailsBy plan sort closeLink := by
  have quiet : FailsBy plan sort closeQuietly := by
    refine .attempt (closePort_failsBy confined) (fun _ => .pure ()) fun failure stray => ?_
    exact .ite (fun _ => .log _ _) fun other => .fail (stray (by simpa using other))
  have drops : FailsBy plan sort (change fun rig => { rig with port := .none }) :=
    .change fun _ => rfl
  refine .look fun rig => .ite (fun _ => ?_) fun _ => .pure ()
  exact (quiet.ensuring drops).bind fun _ => .log _ _

/-- A write fails with a fault of the link, or for a cause that the plan holds for it. -/
theorem write_failsBy (confined : plan.Confined sort) (bytes : List UInt8) :
    FailsBy plan sort (write bytes) := by
  have required : FailsBy plan sort requirePort :=
    .look fun _ => .ite (fun _ => .pure ()) fun _ => .fail (confined.link _)
  have hands : FailsBy plan (fun failure => failure.isTransport = false → sort failure)
      (put bytes) :=
    .attempt (reach_failsBy_confined confined (by simp)) (fun _ => .record _)
      fun _ stray => (FailsBy.record _).bind fun _ => .fail stray
  have empties : FailsBy plan (fun failure => failure.isTransport = false → sort failure) flush :=
    (FailsBy.record _).bind fun _ => reach_failsBy_confined confined (by simp)
  refine required.bind fun _ => .attempt (hands.bind fun _ => empties) (fun _ => .pure ()) ?_
  intro failure stray
  refine .ite (fun _ => ?_) fun other => .fail (stray (by simpa using other))
  exact (FailsBy.log _ _).bind fun _ => (dropPort_failsBy confined).bind fun _ =>
    .fail (confined.link _)

end Link

namespace Console

theorem deliver_neverFails (keystrokes : List Keystroke) : NeverFails (deliver keystrokes) := by
  have meets (ending : ReaderEnd) : NeverFails (meetEnd ending) := by
    cases ending with
    | inputClosed => exact fun _ => rfl
    | failed failure =>
      intro rig
      unfold meetEnd
      dsimp only
      split <;> rfl
  refine NeverFails.look fun rig => ?_
  split
  · refine NeverFails.bind (fun _ => rfl) ?_
    split
    · exact fun _ => rfl
    · exact meets _
  · exact fun _ => rfl

/-- While time passes nothing fails, except that a user interrupts who can do nothing else. -/
theorem passTime_failsBy (interrupts : ∀ message, sort (.interrupted message)) :
    FailsBy plan sort passTime := by
  have delivers (keystrokes : List Keystroke) : FailsBy plan sort (deliver keystrokes) :=
    .of_neverFails (deliver_neverFails keystrokes) fun rig => by
      rw [(deliver_keyed keystrokes rig).frame]
  refine .look fun rig => .ite (fun _ => ?_) fun _ => .pure ()
  cases rig.batches with
  | nil => exact .ite (fun _ => delivers _) fun _ => .fail (interrupts _)
  | cons batch rest =>
    refine FailsBy.bind ?_ fun _ => delivers batch
    exact .change fun _ => rfl

end Console

theorem Clock.sleep_failsBy (confined : plan.Confined sort) (duration : Float) :
    FailsBy plan sort (sleep duration) := by
  have begins : FailsBy plan sort (reach .sleep) :=
    (reach_failsBy_planned plan .sleep).mono fun failure ⟨count, due⟩ =>
      confined.sleep count failure due
  have delivers (arrivals : List Arrival) : FailsBy plan sort (Echo.deliverAll arrivals) :=
    .of_neverFails (Echo.deliverAll_neverFails arrivals) fun rig =>
      (Echo.deliverAll_aside arrivals rig).plan
  refine (FailsBy.record _).bind fun _ => begins.bind fun _ => .look fun rig => ?_
  exact (delivers _).bind fun _ => Console.passTime_failsBy confined.interrupted

theorem Sender.sendKey_failsBy (foreseen : plan.Foreseen)
    (encodable : Encodable sender.encoding) (key : Key) :
    FailsBy plan sender.EndsBy (sender.sendKey key) := by
  have encoded : FailsBy plan sender.EndsBy (sender.encode key) := by
    unfold encode
    cases found : sender.bytes key with
    | ok bytes => exact .pure bytes
    | error failure => exact .fail (bytes_error encodable found)
  exact encoded.bind fun bytes => Link.write_failsBy foreseen.confined bytes

/-! ### The steps of a script -/

namespace Step

/-- A step that is a call or a record fails as its surroundings do. -/
theorem perform_failsBy_of_isPlain (confined : plan.Confined sort) {step : Step}
    (plain : step.isPlain = true) : FailsBy plan sort step.perform := by
  cases step with
  | write bytes => exact Link.write_failsBy confined bytes
  | sleep duration => exact Clock.sleep_failsBy confined duration
  | note message => exact .log _ _
  | again notice => cases plain
  | stop failure => cases plain

/-- The step is one of a session that sends in this way and tells the user of its passes. If it
stops, it is for a cause that is foreseen. -/
def IsExpected (sender : Sender) : Step → Prop
  | again notice => notice = .output
  | stop failure => sender.EndsBy failure
  | _ => True

theorem perform_failsBy (foreseen : plan.Foreseen) {step : Step}
    (expected : step.IsExpected sender) : FailsBy plan sender.EndsBy step.perform := by
  cases step with
  | again notice =>
    obtain rfl : notice = .output := expected
    have tells (pass : Nat) : FailsBy plan sender.EndsBy (PassNotice.output.tell pass) :=
      .look fun _ => .record _
    refine FailsBy.bind (.change fun _ => rfl) fun _ => .look fun rig => ?_
    exact (FailsBy.log _ _).bind fun _ => tells rig.pass
  | stop failure => exact .fail expected
  | _ => exact perform_failsBy_of_isPlain foreseen.confined rfl

theorem performAll_failsBy {steps : List Step}
    (each : ∀ step ∈ steps, FailsBy plan sort step.perform) :
    FailsBy plan sort (performAll steps) := by
  induction steps with
  | nil => exact .pure ()
  | cons step rest inductionHypothesis =>
    obtain ⟨first, others⟩ := List.forall_mem_cons.mp each
    exact first.bind fun _ => inductionHypothesis others

theorem IsExpected.of_isPlain {step : Step} (plain : step.isPlain = true) :
    step.IsExpected sender := by
  cases step with
  | again notice => cases plain
  | stop failure => cases plain
  | _ => trivial

end Step

namespace Sender

theorem charSteps_expected (encodable : Encodable sender.encoding) (char : Char) :
    ∀ step ∈ sender.charSteps char, step.IsExpected sender := by
  have pauses : sender.pauseStep.IsExpected sender := by
    unfold pauseStep
    cases paced : sender.pacing.perCharacter with
    | value duration => exact trivial
    | blank => exact .blankPause paced
  unfold charSteps
  cases found : sender.bytes [char] with
  | error failure => exact List.forall_mem_singleton.mpr (bytes_error encodable found)
  | ok bytes => exact List.forall_mem_cons.mpr ⟨trivial, List.forall_mem_singleton.mpr pauses⟩

theorem textSteps_expected (encodable : Encodable sender.encoding) (text : List Char) :
    ∀ step ∈ sender.textSteps text, step.IsExpected sender := by
  have scans (line : List Char) : ∀ step ∈ sender.scanSteps line, step.IsExpected sender := by
    cases scanned : scan line with
    | error refusal =>
      unfold scanSteps
      rw [scanned]
      exact List.forall_mem_singleton.mpr (.directive refusal)
    | ok found => exact fun step member => .of_isPlain ((firingSteps sender scanned).1 step member)
  intro step member
  obtain ⟨piece, _, ofLine⟩ := List.mem_flatMap.mp member
  rcases List.mem_append.mp ofLine with typed | scanned
  · obtain ⟨char, _, ofChar⟩ := List.mem_flatMap.mp typed
    exact charSteps_expected encodable char step ofChar
  · exact scans _ step scanned

theorem rounds_expected (encodable : Encodable sender.encoding) (text : List Char) (count : Nat) :
    ∀ step ∈ sender.rounds .output text count, step.IsExpected sender := by
  intro step member
  rcases List.mem_append.mp (mem_round_of_mem_rounds member) with inText | last
  · exact textSteps_expected encodable text step inText
  · rw [List.mem_singleton.mp last]
    exact rfl

/-- The script is repeated without end: no number of passes is enough. -/
def Endless (sender : Sender) (text : List Char) (again : Bool) (rig : Rig) : Prop :=
  again = true ∧ text ≠ [] ∧
    ∀ bound, (sender.sendWithin bound .output text again rig).1 = .error .unfinished

/-- Where only what is foreseen goes wrong, a script ends early for a cause that is foreseen, unless
it is repeated without end. -/
theorem sendScript_error (foreseen : plan.Foreseen) (encodable : Encodable sender.encoding)
    {text : List Char} {again : Bool} {rig : Rig} (planned : rig.plan = plan)
    (away : rig.keyboard.active = false) {failure : Failure}
    (failed : (sender.sendScript .output text again rig).1 = .error failure) :
    sender.EndsBy failure ∨ failure = .unfinished ∧ sender.Endless text again rig := by
  have causes {steps : List Step} (expected : ∀ step ∈ steps, step.IsExpected sender) :=
    (Step.performAll_failsBy
      (fun step member => Step.perform_failsBy foreseen (expected step member))
      (ready text again rig) planned).2
  rw [sendScript_apply] at failed
  unfold scriptSteps at failed
  by_cases repeats : (again && !text.isEmpty) = true
  · rw [if_pos repeats, passSteps_eq, Step.performAll_append] at failed
    cases outcome : Step.performAll (sender.rounds .output text (passBound rig.plan .output))
        (ready text again rig) with
    | mk result last =>
      cases result with
      | error cause =>
        have broken := congrArg Prod.fst outcome
        rw [bind_of_error outcome] at failed
        cases failed
        exact Or.inl (causes (rounds_expected encodable text _) failure broken)
      | ok result =>
        -- As many passes as are made at most have passed, so all do.
        rw [bind_of_ok outcome] at failed
        cases failed
        obtain ⟨isAgain, nonempty⟩ : again = true ∧ text ≠ [] := by simpa using repeats
        refine Or.inr ⟨rfl, isAgain, nonempty, fun bound => ?_⟩
        have awayToo : (ready text again rig).keyboard.active = false := away
        obtain ⟨next, later⟩ := rounds_endless awayToo outcome bound
        rw [sendWithin_apply, scriptSteps, if_pos repeats, passSteps_eq, Step.performAll_append,
          bind_of_ok later]
        rfl
  · rw [if_neg repeats] at failed
    exact Or.inl (causes (textSteps_expected encodable text) failure failed)

end Sender

end KeyFeed
