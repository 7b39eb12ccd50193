/-
This file says what is certain when sending succeeds. Every call of the sender has
passed; what the port has taken are the steps of the text, to the last one; and the
listener either has lost the link, which it remembers, or attends on and has met no
fault in anything that arrived. A fault that it meets does not fail the sender, who may
even finish without another call, so the two cases are carried along to the end of the
session, where the fault is looked at.
-/

import KeyFeed.Proofs.Session.Phases
import KeyFeed.Proofs.Typing.Alone
import KeyFeed.Proofs.Typing.Course

namespace KeyFeed

open KeyFeed.Run

open Rig (Keyed Attends Lost)

/-! ### Counts of calls -/

/-- Something holds of every count after the first one up to the last one. -/
def Throughout (holds : Nat → Prop) (first last : Nat) : Prop :=
  ∀ count, first < count → count ≤ last → holds count

namespace Throughout

variable {holds : Nat → Prop} {first middle last : Nat}

theorem refl (holds : Nat → Prop) (count : Nat) : Throughout holds count count :=
  fun _ more less => absurd less (Nat.not_le_of_lt more)

theorem succ (next : holds (first + 1)) : Throughout holds first (first + 1) := by
  intro count more less
  rwa [show count = first + 1 from Nat.le_antisymm less more]

theorem mono (whole : Throughout holds first last) {lower upper : Nat} (more : first ≤ lower)
    (less : upper ≤ last) : Throughout holds lower upper :=
  fun count above below =>
    whole count (Nat.lt_of_le_of_lt more above) (Nat.le_trans below less)

theorem trans (earlier : Throughout holds first middle) (later : Throughout holds middle last) :
    Throughout holds first last := by
  intro count more less
  by_cases early : count ≤ middle
  · exact earlier count more early
  · exact later count (Nat.lt_of_not_le early) less

end Throughout

/-- The plan lets the call of a count pass. -/
def Plan.Passes (plan : Plan) (point : Point) (count : Nat) : Prop :=
  plan.fault? point count = none

/-- One more call that passes leaves the calls at the other points as they are. -/
theorem Plan.passes_bump {plan : Plan} {tally : Tally} {point : Point}
    (passes : plan.Passes point (tally.get point + 1)) (other : Point) :
    Throughout (plan.Passes other) (tally.get other) ((tally.bump point).get other) := by
  by_cases same : other = point
  · subst same
    rw [Tally.get_bump_self]
    exact .succ passes
  · rw [Tally.get_bump_of_ne tally same]
    exact .refl _ _

/-! ### What success leaves behind -/

/-- What is certain between two states when the activity between them succeeds. -/
structure Rig.Thrives (rig next : Rig) : Prop where
  plan : next.plan = rig.plan
  finalArrivals : next.finalArrivals = rig.finalArrivals
  /-- The calls of the sender have passed. -/
  passed : ∀ point, point.isSending = true →
    Throughout (rig.plan.Passes point) (rig.tally.get point) (next.tally.get point)
  slept : rig.tally.sleep ≤ next.tally.sleep
  /-- A link that is lost stays lost. -/
  lost : rig.Lost → next.Lost
  /-- A listener that is not interrupted, and attends on, has met no fault. -/
  attends : rig.Attends → Throughout rig.plan.Undisturbed rig.tally.sleep next.tally.sleep →
    next.Lost ∨ (next.Attends ∧ Throughout rig.plan.Delivers rig.tally.sleep next.tally.sleep)

namespace Rig.Thrives

variable {rig next : Rig}

/-- The sender calls nobody, and the listener and its port stay as they are. -/
theorem of_idle (plan : next.plan = rig.plan) (sink : next.sink = rig.sink)
    (finalArrivals : next.finalArrivals = rig.finalArrivals)
    (tally : ∀ point, point.isSending = true → next.tally.get point = rig.tally.get point)
    (port : next.port = rig.port) (running : next.running = rig.running)
    (listener : next.listener = rig.listener) : rig.Thrives next where
  plan := plan
  finalArrivals := finalArrivals
  passed point sending := by
    rw [tally point sending]
    exact .refl _ _
  slept := Nat.le_of_eq (tally .sleep rfl).symm
  lost := by
    rintro ⟨fault, ended⟩
    exact ⟨fault, listener.trans ended⟩
  attends attends _ := by
    have connected : next.port.isOpen = true := port ▸ attends.port
    have orderly : next.plan.Orderly := plan ▸ attends.plan
    refine Or.inr ⟨⟨listener.trans attends.listener, running.trans attends.running, connected,
      sink.trans attends.sink, orderly⟩, ?_⟩
    rw [show next.tally.sleep = rig.tally.sleep from tally .sleep rfl]
    exact .refl _ _

instance : IsPreorder Rig Rig.Thrives where
  refl rig := of_idle rfl rfl rfl (fun _ _ => rfl) rfl rfl rfl
  trans first middle last earlier later := by
    refine ⟨later.plan.trans earlier.plan, later.finalArrivals.trans earlier.finalArrivals, ?_,
      Nat.le_trans earlier.slept later.slept, fun lost => later.lost (earlier.lost lost),
      fun attends undisturbed => ?_⟩
    · intro point sending
      have ended := later.passed point sending
      rw [earlier.plan] at ended
      exact (earlier.passed point sending).trans ended
    · have before := undisturbed.mono (Nat.le_refl _) later.slept
      have after := undisturbed.mono earlier.slept (Nat.le_refl _)
      rw [← earlier.plan] at after
      rcases earlier.attends attends before with lost | ⟨still, delivered⟩
      · exact Or.inl (later.lost lost)
      · refine (later.attends still after).imp_right ?_
        rintro ⟨last, deliveredAfter⟩
        rw [earlier.plan] at deliveredAfter
        exact ⟨last, delivered.trans deliveredAfter⟩

theorem of_keyed (keyed : rig.Keyed next) : rig.Thrives next := by
  rw [keyed.frame]
  exact of_idle rfl rfl rfl (fun _ _ => rfl) rfl rfl rfl

/-- A call of the sender that passes at the port. -/
theorem count {point : Point} (passes : rig.plan.Passes point (rig.tally.get point + 1))
    (atPort : point ≠ .sleep) (events : Array Event) :
    rig.Thrives { rig with tally := rig.tally.bump point, events := events } where
  plan := rfl
  finalArrivals := rfl
  passed other _ := Plan.passes_bump passes other
  slept := Nat.le_of_eq (Tally.get_bump_of_ne rig.tally (Ne.symm atPort)).symm
  lost := id
  attends attends _ := by
    refine Or.inr ⟨{ attends with }, ?_⟩
    show Throughout _ _ (rig.tally.bump point).sleep
    rw [show (rig.tally.bump point).sleep = rig.tally.sleep from
      Tally.get_bump_of_ne rig.tally (Ne.symm atPort)]
    exact .refl _ _

end Rig.Thrives

open Rig (Thrives)

/-! ### Calls -/

theorem Link.write_thrives (bytes : List UInt8) : Achieves Thrives (write bytes) := by
  intro rig _ next succeeded
  obtain ⟨taken, flushed, rfl⟩ := write_ok succeeded
  have passes : (written bytes rig).plan.Passes .flush ((written bytes rig).tally.flush + 1) :=
    flushed
  have counted : rig.Thrives (written bytes rig) := Thrives.count taken nofun _
  exact IsTrans.trans _ _ _ counted (Thrives.count passes nofun _)

/-- During a sleep the listener loses the link, or all that arrives is delivered to it. -/
theorem Clock.sleep_thrives (duration : Float) : Achieves Thrives (sleep duration) := by
  intro rig _ next succeeded
  obtain ⟨passed, typed⟩ := sleep_ok succeeded
  have passes : rig.plan.Passes .sleep (rig.tally.get .sleep + 1) := passed
  have aside := Echo.deliverAll_aside (rig.plan.arrivals (rig.tally.sleep + 1))
    (asleep duration rig)
  have listened : rig.Thrives
      (Echo.deliverAll (rig.plan.arrivals (rig.tally.sleep + 1)) (asleep duration rig)).2 := by
    have sameCount : (Echo.deliverAll (rig.plan.arrivals (rig.tally.sleep + 1))
        (asleep duration rig)).2.tally.sleep = rig.tally.sleep + 1 :=
      aside.tally .sleep nofun nofun
    refine ⟨aside.plan, by rw [aside.frame]; rfl, fun point sending => ?_, ?_, fun lost => ?_,
      fun attends undisturbed => ?_⟩
    · rw [aside.tally point (by rintro rfl; cases sending) (by rintro rfl; cases sending)]
      exact Plan.passes_bump passes point
    · rw [sameCount]
      exact Nat.le_succ _
    · have asleepLost : (asleep duration rig).Lost := lost
      rw [Echo.deliverAll_of_deaf asleepLost.deaf]
      exact lost
    · have asleepAttends : (asleep duration rig).Attends := { attends with }
      rw [sameCount] at undisturbed ⊢
      have uninterrupted := undisturbed (rig.tally.sleep + 1) (Nat.lt_succ_self _) (Nat.le_refl _)
      refine (asleepAttends.deliverAll uninterrupted).imp_right ?_
      rintro ⟨still, readable⟩
      exact ⟨still, .succ readable⟩
  have keyed := Console.passTime_keyed
    (Echo.deliverAll (rig.plan.arrivals (rig.tally.sleep + 1)) (asleep duration rig)).2
  rw [typed] at keyed
  exact IsTrans.trans _ _ _ listened (Thrives.of_keyed keyed)

theorem log_thrives (level : Level) (message : String) : Leads Thrives (log level message) :=
  (log_notes level message).mono fun _ _ notes => Thrives.of_keyed notes.keyed

/-! ### Steps -/

namespace Step

theorem perform_thrives {step : Step} (unobserved : step.isUnobserved = true) :
    Achieves Thrives step.perform := by
  cases step with
  | write bytes => exact Link.write_thrives bytes
  | sleep duration => exact Clock.sleep_thrives duration
  | note message => exact (log_thrives _ _).achieves
  | again notice =>
    refine Leads.achieves fun rig => ?_
    have begun : rig.Thrives { rig with pass := rig.pass + 1 } :=
      Thrives.of_idle rfl rfl rfl (fun _ _ => rfl) rfl rfl rfl
    exact IsTrans.trans _ _ _ begun (Thrives.of_keyed (nextPass_notes unobserved rig).keyed)
  | stop failure => exact .fail failure

/-- A step that succeeds leaves its events. -/
theorem perform_ok {step : Step} (unobserved : step.isUnobserved = true) {rig next : Rig}
    (succeeded : step.perform rig = (.ok (), next)) :
    Event.only Event.isWriter next.events =
      Event.only Event.isWriter rig.events ++ step.events := by
  cases step with
  | write bytes =>
    obtain ⟨_, _, rfl⟩ := Link.write_ok succeeded
    refine (Event.only_push_of_not_sort rfl _).trans ?_
    exact Event.only_push_of_sort rfl rig.events
  | sleep duration =>
    obtain ⟨_, typed⟩ := Clock.sleep_ok succeeded
    have aside := Echo.deliverAll_aside (rig.plan.arrivals (rig.tally.sleep + 1))
      (Clock.asleep duration rig)
    have keyed := Console.passTime_keyed (Echo.deliverAll (rig.plan.arrivals (rig.tally.sleep + 1))
      (Clock.asleep duration rig)).2
    rw [typed] at keyed
    refine (keyed.only_of_foreign fun event => Event.isWriter_of_isText).trans ?_
    refine (aside.only_of_foreign fun event => Event.isWriter_of_isAside).trans ?_
    exact Event.only_push_of_sort rfl rig.events
  | note message =>
    cases succeeded
    exact (Event.only_push_of_not_sort rfl rig.events).trans (List.append_nil _).symm
  | again notice =>
    have notes := nextPass_notes unobserved rig
    rw [show notice.nextPass rig = (.ok (), next) from succeeded] at notes
    refine (notes.keyed.only_of_foreign fun event => Event.isWriter_of_isText).trans ?_
    exact (List.append_nil _).symm
  | stop failure => cases succeeded

theorem performAll_thrives {steps : List Step}
    (unobserved : ∀ step ∈ steps, step.isUnobserved = true) :
    Achieves Thrives (performAll steps) := by
  induction steps with
  | nil => exact .pure ()
  | cons step rest inductionHypothesis =>
    obtain ⟨first, others⟩ := List.forall_mem_cons.mp unobserved
    exact (perform_thrives first).bind fun _ => inductionHypothesis others

/-- Steps that succeed are all performed, and the adapter notices just what they are. -/
theorem performAll_ok {steps : List Step} (unobserved : ∀ step ∈ steps, step.isUnobserved = true)
    {rig next : Rig} (succeeded : performAll steps rig = (.ok (), next)) :
    outcome steps = .ok () ∧
      Event.only Event.isWriter next.events =
        Event.only Event.isWriter rig.events ++ trace steps := by
  induction steps generalizing rig with
  | nil =>
    cases succeeded
    exact ⟨rfl, (List.append_nil _).symm⟩
  | cons step rest inductionHypothesis =>
    obtain ⟨first, others⟩ := List.forall_mem_cons.mp unobserved
    obtain ⟨_, middle, begun, ended⟩ := bind_eq_ok_iff.mp succeeded
    obtain ⟨well, left⟩ := inductionHypothesis others ended
    have noticed := perform_ok first begun
    rw [noticed, List.append_assoc] at left
    cases step with
    | stop failure => cases begun
    | _ => exact ⟨well, left⟩

/-- Steps end well only if those at the end of them do. -/
theorem outcome_of_append_ok {front back : List Step} (well : outcome (front ++ back) = .ok ()) :
    outcome back = .ok () := by
  induction front with
  | nil => exact well
  | cons step rest inductionHypothesis =>
    cases step with
    | stop failure => cases well
    | _ => exact inductionHypothesis well

end Step

/-! ### Scripts -/

namespace Sender

/-- A script that is repeated is repeated without end. -/
theorem passSteps_outcome (sender : Sender) (notice : PassNotice) (text : List Char) (bound : Nat) :
    Step.outcome (sender.passSteps notice text bound) ≠ .ok () := by
  induction bound with
  | zero => exact nofun
  | succ bound inductionHypothesis =>
    intro well
    have later : Step.outcome (.again notice :: sender.passSteps notice text bound) = .ok () :=
      Step.outcome_of_append_ok well
    exact inductionHypothesis later

/-- What is certain of sending a script that succeeds, besides what it leaves. -/
theorem sendScript_thrives (sender : Sender) (text : List Char) (again : Bool) :
    Achieves Thrives (sender.sendScript .output text again) := by
  intro rig result next succeeded
  have counted : rig.Thrives { rig with pass := 1 } :=
    Thrives.of_idle rfl rfl rfl (fun _ _ => rfl) rfl rfl rfl
  have begun := IsTrans.trans _ _ _ counted (Thrives.of_keyed (ready_notes text again rig).keyed)
  rw [sendScript_apply] at succeeded
  exact IsTrans.trans _ _ _ begun
    (Step.performAll_thrives (sender.isUnobserved_scriptSteps _ text again) _ _ _ succeeded)

/-- A script that is sent with success is not repeated, unless it is empty; its steps end well,
and what the adapter notices is just these steps. -/
theorem sendScript_ok {sender : Sender} {text : List Char} {again : Bool} {rig next : Rig}
    (succeeded : sender.sendScript .output text again rig = (.ok (), next)) :
    (again = false ∨ text = []) ∧ Step.outcome (sender.textSteps text) = .ok () ∧
      Event.only Event.isWriter next.events =
        Event.only Event.isWriter rig.events ++ Step.trace (sender.textSteps text) := by
  have notes := ready_notes text again rig
  rw [sendScript_apply] at succeeded
  obtain ⟨well, left⟩ :=
    Step.performAll_ok (sender.isUnobserved_scriptSteps _ text again) succeeded
  rw [notes.keyed.only_of_foreign fun event => Event.isWriter_of_isText] at left
  by_cases repeated : (again && !text.isEmpty) = true
  · rw [scriptSteps, if_pos repeated] at well
    exact absurd well (sender.passSteps_outcome _ _ _)
  · rw [scriptSteps, if_neg repeated] at well left
    refine ⟨?_, well, left⟩
    cases again with
    | false => exact Or.inl rfl
    | true => exact Or.inr (by simpa using repeated)

end Sender

end KeyFeed
