/-
This file compares a script that is sent without any fault with the same script when one
call of the sender is planned to fail. Up to that call both runs are the same. There the
faulted run ends: nothing is written and no pause is made any more. A failure of the
transport at the port becomes a fault of the link, whose port is closed once; any other
failure passes through and leaves the link open.

A repeated script never ends by itself, so the run without fault is looked at after any
number of passes. The run with the fault needs no more passes than the count of the call,
because every pass calls at the point if any does.
-/

import KeyFeed.Proofs.Typing.Alone

namespace KeyFeed

open KeyFeed.Run

/-! ### The planned fault -/

/-- The rig with this fault planned, and no other. -/
def Rig.plant (fault : PlannedFault) (rig : Rig) : Rig :=
  { rig with plan := { rig.plan with faults := [fault] } }

namespace Rig

variable {fault : PlannedFault} {rig : Rig}

theorem plant_fault?_self :
    (rig.plant fault).plan.fault? fault.point fault.count = some fault.failure := by
  simp [plant, Plan.fault?]

theorem plant_fault?_of_ne {point : Point} {count : Nat}
    (other : fault.point = point → fault.count ≠ count) :
    (rig.plant fault).plan.fault? point count = none := by
  simpa [plant, Plan.fault?] using other

theorem Alone.plant (alone : rig.Alone) (sending : fault.point.isSending = true) :
    (rig.plant fault).Alone where
  deaf := alone.deaf
  away := alone.away
  closes count := by
    refine plant_fault?_of_ne fun closing => ?_
    rw [closing] at sending
    cases sending

end Rig

/-! ### Before the fault -/

namespace PassNotice

theorem tell_plant (notice : PassNotice) (pass : Nat) {fault : PlannedFault} {rig : Rig}
    (alone : rig.Alone) (sending : fault.point.isSending = true) :
    notice.tell pass (rig.plant fault) =
      ((notice.tell pass rig).1, (notice.tell pass rig).2.plant fault) := by
  cases notice with
  | silent => rfl
  | observer stopAt closeAt =>
    have told : { rig with events := rig.events.push (.repeated pass) }.Alone :=
      ⟨alone.deaf, alone.away, alone.closes⟩
    unfold tell
    dsimp only
    rw [record_bind, record_bind]
    split
    · rfl
    · split
      · have same := Link.closeLink_of_alone (told.plant sending)
        rw [Link.closeLink_of_alone told]
        refine same.trans (Prod.ext rfl ?_)
        unfold Link.closed Rig.plant
        dsimp only
        split <;> rfl
      · rfl
  | output => rfl

end PassNotice

namespace Step

variable {fault : PlannedFault} {rig : Rig}

/-- A fault that is planned for later changes nothing. -/
theorem perform_plant (alone : rig.Alone)
    (sound : ∀ point count, rig.plan.fault? point count = none)
    (sending : fault.point.isSending = true) (step : Step)
    (later : (step.perform rig).2.tally.get fault.point < fault.count) :
    step.perform (rig.plant fault) =
      ((step.perform rig).1, (step.perform rig).2.plant fault) := by
  cases step with
  | write bytes =>
    show Link.write bytes (rig.plant fault) =
      ((Link.write bytes rig).1, (Link.write bytes rig).2.plant fault)
    cases held : rig.port.isHeld with
    | true =>
      have passed := Link.write_of_passed held (sound _ _) (sound _ _) bytes
      rw [show (write bytes).perform rig = (.ok (), _) from passed] at later
      have after : (Link.emptied (Link.written bytes rig)).tally.get fault.point < fault.count :=
        later
      have heldToo : (rig.plant fault).port.isHeld = true := held
      rw [passed, Link.write_of_passed heldToo ?_ ?_ bytes]
      · rfl
      · refine Rig.plant_fault?_of_ne fun writing => ?_
        rw [writing] at after
        exact Nat.ne_of_gt after
      · refine Rig.plant_fault?_of_ne fun flushing => ?_
        rw [flushing] at after
        exact Nat.ne_of_gt after
    | false =>
      have lostToo : (rig.plant fault).port.isHeld = false := held
      rw [Link.write_of_lost held, Link.write_of_lost lostToo]
      rfl
  | sleep duration =>
    show Clock.sleep duration (rig.plant fault) =
      ((Clock.sleep duration rig).1, (Clock.sleep duration rig).2.plant fault)
    have passed := sleep_of_alone alone (sound _ _) duration
    rw [show (sleep duration).perform rig = (.ok (), _) from passed] at later
    have after : (Clock.asleep duration rig).tally.get fault.point < fault.count := later
    rw [passed, sleep_of_alone (alone.plant sending) ?_ duration]
    · rfl
    · refine Rig.plant_fault?_of_ne fun sleeping => ?_
      rw [sleeping] at after
      exact Nat.ne_of_gt after
  | note message => rfl
  | again notice =>
    have begun := alone.of_follows (PassNotice.begun_follows rig)
    exact notice.tell_plant (rig.pass + 1) begun sending
  | stop failure => rfl

end Step

/-! ### At the fault -/

/-- How a run ends that a fault strikes, beside a run without it that started from the same state
and has come to the state `sound`. Both have the events of the state before and then those in
front of the call. After them the sound run has the event of the call itself, which is the one
that the fault counts; the faulted run writes nothing and makes no pause any more, except for
the pause that fails. -/
def Struck (fault : PlannedFault) (before sound : Rig) (outcome : Except Failure Unit)
    (final : Rig) : Prop :=
  ∃ front call rest after,
    sound.events.toList = before.events.toList ++ front ++ call :: rest ∧
    call.isCall fault.point = true ∧
    before.tally.get fault.point + front.countP (Event.isCall fault.point) + 1 = fault.count ∧
    final.events.toList = before.events.toList ++ front ++ after ∧
    after.filter Event.isWriter = (if fault.point = .sleep then [call] else []) ∧
    if fault.point ≠ .sleep ∧ fault.failure.isTransport = true then
      outcome = .error (.link (.writing fault.failure.message)) ∧ final.port = .none ∧
        (front ++ after).filter Event.isPort = [.portClosed]
    else
      outcome = .error fault.failure ∧ final.port.isOpen = true ∧
        (front ++ after).filter Event.isPort = []

namespace Link

/-- The state after a link is given up because the transport failed. -/
def givenUp (failure : Failure) (rig : Rig) : Rig :=
  { rig with
    port := .none
    tally := rig.tally.bump .close
    events := ((rig.events.push (.logged .error s!"Write error: {failure.message}")).push
      .portClosed).push (.logged .info "Link closed due to error") }

theorem afterFailure_of_transport {rig : Rig} {failure : Failure} (alone : rig.Alone)
    (held : rig.port.isHeld = true) (transport : failure.isTransport = true) :
    afterFailure failure rig =
      (.error (.link (.writing failure.message)), givenUp failure rig) := by
  have closing : { rig with
      events := rig.events.push (.logged .error s!"Write error: {failure.message}")
      port := .none }.Alone :=
    ⟨alone.deaf, alone.away, alone.closes⟩
  have dropped : dropPort closePort
      { rig with events := rig.events.push (.logged .error s!"Write error: {failure.message}") } =
        (.ok (), givenUp failure rig) := by
    unfold dropPort
    rw [look_bind]
    dsimp only
    rw [if_pos held]
    simp only [change_bind, attempt_bind]
    rw [closePort_of_alone closing]
    rfl
  rw [afterFailure, if_pos transport, log_bind, bind_of_ok dropped]
  rfl

end Link

namespace Step

variable {fault : PlannedFault} {rig : Rig}

/-- What a write comes to whose call fails, at the port or while the port empties its buffer. -/
theorem afterFailure_struck {before sound last : Rig} (front failing rest : List Event)
    (call : Event) (alone : last.Alone) (opened : last.port.isOpen = true)
    (shown : sound.events.toList = before.events.toList ++ front ++ call :: rest)
    (called : call.isCall fault.point = true)
    (counted : before.tally.get fault.point + front.countP (Event.isCall fault.point) + 1 =
      fault.count)
    (left : last.events.toList = before.events.toList ++ front ++ failing)
    (untouched : (front ++ failing).filter Event.isPort = [])
    (silent : failing.filter Event.isWriter = []) (awake : fault.point ≠ .sleep) :
    Struck fault before sound (Link.afterFailure fault.failure last).1
      (Link.afterFailure fault.failure last).2 := by
  rw [List.filter_append] at untouched
  by_cases transport : fault.failure.isTransport = true
  · have held := HeldPort.isHeld_of_isOpen opened
    rw [Link.afterFailure_of_transport alone held transport]
    refine ⟨front, call, rest, failing ++ [.logged .error s!"Write error: {fault.failure.message}",
      .portClosed, .logged .info "Link closed due to error"], shown, called, counted, ?_, ?_, ?_⟩
    · simp [Link.givenUp, left]
    · simp [silent, awake, Event.isWriter]
    · rw [if_pos ⟨awake, transport⟩]
      refine ⟨rfl, rfl, ?_⟩
      rw [List.filter_append, List.filter_append, ← List.append_assoc, untouched]
      rfl
  · rw [Link.afterFailure_of_other (by simpa using transport)]
    refine ⟨front, call, rest, failing, shown, called, counted, left, ?_, ?_⟩
    · rw [silent, if_neg awake]
    · rw [if_neg fun both => transport both.2, List.filter_append]
      exact ⟨rfl, opened, untouched⟩

/-- The write at which the count of the fault is reached fails as the fault says. -/
theorem write_struck (alone : rig.Alone) (opened : rig.port.isOpen = true)
    (sound : ∀ point count, rig.plan.fault? point count = none)
    (sending : fault.point.isSending = true) (bytes : List UInt8)
    (earlier : rig.tally.get fault.point < fault.count)
    (reached : fault.count ≤ (Link.write bytes rig).2.tally.get fault.point) :
    Struck fault rig (Link.write bytes rig).2 (Link.write bytes (rig.plant fault)).1
      (Link.write bytes (rig.plant fault)).2 := by
  have planned : (rig.plant fault).plan.fault? fault.point fault.count = some fault.failure :=
    Rig.plant_fault?_self
  have planted : (rig.plant fault).Alone := alone.plant sending
  have held : rig.port.isHeld = true := HeldPort.isHeld_of_isOpen opened
  have heldToo : (rig.plant fault).port.isHeld = true := held
  have passed := Link.write_of_passed held (sound _ _) (sound _ _) bytes
  rw [passed] at reached ⊢
  cases point : fault.point with
  | write =>
    rw [point] at earlier reached planned
    have now : rig.tally.write + 1 = fault.count := Nat.le_antisymm earlier reached
    rw [← now] at planned
    rw [Link.write_of_refused heldToo planned bytes]
    refine afterFailure_struck [] [.writeFailed bytes] [.flushed] (.wrote bytes)
      ⟨planted.deaf, planted.away, planted.closes⟩ opened ?_ ?_ ?_ ?_ rfl rfl ?_
    · simp [Link.emptied, Link.written]
    · simp [point, Event.isCall]
    · simpa [point, Tally.get] using now
    · simp [Link.refused, Rig.plant]
    · simp [point]
  | flush =>
    rw [point] at earlier reached planned
    have now : rig.tally.flush + 1 = fault.count := Nat.le_antisymm earlier reached
    rw [← now] at planned
    have taken : (rig.plant fault).plan.fault? .write (rig.tally.write + 1) = none :=
      Rig.plant_fault?_of_ne fun writing => by rw [point] at writing; cases writing
    rw [Link.write_of_stuck heldToo taken planned bytes]
    refine afterFailure_struck [.wrote bytes] [.flushed] [] .flushed
      ⟨planted.deaf, planted.away, planted.closes⟩ opened ?_ ?_ ?_ ?_ rfl rfl ?_
    · simp [Link.emptied, Link.written]
    · simp [point, Event.isCall]
    · simpa [point, Event.isCall, Tally.get] using now
    · simp [Link.emptied, Link.written, Rig.plant]
    · simp [point]
  | sleep =>
    rw [point] at earlier reached
    exact absurd reached (Nat.not_le_of_lt earlier)
  | _ =>
    rw [point] at sending
    cases sending

/-- The sleep at which the count of the fault is reached fails as the fault says. -/
theorem sleep_struck (alone : rig.Alone) (opened : rig.port.isOpen = true)
    (sound : ∀ point count, rig.plan.fault? point count = none) (duration : Float)
    (earlier : rig.tally.get fault.point < fault.count)
    (reached : fault.count ≤ (Clock.sleep duration rig).2.tally.get fault.point) :
    Struck fault rig (Clock.sleep duration rig).2 (Clock.sleep duration (rig.plant fault)).1
      (Clock.sleep duration (rig.plant fault)).2 := by
  have planned : (rig.plant fault).plan.fault? fault.point fault.count = some fault.failure :=
    Rig.plant_fault?_self
  rw [sleep_of_alone alone (sound _ _) duration] at reached ⊢
  by_cases point : fault.point = .sleep
  · rw [point] at earlier reached planned
    have now : rig.tally.sleep + 1 = fault.count := Nat.le_antisymm earlier reached
    rw [← now] at planned
    rw [Clock.sleep_of_planned planned duration]
    refine ⟨[], .slept duration, [], [.slept duration], ?_, ?_, ?_, ?_, ?_, ?_⟩
    · simp [Clock.asleep]
    · simp [point, Event.isCall]
    · simpa [point, Tally.get] using now
    · simp [Clock.asleep, Rig.plant]
    · rw [if_pos point]
      rfl
    · rw [if_neg fun both => both.1 point]
      exact ⟨rfl, opened, rfl⟩
  · have uncounted : (Clock.asleep duration rig).tally.get fault.point =
        rig.tally.get fault.point := Tally.get_bump_of_ne rig.tally point
    rw [uncounted] at reached
    exact absurd reached (Nat.not_le_of_lt earlier)

/-- The step at which the count of the fault is reached fails as the fault says. -/
theorem perform_struck (alone : rig.Alone) (opened : rig.port.isOpen = true)
    (sound : ∀ point count, rig.plan.fault? point count = none)
    (sending : fault.point.isSending = true) (step : Step)
    (earlier : rig.tally.get fault.point < fault.count)
    (reached : fault.count ≤ (step.perform rig).2.tally.get fault.point) :
    Struck fault rig (step.perform rig).2 (step.perform (rig.plant fault)).1
      (step.perform (rig.plant fault)).2 := by
  cases step with
  | write bytes => exact write_struck alone opened sound sending bytes earlier reached
  | sleep duration => exact sleep_struck alone opened sound duration earlier reached
  | note message => exact absurd reached (Nat.not_le_of_lt earlier)
  | again notice =>
    rw [show ((again notice).perform rig).2.tally.get fault.point = _ from
      (notice.nextPass_follows alone).2 fault.point sending] at reached
    exact absurd reached (Nat.not_le_of_lt earlier)
  | stop failure => exact absurd reached (Nat.not_le_of_lt earlier)

end Step

namespace Struck

variable {fault : PlannedFault} {first before sound last final : Rig}
  {outcome : Except Failure Unit}

/-- The runs can be looked at from an earlier state on. -/
theorem of_earlier (follows : first.Follows before) (opened : before.port.isOpen = true)
    (sending : fault.point.isSending = true) (struck : Struck fault before sound outcome final) :
    Struck fault first sound outcome final := by
  obtain ⟨front, call, rest, after, shown, called, counted, left, silent, ending⟩ := struck
  obtain ⟨added, grown, tallied⟩ := follows.counted
  have untouched : added.filter Event.isPort = [] := by
    rcases follows.port with ⟨_, same⟩ | ⟨_, dropped, _⟩
    · rw [Event.only_append grown] at same
      exact List.append_cancel_left (same.trans (List.append_nil _).symm)
    · rw [dropped] at opened
      cases opened
  refine ⟨added ++ front, call, rest, after, ?_, called, ?_, ?_, silent, ?_⟩
  · rw [shown, grown, List.append_assoc first.events.toList added front]
  · rw [tallied fault.point sending] at counted
    rw [List.countP_append, ← Nat.add_assoc]
    exact counted
  · rw [left, grown, List.append_assoc first.events.toList added front]
  · rw [List.append_assoc added front after, List.filter_append, untouched, List.nil_append]
    exact ending

/-- The sound run can go on. -/
theorem of_later (struck : Struck fault before sound outcome final) (follows : sound.Follows last) :
    Struck fault before last outcome final := by
  obtain ⟨front, call, rest, after, shown, others⟩ := struck
  obtain ⟨added, grown, _⟩ := follows.counted
  refine ⟨front, call, rest ++ added, after, ?_, others⟩
  rw [grown, shown, List.append_assoc, List.cons_append]

/-- The faulted run fails. -/
theorem fails (struck : Struck fault before sound outcome final) :
    ∃ failure, outcome = .error failure := by
  obtain ⟨_, _, _, _, _, _, _, _, _, ending⟩ := struck
  split at ending
  · exact ⟨_, ending.1⟩
  · exact ⟨_, ending.1⟩

end Struck

/-! ### Steps in a row -/

namespace Step

/-- The step is a pause. -/
def isSleep : Step → Bool
  | sleep _ => true
  | _ => false

/-- Whether a write was made since the last pause of this pass, after a step. -/
def feeds (written : Bool) : Step → Bool
  | write _ => true
  | sleep _ => false
  | again _ => false
  | _ => written

/-- Every pause comes after a write of its own. The flag says that one was made before. -/
def fed : Bool → List Step → Bool
  | _, [] => true
  | written, step :: rest => (written || !step.isSleep) && fed (step.feeds written) rest

theorem fed_of_fed_false {steps : List Step} (unfed : fed false steps = true) (written : Bool) :
    fed written steps = true := by
  induction steps generalizing written with
  | nil => rfl
  | cons step rest inductionHypothesis =>
    simp only [fed, Bool.and_eq_true] at unfed ⊢
    cases step with
    | write bytes => exact ⟨by simp [isSleep], unfed.2⟩
    | sleep duration => exact absurd unfed.1 (by simp [isSleep])
    | note message => exact ⟨by simp [isSleep], inductionHypothesis unfed.2 written⟩
    | again notice => exact ⟨by simp [isSleep], unfed.2⟩
    | stop failure => exact ⟨by simp [isSleep], inductionHypothesis unfed.2 written⟩

theorem fed_append {front back : List Step} {written : Bool} (first : fed written front = true)
    (last : fed false back = true) : fed written (front ++ back) = true := by
  induction front generalizing written with
  | nil => exact fed_of_fed_false last written
  | cons step rest inductionHypothesis =>
    simp only [List.cons_append, fed, Bool.and_eq_true] at first ⊢
    exact ⟨first.1, inductionHypothesis first.2⟩

theorem fed_flatMap {Item : Type} {steps : Item → List Step}
    (each : ∀ item, fed false (steps item) = true) (items : List Item) :
    fed false (items.flatMap steps) = true := by
  induction items with
  | nil => rfl
  | cons item rest inductionHypothesis =>
    exact fed_append (each item) inductionHypothesis

variable {fault : PlannedFault} {rig : Rig}

/-- After a step that passes the port is open, if a write was made since the last pause. -/
theorem port_of_ok (sound : ∀ point count, rig.plan.fault? point count = none) {step : Step}
    {next : Rig} (performed : step.perform rig = (.ok (), next)) {written : Bool}
    (opened : written = true → rig.port.isOpen = true)
    (present : rig.port.isHeld = true → rig.port.isOpen = true)
    (fedNow : step.feeds written = true) : next.port.isOpen = true := by
  cases step with
  | write bytes =>
    have wrote : Link.write bytes rig = (.ok (), next) := performed
    cases held : rig.port.isHeld with
    | true =>
      rw [Link.write_of_passed held (sound _ _) (sound _ _)] at wrote
      cases wrote
      exact present held
    | false =>
      rw [Link.write_of_lost held] at wrote
      cases wrote
  | sleep duration => cases fedNow
  | note message =>
    cases performed
    exact opened fedNow
  | again notice => cases fedNow
  | stop failure => cases performed

/-- A step that calls at a point of the sender does so while the link is open. -/
theorem isOpen_of_call (alone : rig.Alone) {step : Step} {written : Bool}
    (fedStep : (written || !step.isSleep) = true) (opened : written = true → rig.port.isOpen = true)
    (present : rig.port.isHeld = true → rig.port.isOpen = true) {point : Point}
    (sending : point.isSending = true)
    (called : rig.tally.get point < (step.perform rig).2.tally.get point) :
    rig.port.isOpen = true := by
  cases step with
  | write bytes =>
    cases held : rig.port.isHeld with
    | true => exact present held
    | false =>
      rw [show (write bytes).perform rig = _ from Link.write_of_lost held bytes] at called
      exact absurd called (Nat.lt_irrefl _)
  | sleep duration => exact opened (by simpa [isSleep] using fedStep)
  | note message => exact absurd called (Nat.lt_irrefl _)
  | again notice =>
    rw [show ((again notice).perform rig).2.tally.get point = _ from
      (notice.nextPass_follows alone).2 point sending] at called
    exact absurd called (Nat.lt_irrefl _)
  | stop failure => exact absurd called (Nat.lt_irrefl _)

/-- A step whose calls are counted makes them. -/
theorem isCall_of_counted (alone : rig.Alone)
    (sound : ∀ point count, rig.plan.fault? point count = none) {step : Step} {point : Point}
    (sending : point.isSending = true)
    (called : rig.tally.get point < (step.perform rig).2.tally.get point) :
    step.isCall point = true := by
  rcases performed : step.perform rig with ⟨failure | _, next⟩
  · cases step with
    | write bytes =>
      cases held : rig.port.isHeld with
      | true =>
        rw [show (write bytes).perform rig = _ from
          Link.write_of_passed held (sound _ _) (sound _ _) bytes] at performed
        cases performed
      | false =>
        rw [show (write bytes).perform rig = _ from Link.write_of_lost held bytes] at called
        exact absurd called (Nat.lt_irrefl _)
    | sleep duration =>
      rw [show (sleep duration).perform rig = _ from sleep_of_alone alone (sound _ _) duration]
        at performed
      cases performed
    | note message => cases performed
    | again notice =>
      rw [show ((again notice).perform rig).2.tally.get point = _ from
        (notice.nextPass_follows alone).2 point sending] at called
      exact absurd called (Nat.lt_irrefl _)
    | stop failure => exact absurd called (Nat.lt_irrefl _)
  · rw [performed, calls_of_ok alone sound performed sending] at called
    split at called
    · assumption
    · exact absurd called (Nat.lt_irrefl _)

/-- Steps in a row without a fault leave their events behind. -/
theorem performAll_follows (alone : rig.Alone)
    (sound : ∀ point count, rig.plan.fault? point count = none) (steps : List Step) :
    rig.Follows (performAll steps rig).2 := by
  induction steps generalizing rig with
  | nil => exact Std.Refl.refl rig
  | cons step rest inductionHypothesis =>
    have follows := perform_follows alone sound step
    rw [performAll_cons]
    rcases performed : step.perform rig with ⟨failure | _, next⟩
    · rw [bind_of_error performed]
      rwa [performed] at follows
    · rw [performed] at follows
      rw [bind_of_ok performed]
      exact IsTrans.trans _ _ _ follows
        (inductionHypothesis (alone.of_follows follows) (by rw [follows.plan]; exact sound))

/-- When steps in a row reach the count of a fault, one of them does. The steps before it pass,
and they pass as well with the fault planned; the link is open then. -/
theorem performAll_reaches (alone : rig.Alone)
    (sound : ∀ point count, rig.plan.fault? point count = none)
    (sending : fault.point.isSending = true) {steps : List Step} {written : Bool}
    (fedSteps : fed written steps = true) (opened : written = true → rig.port.isOpen = true)
    (present : rig.port.isHeld = true → rig.port.isOpen = true)
    (earlier : rig.tally.get fault.point < fault.count)
    (reached : fault.count ≤ (performAll steps rig).2.tally.get fault.point) :
    ∃ front step back middle, steps = front ++ step :: back ∧
      performAll front rig = (.ok (), middle) ∧
      performAll front (rig.plant fault) = (.ok (), middle.plant fault) ∧
      rig.Follows middle ∧ middle.port.isOpen = true ∧
      rig.tally.get fault.point + front.countP (isCall fault.point) =
        middle.tally.get fault.point ∧
      middle.tally.get fault.point < fault.count ∧
      fault.count ≤ (step.perform middle).2.tally.get fault.point := by
  induction steps generalizing rig written with
  | nil => exact absurd reached (Nat.not_le_of_lt earlier)
  | cons step rest inductionHypothesis =>
    simp only [fed, Bool.and_eq_true] at fedSteps
    by_cases hit : fault.count ≤ (step.perform rig).2.tally.get fault.point
    · have isOpen := isOpen_of_call alone fedSteps.1 opened present sending
        (Nat.lt_of_lt_of_le earlier hit)
      exact ⟨[], step, rest, rig, rfl, rfl, rfl, Std.Refl.refl rig, isOpen, rfl, earlier, hit⟩
    · have later : (step.perform rig).2.tally.get fault.point < fault.count := Nat.lt_of_not_le hit
      have planted := perform_plant alone sound sending step later
      have follows := perform_follows alone sound step
      rw [performAll_cons] at reached
      rcases performed : step.perform rig with ⟨failure | _, next⟩
      · rw [bind_of_error performed] at reached
        rw [performed] at later
        exact absurd reached (Nat.not_le_of_lt later)
      · rw [bind_of_ok performed] at reached
        rw [performed] at later follows planted
        have called := calls_of_ok alone sound performed sending
        have presentNext : next.port.isHeld = true → next.port.isOpen = true := by
          rcases follows.port with ⟨same, _⟩ | ⟨_, dropped, _⟩
          · rw [same]
            exact present
          · rw [dropped]
            exact id
        obtain ⟨front, struck, back, middle, shape, passed, passedToo, followsOn, isOpen, counted,
          before, strikes⟩ := inductionHypothesis (alone.of_follows follows)
            (by rw [follows.plan]; exact sound) fedSteps.2
            (port_of_ok sound performed opened present) presentNext later reached
        refine ⟨step :: front, struck, back, middle, by rw [shape]; rfl, ?_, ?_,
          IsTrans.trans _ _ _ follows followsOn, isOpen, ?_, before, strikes⟩
        · rw [performAll_cons, bind_of_ok performed]
          exact passed
        · rw [performAll_cons, bind_of_ok planted]
          exact passedToo
        · rw [called] at counted
          rw [List.countP_cons, Nat.add_comm (List.countP _ _), ← Nat.add_assoc]
          exact counted

end Step

/-! ### Whole scripts -/

namespace Sender

open Step

theorem charSteps_fed (sender : Sender) (char : Char) :
    fed false (sender.charSteps char) = true := by
  unfold charSteps pauseStep
  split
  · rfl
  · split <;> rfl

theorem scanSteps_fed (sender : Sender) (line : List Char) :
    fed false (sender.scanSteps line) = true := by
  unfold scanSteps directiveSteps settleSteps
  split
  · rfl
  · rfl
  · split
    · split <;> rfl
    · rfl

theorem textSteps_fed (sender : Sender) (text : List Char) :
    fed false (sender.textSteps text) = true :=
  fed_flatMap (fun raw => fed_append (fed_flatMap sender.charSteps_fed _)
    (sender.scanSteps_fed (Script.clean raw))) _

theorem passSteps_fed (sender : Sender) (notice : PassNotice) (text : List Char) (bound : Nat) :
    fed false (sender.passSteps notice text bound) = true := by
  induction bound with
  | zero => rfl
  | succ bound inductionHypothesis =>
    exact fed_append (sender.textSteps_fed text) inductionHypothesis

theorem scriptSteps_fed (sender : Sender) (bound : Nat) (notice : PassNotice) (text : List Char)
    (again : Bool) : fed false (sender.scriptSteps bound notice text again) = true := by
  unfold scriptSteps
  split
  · exact sender.passSteps_fed notice text bound
  · exact sender.textSteps_fed text

theorem mem_textSteps_of_isCall {sender : Sender} {notice : PassNotice} {text : List Char}
    {bound : Nat} {step : Step} (member : step ∈ sender.passSteps notice text bound) {point : Point}
    (called : step.isCall point = true) : step ∈ sender.textSteps text := by
  induction bound with
  | zero =>
    rw [List.mem_singleton.mp member] at called
    cases called
  | succ bound inductionHypothesis =>
    rcases List.mem_append.mp member with inText | later
    · exact inText
    · rcases List.mem_cons.mp later with rfl | inPasses
      · cases called
      · exact inductionHypothesis inPasses

/-- A call of a repeated script that so many calls at its point precede is made within more than
so many passes, because every pass makes at least one. -/
theorem passSteps_within {sender : Sender} {notice : PassNotice} {text : List Char}
    {passes : Nat} {front back : List Step} {step : Step}
    (shape : sender.passSteps notice text passes = front ++ step :: back) {point : Point}
    (called : step.isCall point = true) {bound : Nat}
    (fewer : front.countP (isCall point) < bound) :
    ∃ rest, sender.passSteps notice text bound = front ++ step :: rest := by
  induction bound generalizing front passes with
  | zero => exact absurd fewer (Nat.not_lt_zero _)
  | succ bound inductionHypothesis =>
    have among : step ∈ sender.passSteps notice text passes := by
      rw [shape]
      exact List.mem_append_right front List.mem_cons_self
    cases passes with
    | zero =>
      rw [List.mem_singleton.mp among] at called
      cases called
    | succ passes =>
      rw [passSteps] at shape ⊢
      -- Either the first pass lies in front of the call, or the call is made in it.
      rcases List.append_eq_append_iff.mp shape with
        ⟨between, whole, others⟩ | ⟨left, text_eq, others⟩
      · rcases List.cons_eq_append_iff.mp others with ⟨_, first⟩ | ⟨between, rfl, inOthers⟩
        · injection first with same
          rw [same] at called
          cases called
        · have positive : 0 < (sender.textSteps text).countP (isCall point) :=
            List.countP_pos_iff.mpr ⟨step, mem_textSteps_of_isCall among called, called⟩
          have fewerOthers : between.countP (isCall point) < bound := by
            rw [whole, List.countP_append, List.countP_cons] at fewer
            omega
          obtain ⟨rest, shapeOthers⟩ := inductionHypothesis inOthers fewerOthers
          exact ⟨rest, by rw [shapeOthers, whole, List.append_assoc]; rfl⟩
      · rcases List.cons_eq_append_iff.mp others with ⟨_, first⟩ | ⟨left, rfl, _⟩
        · injection first with same
          rw [← same] at called
          cases called
        · exact ⟨left ++ .again notice :: sender.passSteps notice text bound, by
            rw [text_eq, List.append_assoc]; rfl⟩

theorem scriptSteps_within {sender : Sender} {notice : PassNotice} {text : List Char}
    {again : Bool} {passes : Nat} {front back : List Step} {step : Step}
    (shape : sender.scriptSteps passes notice text again = front ++ step :: back) {point : Point}
    (called : step.isCall point = true) {bound : Nat}
    (fewer : front.countP (isCall point) < bound) :
    ∃ rest, sender.scriptSteps bound notice text again = front ++ step :: rest := by
  unfold scriptSteps at shape ⊢
  by_cases repeats : (again && !text.isEmpty) = true
  · rw [if_pos repeats] at shape ⊢
    exact passSteps_within shape called fewer
  · rw [if_neg repeats] at shape ⊢
    exact ⟨back, shape⟩

theorem ready_follows (text : List Char) (again : Bool) (rig : Rig) :
    rig.Follows (ready text again rig) := by
  unfold ready
  split
  · exact { Rig.Follows.push (fun _ => rfl) rfl rig with }
  · exact { (Std.Refl.refl rig : rig.Follows rig) with }

theorem count_lt_passBound (fault : PlannedFault) (rig : Rig) (notice : PassNotice) :
    fault.count < passBound (rig.plant fault).plan notice := by
  have horizon : fault.count ≤ (rig.plant fault).plan.horizon :=
    Plan.count_le_horizon (List.mem_singleton_self fault)
  unfold passBound
  omega

/-- One call of the sender that fails, in whatever way, ends a script there, whether the script
is sent once or repeatedly. -/
theorem sendScript_struck (sender : Sender) (notice : PassNotice) (text : List Char) (again : Bool)
    {rig : Rig} (faultless : rig.plan.faults = []) (deaf : rig.listener ≠ .listening)
    (away : rig.keyboard.active = false) (opened : rig.port.isOpen = true) {fault : PlannedFault}
    (sending : fault.point.isSending = true)
    (ahead : rig.tally.get fault.point < fault.count) (passes : Nat)
    (reached : fault.count ≤
      (sender.sendWithin passes notice text again rig).2.tally.get fault.point) :
    Struck fault rig (sender.sendWithin passes notice text again rig).2
      (sender.sendScript notice text again (rig.plant fault)).1
      (sender.sendScript notice text again (rig.plant fault)).2 := by
  have sound : ∀ point count, rig.plan.fault? point count = none := by
    intro point count
    rw [Plan.fault?, faultless]
    rfl
  have alone : rig.Alone := ⟨deaf, away, sound .close⟩
  have begins := ready_follows text again rig
  rw [sendWithin_apply] at reached ⊢
  obtain ⟨front, step, back, middle, shape, passed, passedToo, follows, isOpen, counted, before,
    strikes⟩ := performAll_reaches (alone.of_follows begins) sound sending
      (sender.scriptSteps_fed passes notice text again) (fun _ => opened) (fun _ => opened) ahead
      reached
  have aloneMiddle := (alone.of_follows begins).of_follows follows
  have soundMiddle : ∀ point count, middle.plan.fault? point count = none := by
    rw [follows.plan]
    exact sound
  have struck := (Step.perform_struck aloneMiddle isOpen soundMiddle sending step before
    strikes).of_earlier (IsTrans.trans _ _ _ begins follows) isOpen sending
  -- The run without the fault goes on after the call.
  have goesOn : (step.perform middle).2.Follows
      (performAll (sender.scriptSteps passes notice text again) (ready text again rig)).2 := by
    rw [shape, performAll_append, bind_of_ok passed, performAll_cons]
    have followsStep := perform_follows aloneMiddle soundMiddle step
    rcases performed : step.perform middle with ⟨failure | _, next⟩
    · rw [bind_of_error performed]
      exact Std.Refl.refl next
    · rw [performed] at followsStep
      rw [bind_of_ok performed]
      exact performAll_follows (aloneMiddle.of_follows followsStep)
        (by rw [followsStep.plan]; exact soundMiddle) back
  -- The run with the fault makes the same call, and ends there.
  have called := isCall_of_counted aloneMiddle soundMiddle sending
    (Nat.lt_of_lt_of_le before strikes)
  have fewer : front.countP (isCall fault.point) < passBound (rig.plant fault).plan notice := by
    refine Nat.lt_of_le_of_lt ?_ (count_lt_passBound fault rig notice)
    omega
  obtain ⟨rest, shapeToo⟩ := scriptSteps_within shape called fewer
  have readyToo : ready text again (rig.plant fault) = (ready text again rig).plant fault := rfl
  have ends : sender.sendScript notice text again (rig.plant fault) =
      step.perform (middle.plant fault) := by
    obtain ⟨failure, failed⟩ := struck.fails
    have performed : step.perform (middle.plant fault) =
        (.error failure, (step.perform (middle.plant fault)).2) := Prod.ext failed rfl
    unfold sendScript
    rw [look_bind, sendWithin_apply, readyToo, shapeToo, performAll_append, bind_of_ok passedToo,
      performAll_cons, bind_of_error performed]
    exact performed.symm
  rw [ends]
  exact struck.of_later goesOn

/-- The buffer of the port is not emptied after the third character, in the second pass. -/
theorem sendScript_struck_flushing :
    let rig : Rig := { plan := {}, settings := { port := "COM3" }, port := .held true }
    let fault : PlannedFault := ⟨.flush, 3, .transportTimeout "gone"⟩
    let faulted := sendScript {} .silent "ab".toList true (rig.plant fault)
    rig.tally.get .flush < 3 ∧
      3 ≤ (sendWithin {} 2 .silent "ab".toList true rig).2.tally.get .flush ∧
      faulted.1 = .error (.link (.writing "gone")) ∧ faulted.2.port = .none := by
  intro rig fault faulted
  have ahead : rig.tally.get .flush < 3 := by decide
  have reached : 3 ≤ (sendWithin {} 2 .silent "ab".toList true rig).2.tally.get .flush := by
    rw [sendWithin_apply]
    decide +kernel
  have deaf : rig.listener ≠ .listening := by decide
  have struck : Struck fault rig _ _ _ :=
    sendScript_struck {} .silent "ab".toList true rfl deaf rfl rfl rfl ahead 2 reached
  obtain ⟨_, _, _, _, _, _, _, _, _, ending⟩ := struck
  rw [if_pos (by decide)] at ending
  exact ⟨ahead, reached, ending.1, ending.2.1⟩

end Sender

end KeyFeed
