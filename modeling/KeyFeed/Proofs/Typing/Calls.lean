/-
This file says what the two calls of the sender come to: writing bytes, and sleeping.
Each either passes, or it meets a failure that the plan holds for it. A call that passes
adds its own events and counts itself; a call that fails has been counted as well.
-/

import KeyFeed.Proofs.Echo.Loss
import KeyFeed.Proofs.Link.Closing

namespace KeyFeed

open KeyFeed.Run

/-! ### Writing -/

namespace Link

/-- The state after the port has taken bytes. -/
def written (bytes : List UInt8) (rig : Rig) : Rig :=
  { rig with tally := rig.tally.bump .write, events := rig.events.push (.wrote bytes) }

/-- The state after the port has emptied its buffer. -/
def emptied (rig : Rig) : Rig :=
  { rig with tally := rig.tally.bump .flush, events := rig.events.push .flushed }

/-- The state after the port has refused bytes. -/
def refused (bytes : List UInt8) (rig : Rig) : Rig :=
  { rig with tally := rig.tally.bump .write, events := rig.events.push (.writeFailed bytes) }

theorem put_of_passed {rig : Rig} (passed : rig.plan.fault? .write (rig.tally.write + 1) = none)
    (bytes : List UInt8) : put bytes rig = (.ok (), written bytes rig) := by
  unfold put
  rw [attempt_bind, reach_of_passed passed]
  rfl

theorem put_of_planned {rig : Rig} {failure : Failure}
    (planned : rig.plan.fault? .write (rig.tally.write + 1) = some failure) (bytes : List UInt8) :
    put bytes rig = (.error failure, refused bytes rig) := by
  unfold put
  rw [attempt_bind, reach_of_planned planned]
  rfl

theorem flush_of_passed {rig : Rig} (passed : rig.plan.fault? .flush (rig.tally.flush + 1) = none) :
    flush rig = (.ok (), emptied rig) :=
  (record_bind _ _ rig).trans (reach_of_passed passed)

theorem flush_of_planned {rig : Rig} {failure : Failure}
    (planned : rig.plan.fault? .flush (rig.tally.flush + 1) = some failure) :
    flush rig = (.error failure, emptied rig) :=
  (record_bind _ _ rig).trans (reach_of_planned planned)

/-- What is left to do after a write has failed. -/
def afterFailure (failure : Failure) : Run Unit :=
  if failure.isTransport then do
    log .error s!"Write error: {failure.message}"
    dropPort closePort
    fail (.link (.writing failure.message))
  else fail failure

theorem write_of_held {rig : Rig} (held : rig.port.isHeld = true) (bytes : List UInt8) :
    write bytes rig =
      match (put bytes >>= fun _ => flush) rig with
      | (.ok (), next) => (.ok (), next)
      | (.error failure, next) => afterFailure failure next := by
  unfold write
  rw [bind_of_ok (requirePort_of_held held), attempt_bind]
  rcases (put bytes >>= fun _ => flush) rig with ⟨failure | _, next⟩ <;> rfl

theorem write_of_lost {rig : Rig} (lost : rig.port.isHeld = false) (bytes : List UInt8) :
    write bytes rig = (.error (.link (.notOpen rig.settings.port)), rig) :=
  bind_of_error (requirePort_of_lost lost) _

theorem write_of_passed {rig : Rig} (held : rig.port.isHeld = true)
    (taken : rig.plan.fault? .write (rig.tally.write + 1) = none)
    (flushed : rig.plan.fault? .flush (rig.tally.flush + 1) = none) (bytes : List UInt8) :
    write bytes rig = (.ok (), emptied (written bytes rig)) := by
  have flushing : flush (written bytes rig) = (.ok (), emptied (written bytes rig)) :=
    flush_of_passed flushed
  rw [write_of_held held, bind_of_ok (put_of_passed taken bytes), flushing]

/-- The port refuses the bytes. -/
theorem write_of_refused {rig : Rig} {failure : Failure} (held : rig.port.isHeld = true)
    (planned : rig.plan.fault? .write (rig.tally.write + 1) = some failure) (bytes : List UInt8) :
    write bytes rig = afterFailure failure (refused bytes rig) := by
  rw [write_of_held held, bind_of_error (put_of_planned planned bytes)]

/-- The port takes the bytes, but fails to empty its buffer. -/
theorem write_of_stuck {rig : Rig} {failure : Failure} (held : rig.port.isHeld = true)
    (taken : rig.plan.fault? .write (rig.tally.write + 1) = none)
    (planned : rig.plan.fault? .flush (rig.tally.flush + 1) = some failure) (bytes : List UInt8) :
    write bytes rig = afterFailure failure (emptied (written bytes rig)) := by
  have flushing : flush (written bytes rig) = (.error failure, emptied (written bytes rig)) :=
    flush_of_planned planned
  rw [write_of_held held, bind_of_ok (put_of_passed taken bytes), flushing]

theorem afterFailure_of_other {failure : Failure} (other : failure.isTransport = false)
    (rig : Rig) : afterFailure failure rig = (.error failure, rig) := by
  rw [afterFailure, other]
  rfl

/-- What is left to do after a write has failed does not write. -/
theorem afterFailure_aside (failure : Failure) : Leads Rig.Aside (afterFailure failure) := by
  refine .ite ?_ (.fail _)
  exact (log_aside _ _).bind fun _ => dropPort_closePort_aside.bind fun _ => .fail _

theorem afterFailure_ne_ok (failure : Failure) (rig next : Rig) :
    afterFailure failure rig ≠ (.ok (), next) := by
  intro succeeded
  unfold afterFailure at succeeded
  split at succeeded
  · obtain ⟨_, _, _, ended⟩ := bind_eq_ok_iff.mp succeeded
    obtain ⟨_, _, _, impossible⟩ := bind_eq_ok_iff.mp ended
    cases impossible
  · cases succeeded

/-- A write that succeeds has passed at the port and at its buffer. -/
theorem write_ok {rig next : Rig} {bytes : List UInt8}
    (succeeded : write bytes rig = (.ok (), next)) :
    rig.plan.fault? .write (rig.tally.write + 1) = none ∧
      rig.plan.fault? .flush (rig.tally.flush + 1) = none ∧
      next = emptied (written bytes rig) := by
  cases held : rig.port.isHeld with
  | false =>
    rw [write_of_lost held] at succeeded
    cases succeeded
  | true =>
    cases taken : rig.plan.fault? .write (rig.tally.write + 1) with
    | some failure =>
      rw [write_of_refused held taken] at succeeded
      exact absurd succeeded (afterFailure_ne_ok _ _ _)
    | none =>
      cases flushed : rig.plan.fault? .flush (rig.tally.flush + 1) with
      | some failure =>
        rw [write_of_stuck held taken flushed] at succeeded
        exact absurd succeeded (afterFailure_ne_ok _ _ _)
      | none =>
        rw [write_of_passed held taken flushed] at succeeded
        cases succeeded
        exact ⟨rfl, rfl, rfl⟩

end Link

/-! ### Sleeping -/

namespace Clock

/-- The state in which a sleep begins. -/
def asleep (duration : Float) (rig : Rig) : Rig :=
  { rig with tally := rig.tally.bump .sleep, events := rig.events.push (.slept duration) }

/-- During a sleep the listener goes on, and then the user at the console. -/
theorem sleep_of_begun {rig : Rig}
    (passed : rig.plan.fault? .sleep (rig.tally.sleep + 1) = none) (duration : Float) :
    sleep duration rig =
      Console.passTime
        (Echo.deliverAll (rig.plan.arrivals (rig.tally.sleep + 1)) (asleep duration rig)).2 := by
  have begun : reach .sleep { rig with events := rig.events.push (.slept duration) } =
      (.ok (), asleep duration rig) := reach_of_passed passed
  have delivered :=
    (Echo.deliverAll_neverFails (rig.plan.arrivals (rig.tally.sleep + 1))).apply
      (asleep duration rig)
  unfold sleep
  rw [record_bind, bind_of_ok begun, look_bind]
  exact bind_of_ok delivered fun _ => Console.passTime

/-- Away from the console only the listener goes on during a sleep. -/
theorem sleep_of_passed {rig : Rig} (inactive : rig.keyboard.active = false)
    (passed : rig.plan.fault? .sleep (rig.tally.sleep + 1) = none) (duration : Float) :
    sleep duration rig =
      (.ok (),
        (Echo.deliverAll (rig.plan.arrivals (rig.tally.sleep + 1)) (asleep duration rig)).2) := by
  have still := (Echo.deliverAll_aside (rig.plan.arrivals (rig.tally.sleep + 1))
    (asleep duration rig)).keyboard
  rw [sleep_of_begun passed]
  refine Console.passTime_of_inactive ?_
  rw [still]
  exact inactive

theorem sleep_of_planned {rig : Rig} {failure : Failure}
    (planned : rig.plan.fault? .sleep (rig.tally.sleep + 1) = some failure) (duration : Float) :
    sleep duration rig = (.error failure, asleep duration rig) := by
  have begun : reach .sleep { rig with events := rig.events.push (.slept duration) } =
      (.error failure, asleep duration rig) := reach_of_planned planned
  unfold sleep
  rw [record_bind, bind_of_error begun]

/-- A sleep that succeeds was not interrupted, nor was the program when it asked for keys. -/
theorem sleep_ok {rig next : Rig} {duration : Float}
    (succeeded : sleep duration rig = (.ok (), next)) :
    rig.plan.fault? .sleep (rig.tally.sleep + 1) = none ∧
      Console.passTime
        (Echo.deliverAll (rig.plan.arrivals (rig.tally.sleep + 1)) (asleep duration rig)).2 =
          (.ok (), next) := by
  cases planned : rig.plan.fault? .sleep (rig.tally.sleep + 1) with
  | some failure =>
    rw [sleep_of_planned planned] at succeeded
    cases succeeded
  | none =>
    rw [sleep_of_begun planned] at succeeded
    exact ⟨rfl, succeeded⟩

end Clock

end KeyFeed
