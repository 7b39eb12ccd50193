/-
This file says what a write comes to that meets a failure at the port. A failure of the
transport costs the link its port and becomes a fault of the link, unless closing the port
brings a failure of another kind: that one takes its place. A failure that is none of the
transport passes through, and the link keeps the port that it was told is broken.
-/

import KeyFeed.Proofs.Echo.Tending
import KeyFeed.Proofs.Typing.Calls

namespace KeyFeed.Link

open KeyFeed.Run

/-- The failure that the next write meets, at the port or while the port empties its buffer. -/
def writeFault? (rig : Rig) : Option Failure :=
  (rig.plan.fault? .write (rig.tally.write + 1)).or (rig.plan.fault? .flush (rig.tally.flush + 1))

/-- The failure that closing the port next time brings. -/
def closeFault? (rig : Rig) : Option Failure := rig.plan.fault? .close (rig.tally.close + 1)

/-- The failure that a write comes to which meets one, where closing the port brings another one or
none. -/
def writeFailure (failure : Failure) (closing : Option Failure) : Failure :=
  if failure.isTransport then
    match closing with
    | none => .link (.writing failure.message)
    | some other => if other.isTransport then .link (.writing failure.message) else other
  else failure

theorem writeFailure_of_other {failure : Failure} (other : failure.isTransport = false)
    (closing : Option Failure) : writeFailure failure closing = failure := by
  unfold writeFailure
  rw [other]
  rfl

theorem writeFailure_of_alike {failure : Failure} {closing : Option Failure}
    (transport : failure.isTransport = true) (alike : ∀ other ∈ closing, other.isTransport = true) :
    writeFailure failure closing = .link (.writing failure.message) := by
  unfold writeFailure
  rw [if_pos transport]
  cases closing with
  | none => rfl
  | some other => exact if_pos (alike other rfl)

theorem writeFailure_of_unlike {failure cause : Failure} (transport : failure.isTransport = true)
    (unlike : cause.isTransport = false) : writeFailure failure (some cause) = cause := by
  unfold writeFailure
  rw [if_pos transport]
  dsimp only
  rw [unlike]
  rfl

/-- Closing the port brings nothing but failures of the transport, or it brings another failure. -/
theorem alike_or_unlike (closing : Option Failure) :
    (∀ other ∈ closing, other.isTransport = true) ∨
      ∃ cause, closing = some cause ∧ cause.isTransport = false := by
  cases closing with
  | none => exact Or.inl nofun
  | some cause =>
    cases alike : cause.isTransport with
    | true =>
      refine Or.inl fun other brought => ?_
      rwa [← Option.some.inj brought]
    | false => exact Or.inr ⟨cause, rfl, alike⟩

/-- A write that meets a failure comes to a fault of the link exactly when that failure is one of
the transport, and so is the one that closing the port brings, if it brings one. -/
theorem writeFailure_of_device {failure : Failure} {closing : Option Failure}
    (device : failure.isConsole = true) (deviceToo : ∀ other ∈ closing, other.isConsole = true) :
    (∃ fault, writeFailure failure closing = .link fault) ↔
      failure.isTransport = true ∧ ∀ other ∈ closing, other.isTransport = true := by
  have noLink (cause : Failure) (console : cause.isConsole = true) (fault : LinkFault) :
      cause ≠ .link fault := by
    rintro rfl
    cases console
  cases transport : failure.isTransport with
  | false =>
    rw [writeFailure_of_other transport]
    refine iff_of_false ?_ (fun both => Bool.false_ne_true both.1)
    rintro ⟨fault, same⟩
    exact noLink failure device fault same
  | true =>
    rcases alike_or_unlike closing with alike | ⟨cause, rfl, unlike⟩
    · exact iff_of_true ⟨_, writeFailure_of_alike transport alike⟩ ⟨rfl, alike⟩
    · rw [writeFailure_of_unlike transport unlike]
      refine iff_of_false ?_ fun both => ?_
      · rintro ⟨fault, same⟩
        exact noLink cause (deviceToo cause rfl) fault same
      · rw [both.2 cause rfl] at unlike
        cases unlike

/-! ### Dropping the port -/

/-- Dropping a port fails only by what closing it brings, when that is none of the transport. -/
theorem dropPort_closePort_fst {rig : Rig} (held : rig.port.isHeld = true) :
    (dropPort closePort rig).1 =
      match closeFault? rig with
      | none => .ok ()
      | some other => if other.isTransport then .ok () else .error other := by
  have closes : (closePort { rig with port := .none }).1 =
      match closeFault? rig with
      | none => .ok ()
      | some failure => .error failure :=
    (closePort_fst { rig with port := .none }).trans (reach_fst .close { rig with port := .none })
  unfold dropPort
  rw [look_bind, if_pos held]
  simp only [change_bind, attempt_bind]
  rw [closes]
  cases closeFault? rig with
  | none => rfl
  | some other =>
    dsimp only
    split <;> rfl

theorem dropPort_closePort_port (rig : Rig) : (dropPort closePort rig).2.port = .none := by
  refine dropPort_port (fun rig portless => ?_) rig
  exact Rig.PortKept.none (closePort_closes rig).port portless

/-! ### Writes -/

theorem afterFailure_apply {rig : Rig} (held : rig.port.isHeld = true) (failure : Failure) :
    (afterFailure failure rig).1 = .error (writeFailure failure (closeFault? rig)) ∧
      (afterFailure failure rig).2.port =
        if failure.isTransport then .none else rig.port := by
  unfold writeFailure
  by_cases transport : failure.isTransport = true
  · let noted : Rig :=
      { rig with events := rig.events.push (.logged .error s!"Write error: {failure.message}") }
    have outcome : (dropPort closePort noted).1 = _ := dropPort_closePort_fst held
    have dropped := dropPort_closePort_port noted
    have same : closeFault? noted = closeFault? rig := rfl
    rw [same] at outcome
    unfold afterFailure
    rw [if_pos transport, if_pos transport, if_pos transport, log_bind]
    rcases ended : dropPort closePort noted with ⟨other | _, next⟩
    · rw [ended] at outcome dropped
      rw [bind_of_error ended]
      refine ⟨?_, dropped⟩
      cases closing : closeFault? rig with
      | none =>
        rw [closing] at outcome
        cases outcome
      | some cause =>
        rw [closing] at outcome
        dsimp only at outcome ⊢
        split at outcome
        · cases outcome
        · rename_i otherwise
          rw [if_neg otherwise]
          exact outcome
    · rw [ended] at outcome dropped
      rw [bind_of_ok ended]
      refine ⟨?_, dropped⟩
      cases closing : closeFault? rig with
      | none => rfl
      | some cause =>
        rw [closing] at outcome
        dsimp only at outcome ⊢
        split at outcome
        · rename_i alike
          rw [if_pos alike]
          rfl
        · cases outcome
  · rw [afterFailure_of_other (by simpa using transport), if_neg transport, if_neg transport]
    exact ⟨rfl, rfl⟩

/-- A write that meets no failure passes. -/
theorem write_of_sound {rig : Rig} (held : rig.port.isHeld = true)
    (sound : writeFault? rig = none) (bytes : List UInt8) :
    write bytes rig = (.ok (), emptied (written bytes rig)) := by
  obtain ⟨taken, flushed⟩ := Option.or_eq_none_iff.mp sound
  exact write_of_passed held taken flushed bytes

/-- A write that meets a failure fails. A failure of the transport costs the link its port, whatever
closing it brings; with any other the link keeps it. -/
theorem write_of_fault {rig : Rig} {failure : Failure} (held : rig.port.isHeld = true)
    (met : writeFault? rig = some failure) (bytes : List UInt8) :
    (write bytes rig).1 = .error (writeFailure failure (closeFault? rig)) ∧
      (write bytes rig).2.port = if failure.isTransport then .none else rig.port := by
  rcases Option.or_eq_some_iff.mp met with planned | ⟨taken, stuck⟩
  · rw [write_of_refused held planned]
    exact @afterFailure_apply (refused bytes rig) held failure
  · rw [write_of_stuck held taken stuck]
    exact @afterFailure_apply (emptied (written bytes rig)) held failure

/-- A write that meets a failure comes to a fault of the link, which then holds no port, exactly
when the failure is one of the transport, and so is the one that closing the port brings, if it
brings one. -/
theorem write_lost_iff {rig : Rig} {failure : Failure} (held : rig.port.isHeld = true)
    (met : writeFault? rig = some failure) (device : failure.isConsole = true)
    (deviceToo : ∀ other ∈ closeFault? rig, other.isConsole = true) (bytes : List UInt8) :
    (∃ fault, (write bytes rig).1 = .error (.link fault)) ∧ (write bytes rig).2.port = .none ↔
      failure.isTransport = true ∧ ∀ other ∈ closeFault? rig, other.isTransport = true := by
  obtain ⟨outcome, port⟩ := write_of_fault held met bytes
  have faults := writeFailure_of_device device deviceToo
  have same (fault : LinkFault) : (write bytes rig).1 = .error (.link fault) ↔
      writeFailure failure (closeFault? rig) = .link fault := by
    rw [outcome, Except.error.injEq]
  constructor
  · rintro ⟨⟨fault, failed⟩, -⟩
    exact faults.mp ⟨fault, (same fault).mp failed⟩
  · intro both
    obtain ⟨fault, comes⟩ := faults.mpr both
    refine ⟨⟨fault, (same fault).mpr comes⟩, ?_⟩
    rw [port, if_pos both.1]

end KeyFeed.Link
