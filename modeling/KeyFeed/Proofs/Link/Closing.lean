/-
This file says what closing a port and closing the link come to. The listener, whose read
fails by it, has no part in the outcome: that is what the port answers, except that a
failure of the transport is passed over. Afterwards the link holds no port.
-/

import KeyFeed.Proofs.Echo.Aside

namespace KeyFeed

open KeyFeed.Run

theorem Run.reach_fst (point : Point) (rig : Rig) :
    (reach point rig).1 =
      match rig.plan.fault? point (rig.tally.get point + 1) with
      | none => .ok ()
      | some failure => .error failure := by
  cases planned : rig.plan.fault? point (rig.tally.get point + 1) with
  | none => rw [reach_of_passed planned]
  | some failure => rw [reach_of_planned planned]

theorem HeldPort.eq_none_of_not_isHeld {port : HeldPort} (dropped : ¬port.isHeld = true) :
    port = .none := by
  cases port with
  | none => rfl
  | held present => exact absurd rfl dropped

namespace Link

theorem requirePort_of_held {rig : Rig} (held : rig.port.isHeld = true) :
    requirePort rig = (.ok (), rig) := by
  unfold requirePort
  rw [look_bind, if_pos held]
  rfl

theorem requirePort_of_lost {rig : Rig} (lost : rig.port.isHeld = false) :
    requirePort rig = (.error (.link (.notOpen rig.settings.port)), rig) := by
  unfold requirePort
  rw [look_bind, lost]
  rfl

theorem shutPort_fst (rig : Rig) : (shutPort rig).1 = (reach .close rig).1 := by
  rw [shutPort_apply, reach_fst, reach_fst]

/-- The listener has no part in what closing the port comes to. -/
theorem closePort_fst (rig : Rig) : (closePort rig).1 = (reach .close rig).1 := by
  unfold closePort
  rw [← shutPort_fst]
  rcases shut : shutPort rig with ⟨failure | _, next⟩
  · rw [bind_of_error shut]
  · rw [bind_of_ok shut]
    exact Echo.deliver_neverFails _ next

theorem closeQuietly_fst (rig : Rig) :
    (closeQuietly rig).1 =
      match (reach .close rig).1 with
      | .ok () => .ok ()
      | .error failure => if failure.isTransport then .ok () else .error failure := by
  unfold closeQuietly
  rw [attempt_bind, closePort_fst]
  cases (reach .close rig).1 with
  | ok result => rfl
  | error failure =>
    dsimp only
    split <;> rfl

theorem closeLink_fst {rig : Rig} (held : rig.port.isHeld = true) :
    (closeLink rig).1 = (closeQuietly rig).1 := by
  have ensured := ensuring_apply closeQuietly (change fun rig => { rig with port := .none }) rig
  rw [change_apply] at ensured
  unfold closeLink
  rw [look_bind, if_pos held]
  rcases outcome : (closeQuietly rig).1 with failure | _
  · rw [outcome] at ensured
    rw [bind_of_error ensured]
  · rw [outcome] at ensured
    rw [bind_of_ok ensured]
    rfl

theorem closeLink_of_dropped {rig : Rig} (dropped : rig.port.isHeld = false) :
    closeLink rig = (.ok (), rig) := by
  unfold closeLink
  rw [look_bind, dropped]
  rfl

/-- A link that is closed holds no port, whatever closing comes to. -/
theorem closeLink_port (rig : Rig) : (closeLink rig).2.port = .none := by
  cases held : rig.port.isHeld with
  | true =>
    have ensured := ensuring_snd closeQuietly (change fun rig => { rig with port := .none }) rig
    unfold closeLink
    rw [look_bind, if_pos held]
    rcases outcome : ensuring closeQuietly (change fun rig => { rig with port := .none }) rig
      with ⟨failure | result, next⟩
    · rw [outcome] at ensured
      rw [bind_of_error outcome, show next = _ from ensured]
      rfl
    · rw [outcome] at ensured
      rw [bind_of_ok outcome, show next = _ from ensured]
      rfl
  | false =>
    rw [closeLink_of_dropped held]
    exact HeldPort.eq_none_of_not_isHeld (by simp [held])

/-- A link that drops its port is left without one, whatever closing it comes to. -/
theorem dropPort_port {closing : Run Unit}
    (closes : ∀ rig, rig.port = .none → (closing rig).2.port = .none) (rig : Rig) :
    (dropPort closing rig).2.port = .none := by
  unfold dropPort
  rw [look_bind]
  split
  · simp only [change_bind, attempt_bind]
    have closed := closes { rig with port := .none } rfl
    cases (closing { rig with port := .none }).1 with
    | ok result => exact closed
    | error failure =>
      dsimp only
      split
      · exact closed
      · exact closed
  · rename_i dropped
    exact HeldPort.eq_none_of_not_isHeld dropped

end Link

end KeyFeed
