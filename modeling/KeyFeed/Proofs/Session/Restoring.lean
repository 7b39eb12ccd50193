/-
This file balances what a keyboard does to its console: it is made ready and it gets its own
settings back. Calls may come in any order, each may fail, and anything else may happen
between them; still every success of the one is answered by a call of the other, except for
the last success while the keyboard is in use. So a console is never restored twice, and the
interactive phase, however it ends, leaves none behind that waits for it.
-/

import KeyFeed.Proofs.Session.Phases
import Mathlib.Logic.Relation

namespace KeyFeed

open KeyFeed.Run

open Relation (ReflTransGen)
open Rig (GoesOn)

/-! ### What is counted -/

namespace Rig

variable {rig next : Rig}

/-- How often the console was made ready with success. -/
def setUps (rig : Rig) : Nat :=
  (List.range rig.tally.consoleSetUp).countP fun earlier =>
    (rig.plan.fault? .consoleSetUp (earlier + 1)).isNone

/-- The failure that comes next when a console is asked for and made ready. -/
def consoleFault? (rig : Rig) : Option Failure :=
  (rig.plan.fault? .consoleCreation (rig.tally.consoleCreation + 1)).or
    (rig.plan.fault? .consoleSetUp (rig.tally.consoleSetUp + 1))

/-- Each time the console was made ready it has been restored once, except for the last time while
the keyboard is in use. -/
def Balanced (rig : Rig) : Prop :=
  rig.tally.consoleRestoring + (if rig.keyboard.active then 1 else 0) = rig.setUps

/-- The console is neither made ready nor restored. -/
structure Unasked (rig next : Rig) : Prop where
  plan : next.plan = rig.plan
  setUp : next.tally.consoleSetUp = rig.tally.consoleSetUp
  restoring : next.tally.consoleRestoring = rig.tally.consoleRestoring
  active : next.keyboard.active = rig.keyboard.active

theorem GoesOn.unasked (goesOn : rig.GoesOn next) : rig.Unasked next where
  plan := goesOn.plan
  setUp := goesOn.once .consoleSetUp rfl
  restoring := goesOn.once .consoleRestoring rfl
  active := goesOn.active

theorem Unasked.setUps_eq (unasked : rig.Unasked next) : next.setUps = rig.setUps := by
  unfold Rig.setUps
  rw [unasked.plan, unasked.setUp]

theorem Balanced.of_unasked (balanced : rig.Balanced) (unasked : rig.Unasked next) :
    next.Balanced := by
  unfold Balanced at balanced ⊢
  rw [unasked.setUps_eq, unasked.restoring, unasked.active]
  exact balanced

/-- One more call to make the console ready counts if it passes. -/
theorem setUps_of_counted (plan : next.plan = rig.plan)
    (counted : next.tally.consoleSetUp = rig.tally.consoleSetUp + 1) :
    next.setUps = rig.setUps +
      if (rig.plan.fault? .consoleSetUp (rig.tally.consoleSetUp + 1)).isNone then 1 else 0 := by
  unfold setUps
  rw [counted, plan, List.range_succ, List.countP_append, List.countP_singleton]

end Rig

/-! ### Making ready and restoring -/

namespace Console

open Rig (Balanced Unasked)

variable {rig next : Rig}

/-- Making the console ready comes to what is planned for it, and counts if it passes. -/
theorem setUp_comes (rig : Rig) :
    ∃ next, setUp rig = ((rig.consoleFault?).elim (.ok ()) .error, next) ∧
      next.keyboard = rig.keyboard ∧
      next.tally.consoleRestoring = rig.tally.consoleRestoring ∧
      next.setUps = rig.setUps + if rig.consoleFault?.isNone then 1 else 0 := by
  unfold Rig.consoleFault?
  cases creation : rig.plan.fault? .consoleCreation (rig.tally.consoleCreation + 1) with
  | some failure => exact ⟨created rig, setUp_of_uncreated creation, rfl, rfl, rfl⟩
  | none =>
    have begun := setUp_of_created creation
    have counted : (prepared (created rig)).setUps = _ := @Rig.setUps_of_counted rig _ rfl rfl
    cases planned : rig.plan.fault? .consoleSetUp (rig.tally.consoleSetUp + 1) with
    | some failure =>
      rw [planned] at counted
      exact ⟨prepared (created rig), begun.trans (reach_of_planned planned), rfl, rfl, counted⟩
    | none =>
      rw [planned] at counted
      exact ⟨prepared (created rig), begun.trans (reach_of_passed planned), rfl, rfl, counted⟩

theorem start_of_active (active : rig.keyboard.active = true) : start rig = (.ok (), rig) := by
  unfold start
  rw [look_bind, if_pos active]
  rfl

/-- A console that cannot be made ready is not in use. The failures of the system and of the
terminal say that it is unavailable; the others are passed on. -/
theorem start_of_fault (inactive : rig.keyboard.active = false) {failure : Failure}
    (planned : rig.consoleFault? = some failure) :
    (start rig).1 = .error
        (if failure.isConsole then .consoleUnavailable failure.message else failure) ∧
      (start rig).2.keyboard.active = false ∧ (rig.Balanced → (start rig).2.Balanced) := by
  obtain ⟨next, failed, keyboard, restoring, counted⟩ := setUp_comes rig
  rw [planned] at failed counted
  have ends : start rig = (if failure.isConsole then do
      log .error s!"Cannot open console: {failure.message}"
      fail (.consoleUnavailable failure.message)
    else fail failure : Run Unit) next := by
    unfold start
    rw [look_bind, inactive]
    simp only [Bool.false_eq_true, if_false, attempt_bind, failed]
    rfl
  have balanced : rig.Balanced → next.Balanced := by
    unfold Rig.Balanced
    rw [counted, restoring, keyboard]
    exact id
  have still : next.keyboard.active = false := by
    rw [keyboard]
    exact inactive
  rw [ends]
  split
  · exact ⟨rfl, still, fun begun => (balanced begun).of_unasked ⟨rfl, rfl, rfl, rfl⟩⟩
  · exact ⟨rfl, still, balanced⟩

/-- A console that is made ready is in use. -/
theorem start_of_faultless (inactive : rig.keyboard.active = false)
    (passes : rig.consoleFault? = none) :
    (start rig).1 = .ok () ∧ (start rig).2.keyboard.active = true ∧
      (rig.Balanced → (start rig).2.Balanced) := by
  obtain ⟨next, succeeded, keyboard, restoring, counted⟩ := setUp_comes rig
  rw [passes] at succeeded counted
  rw [start_of_ok inactive succeeded]
  refine ⟨rfl, rfl, fun balanced => ?_⟩
  have counts : (reading next).setUps = rig.setUps + 1 := counted
  have restored : (reading next).tally.consoleRestoring = rig.tally.consoleRestoring := restoring
  unfold Rig.Balanced at balanced ⊢
  rw [inactive] at balanced
  rw [counts, restored, ← balanced]
  rfl

theorem start_balanced (balanced : rig.Balanced) : (start rig).2.Balanced := by
  cases active : rig.keyboard.active with
  | true =>
    rw [start_of_active active]
    exact balanced
  | false =>
    cases planned : rig.consoleFault? with
    | some failure => exact (start_of_fault active planned).2.2 balanced
    | none => exact (start_of_faultless active planned).2.2 balanced

/-- The keyboard is in use after starting exactly when that succeeds. -/
theorem start_active_iff (rig : Rig) :
    (start rig).2.keyboard.active = true ↔ (start rig).1 = .ok () := by
  cases active : rig.keyboard.active with
  | true =>
    rw [start_of_active active]
    exact iff_of_true active rfl
  | false =>
    cases planned : rig.consoleFault? with
    | none =>
      obtain ⟨succeeds, used, _⟩ := start_of_faultless active planned
      exact iff_of_true used succeeds
    | some failure =>
      obtain ⟨fails, unused, _⟩ := start_of_fault active planned
      rw [fails, unused]
      exact iff_of_false Bool.false_ne_true fun succeeds => by cases succeeds

/-- Whatever restoring comes to, the keyboard is not in use afterwards. -/
theorem stop_inactive (rig : Rig) : (stop rig).2.keyboard.active = false := by
  cases active : rig.keyboard.active with
  | true => exact (stop_of_active active).active
  | false =>
    rw [stop_of_inactive active]
    exact active

theorem stop_balanced (balanced : rig.Balanced) : (stop rig).2.Balanced := by
  cases active : rig.keyboard.active with
  | true =>
    have restores : (restored rig).Balanced := by
      unfold Rig.Balanced at balanced
      rw [active] at balanced
      exact balanced
    exact restores.of_unasked (GoesOn.of_keyed (stop_of_active active)).unasked
  | false =>
    rw [stop_of_inactive active]
    exact balanced

end Console

namespace Session

theorem interact_balanced (sender : Sender) {rig : Rig} (balanced : rig.Balanced) :
    (interact sender rig).2.Balanced := by
  have started := Console.start_balanced balanced
  unfold interact
  rcases begun : Console.start rig with ⟨failure | _, ready⟩
  · rw [begun] at started
    rw [bind_of_error begun]
    exact started
  · rw [begun] at started
    rw [bind_of_ok begun, look_bind, ensuring_snd]
    exact Console.stop_balanced
      (started.of_unasked (forward_goesOn sender (forwardBound ready) ready).unasked)

/-- However the interactive phase ends, the keyboard is not in use afterwards. -/
theorem interact_inactive (sender : Sender) (rig : Rig) :
    (interact sender rig).2.keyboard.active = false := by
  unfold interact
  rcases begun : Console.start rig with ⟨failure | _, ready⟩
  · have used := Console.start_active_iff rig
    rw [begun] at used
    rw [bind_of_error begun]
    refine Bool.eq_false_iff.mpr fun active => ?_
    cases used.mp active
  · rw [bind_of_ok begun, look_bind, ensuring_snd]
    exact Console.stop_inactive _

end Session

/-! ### Calls in any order -/

namespace Console

/-- What can be asked of a keyboard. -/
inductive Call where
  | start
  | stop
  | interact (sender : Sender)

/-- Does what is asked. -/
def Call.perform : Call → Run Unit
  | start => Console.start
  | stop => Console.stop
  | interact sender => Session.interact sender

/-- The keyboard is asked for something, or something happens that has nothing to do with the
console. -/
inductive Moves : Rig → Rig → Prop where
  | call (call : Call) (rig : Rig) : Moves rig (call.perform rig).2
  | elsewhere {rig next : Rig} (unasked : rig.Unasked next) : Moves rig next

variable {rig next first last : Rig}

theorem Moves.balanced (moves : Moves rig next) (balanced : rig.Balanced) : next.Balanced := by
  cases moves with
  | call call =>
    cases call with
    | start => exact start_balanced balanced
    | stop => exact stop_balanced balanced
    | interact sender => exact Session.interact_balanced sender balanced
  | elsewhere unasked => exact balanced.of_unasked unasked

theorem balanced_of_reached (begun : first.Balanced) (reached : ReflTransGen Moves first last) :
    last.Balanced := by
  induction reached with
  | refl => exact begun
  | tail _ moves inductionHypothesis => exact moves.balanced inductionHypothesis

/-- Whatever was asked of a keyboard since it was new, the calls to restore its console are as many
as those that made it ready, without the last one while it is in use. Starting a keyboard
that is in use and stopping one that is not change nothing. Starting succeeds unless a console
cannot be had or be made ready; then the keyboard is not in use, and the failure is that no
console is available, or, where it comes neither from the system nor from the terminal, the
failure itself. After stopping, even if the console could not be restored, and after the
interactive phase, however it ended, the keyboard is not in use. -/
theorem reached_balanced (new : first.keyboard.active = false)
    (unready : first.tally.consoleSetUp = 0) (unrestored : first.tally.consoleRestoring = 0)
    (reached : ReflTransGen Moves first last) :
    last.tally.consoleRestoring + (if last.keyboard.active then 1 else 0) = last.setUps ∧
      (last.keyboard.active = true → start last = (.ok (), last)) ∧
      (last.keyboard.active = false → stop last = (.ok (), last)) ∧
      (last.keyboard.active = false → last.consoleFault? = none →
        (start last).1 = .ok () ∧ (start last).2.keyboard.active = true) ∧
      (last.keyboard.active = false → ∀ failure, last.consoleFault? = some failure →
        (start last).1 = .error
            (if failure.isConsole then .consoleUnavailable failure.message else failure) ∧
          (start last).2.keyboard.active = false) ∧
      (stop last).2.keyboard.active = false ∧
      ∀ sender, (Session.interact sender last).2.keyboard.active = false := by
  have begun : first.Balanced := by
    unfold Rig.Balanced Rig.setUps
    rw [new, unready, unrestored]
    rfl
  refine ⟨balanced_of_reached begun reached, start_of_active, stop_of_inactive,
    fun inactive passes => ?_, fun inactive failure planned => ?_, stop_inactive last,
    fun sender => Session.interact_inactive sender last⟩
  · exact ⟨(start_of_faultless inactive passes).1, (start_of_faultless inactive passes).2.1⟩
  · exact ⟨(start_of_fault inactive planned).1, (start_of_fault inactive planned).2.1⟩

/-- A key that the port refuses ends the interactive phase, the console refuses to be restored, and
the terminal refuses it the next time. -/
theorem reached_balanced_of_refusals :
    let faults : List PlannedFault :=
      [⟨.write, 1, .transport "gone"⟩, ⟨.consoleRestoring, 1, .system "busy"⟩,
        ⟨.consoleSetUp, 2, .terminal "no tty"⟩]
    let first : Rig :=
      { plan := { faults := faults }, settings := { port := "COM3" }, port := .held true,
        running := true, listener := .listening, batches := [[.key ['a']]] }
    let ended := Session.interact {} first
    let last := ended.2
    first.keyboard.active = false ∧ first.tally.consoleSetUp = 0 ∧
      first.tally.consoleRestoring = 0 ∧ ReflTransGen Moves first last ∧
      ended.1 = .error (.link (.writing "gone")) ∧ last.keyboard.active = false ∧
      last.tally.consoleRestoring = 1 ∧ last.setUps = 1 ∧
      (start last).1 = .error (.consoleUnavailable "no tty") := by
  intro faults first ended last
  have reached : ReflTransGen Moves first last := .single (.call (.interact {}) first)
  obtain ⟨balanced, _, _, _, refused, _⟩ := @reached_balanced first last rfl rfl rfl reached
  have still : last.keyboard.active = false := by rfl
  have restored : last.tally.consoleRestoring = 1 := by rfl
  rw [still, restored] at balanced
  exact ⟨rfl, rfl, rfl, reached, by rfl, still, restored, balanced.symm,
    (refused still (.terminal "no tty") (by rfl)).1⟩

end Console

end KeyFeed
