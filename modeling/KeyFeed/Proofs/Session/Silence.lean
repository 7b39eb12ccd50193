/-
This file says that the interactive phase falls silent with its session. The flag of the session
or the link can be lost during a pause, while a key is sent, or before the phase begins; from
that moment on the port is not called for a write, and no key is looked for. The reason is an
order of the steps: every step that can cost the session its flag or its port goes back to
the look at both before the next key, and every step on the way from that look to the port
leaves both alone.

Only an opening that succeeds brings a session back. One that fails does not set the flag, and
leaves the link as it was, since a port is granted only with stop bits that the port library
takes.
-/

import KeyFeed.Proofs.Session.Lifecycle
import KeyFeed.Proofs.Session.Scenes
import KeyFeed.Proofs.Session.WriteFaults

namespace KeyFeed

open KeyFeed.Run

open Relation (ReflTransGen)

/-! ### Rest -/

/-- Nothing is written, the flag of the session is not set, and the link is not opened. -/
structure Rig.Rests (rig next : Rig) : Prop where
  /-- The port is not called for a write. -/
  uncalled : ∀ point, point.isWriting = true → next.tally.get point = rig.tally.get point
  running : next.running = true → rig.running = true
  port : next.port.isOpen = true → rig.port.isOpen = true

/-- The session and its port are as they were. -/
def Rig.Steady (rig next : Rig) : Prop := next.running = rig.running ∧ next.port = rig.port

namespace Rig

variable {rig next : Rig}

instance : IsPreorder Rig Rig.Steady where
  refl _ := ⟨rfl, rfl⟩
  trans _ _ _ earlier later := ⟨later.1.trans earlier.1, later.2.trans earlier.2⟩

instance : IsPreorder Rig Rig.Rests where
  refl _ := ⟨fun _ _ => rfl, id, id⟩
  trans _ _ _ earlier later :=
    ⟨fun point writes => (later.uncalled point writes).trans (earlier.uncalled point writes),
      fun still => earlier.running (later.running still),
      fun still => earlier.port (later.port still)⟩

theorem isLive_iff : rig.isLive = true ↔ rig.running = true ∧ rig.port.isOpen = true :=
  Bool.and_eq_true_iff

namespace Rests

/-- A session that is over stays over. -/
theorem isLive_eq_false (rests : rig.Rests next) (dead : rig.isLive = false) :
    next.isLive = false := by
  refine Bool.eq_false_iff.mpr fun live => ?_
  obtain ⟨running, port⟩ := isLive_iff.mp live
  rw [isLive_iff.mpr ⟨rests.running running, rests.port port⟩] at dead
  cases dead

theorem of_aside (aside : rig.Aside next) : rig.Rests next where
  uncalled point writes :=
    aside.tally point (Point.ne_of_isWriting writes rfl) (Point.ne_of_isWriting writes rfl)
  running := aside.running
  port still := by
    rcases aside.port with ⟨same, _⟩ | ⟨_, dropped, _⟩
    · rwa [← same]
    · rw [dropped] at still
      cases still

theorem of_keyed (keyed : rig.Keyed next) : rig.Rests next := by
  rw [keyed.frame]
  exact ⟨fun _ _ => rfl, id, id⟩

end Rests

end Rig

open Rig (Rests Steady)

theorem record_steady (event : Event) : Leads Steady (record event) := fun _ => ⟨rfl, rfl⟩

theorem reach_steady (point : Point) : Leads Steady (reach point) := by
  intro rig
  rw [reach_snd]
  exact ⟨rfl, rfl⟩

theorem record_rests (event : Event) : Leads Rests (record event) :=
  fun _ => ⟨fun _ _ => rfl, id, id⟩

theorem log_rests (level : Level) (message : String) : Leads Rests (log level message) :=
  record_rests _

theorem reach_rests {point : Point} (silent : point.isWriting = false) :
    Leads Rests (reach point) := by
  intro rig
  rw [reach_snd]
  refine ⟨fun other writes => ?_, id, id⟩
  exact Tally.get_bump_of_ne rig.tally (Point.ne_of_isWriting writes silent)

namespace Console

theorem start_rests : Leads Rests start :=
  start_leads (fun event _ => record_rests event) (reach_rests rfl) (reach_rests rfl) log_rests
    fun _ => ⟨fun _ _ => rfl, id, id⟩

theorem stop_rests : Leads Rests stop := by
  refine stop_leads (fun rig => ⟨fun point writes => ?_, id, id⟩) fun _ _ => Rests.of_keyed
  exact Tally.get_bump_of_ne rig.tally (Point.ne_of_isWriting writes rfl)

end Console

namespace Session

/-! ### Scenes of a session that is over -/

namespace Place

/-- The way from the look at the session to the port and back. -/
def isBusy : Place → Bool
  | polling => true
  | pausing => true
  | sending _ => true
  | writing _ => true
  | flushing => true
  | _ => false

theorem refused_isBusy (place : Place) (failure : Failure) :
    (place.refused failure).isBusy = false := by
  cases place <;> rfl

variable {sender : Sender} {place : Place}

/-- On the way to the port a step leaves the session and its port alone. -/
theorem step_steady (busy : place.isBusy = true) : Leads Steady (place.step sender) := by
  cases place with
  | polling =>
    have reads : Leads Steady Console.readKey := Console.readKey_keyed.mono fun rig next keyed => by
      rw [keyed.frame]
      exact ⟨rfl, rfl⟩
    refine reads.bind fun taken => ?_
    cases taken <;> exact .pure _
  | pausing =>
    exact (record_steady _).bind fun _ => (reach_steady _).bind fun _ => Leads.look fun rig =>
      Leads.pure _ rig
  | sending key =>
    have requires : Leads Steady Link.requirePort :=
      Leads.look fun rig => Leads.ite (.pure ()) (.fail _) rig
    exact Leads.bind (.resume _) fun _ => requires.bind fun _ => .pure _
  | writing bytes =>
    have puts : Leads Steady (Link.put bytes) := by
      refine (reach_steady _).attempt.bind fun outcome => ?_
      cases outcome with
      | ok _ => exact record_steady _
      | error failure => exact (record_steady _).bind fun _ => .fail _
    exact puts.bind fun _ => .pure _
  | flushing =>
    have flushes : Leads Steady Link.flush := (record_steady _).bind fun _ => reach_steady _
    exact flushes.bind fun _ => .pure _
  | _ => cases busy

/-- Away from the port a step rests. -/
theorem step_rests (idle : place.isBusy = false) : Leads Rests (place.step sender) := by
  have heard (arrival : Arrival) : Leads Rests (Echo.deliver arrival) :=
    (Echo.deliver_aside arrival).mono fun _ _ => .of_aside
  have failed (failure : Failure) : Leads Rests (Link.afterFailure failure) :=
    (Link.afterFailure_aside failure).mono fun _ _ => .of_aside
  have passed : Leads Rests Console.passTime := Console.passTime_keyed.mono fun _ _ => .of_keyed
  have looked : Leads Rests isLive := Leads.look fun rig => Leads.pure _ rig
  have clears : Leads Rests (change fun rig => { rig with running := false }) :=
    fun _ => ⟨fun _ _ => rfl, nofun, id⟩
  cases place with
  | starting => exact Console.start_rests.bind fun _ => .pure _
  | deciding => exact looked.bind fun _ => .pure _
  | hearing arrivals =>
    cases arrivals with
    | nil => exact .pure _
    | cons arrival rest => exact (heard arrival).bind fun _ => .pure _
  | typing => exact passed.bind fun _ => .pure _
  | cancelling => exact (log_rests _ _).bind fun _ => clears.bind fun _ => .pure _
  | failing failure => exact (failed failure).bind fun _ => .pure _
  | ending outcome => exact Console.stop_rests.bind fun _ => .pure _
  | ended outcome => exact .pure _
  | _ => cases idle

/-- Where the activity comes to a place, that is away from the port. -/
def Leaves (activity : Run Place) : Prop :=
  ∀ rig found left, activity rig = (.ok found, left) → found.isBusy = false

theorem Leaves.pure (idle : place.isBusy = false) : Leaves (pure place) := by
  intro rig found left ended
  cases ended
  exact idle

theorem Leaves.bind {Result : Type} {first : Run Result} {second : Result → Run Place}
    (next : ∀ result, Leaves (second result)) : Leaves (first >>= second) := by
  intro rig found left ended
  obtain ⟨result, middle, _, last⟩ := bind_eq_ok_iff.mp ended
  exact next result middle found left last

/-- From a place away from the port only the look at the session leads to it. -/
theorem step_leaves (idle : place.isBusy = false) (other : place ≠ deciding) :
    Leaves (place.step sender) := by
  cases place with
  | deciding => exact absurd rfl other
  | hearing arrivals =>
    cases arrivals with
    | nil => exact .pure rfl
    | cons arrival rest => exact .bind fun _ => .pure rfl
  | cancelling => exact .bind fun _ => .bind fun _ => .pure rfl
  | ended outcome => exact .pure rfl
  | starting => exact .bind fun _ => .pure rfl
  | typing => exact .bind fun _ => .pure rfl
  | failing failure => exact .bind fun _ => .pure rfl
  | ending outcome => exact .bind fun _ => .pure rfl
  | _ => cases idle

end Place

namespace Scene

variable {sender : Sender} {scene : Scene}

/-- On the way to the port the session goes on. -/
def Sound (scene : Scene) : Prop := scene.place.isBusy = true → scene.rig.isLive = true

theorem next_rig (sender : Sender) (scene : Scene) :
    (scene.next sender).rig = (scene.place.step sender scene.rig).2 := by
  unfold next
  rcases scene.place.step sender scene.rig with ⟨failure | found, left⟩ <;> rfl

theorem next_isLive (busy : scene.place.isBusy = true) :
    (scene.next sender).rig.isLive = scene.rig.isLive := by
  obtain ⟨running, port⟩ := Place.step_steady busy scene.rig
  rw [next_rig, Rig.isLive, running, port]
  rfl

theorem sound_of_idle (idle : scene.place.isBusy = false) : scene.Sound := by
  intro busy
  rw [busy] at idle
  cases idle

theorem Sound.next (sound : scene.Sound) : (scene.next sender).Sound := by
  cases idle : scene.place.isBusy with
  | true => exact fun _ => (next_isLive idle).trans (sound idle)
  | false =>
    obtain ⟨place, rig⟩ := scene
    by_cases decides : place = .deciding
    · subst decides
      rw [next_of_ok (Place.step_deciding sender rig)]
      cases live : rig.isLive with
      | true => exact fun _ => live
      | false => exact sound_of_idle rfl
    · rcases steps : place.step sender rig with ⟨failure | found, left⟩
      · rw [next_of_error steps]
        exact sound_of_idle (place.refused_isBusy failure)
      · rw [next_of_ok steps]
        exact sound_of_idle (Place.step_leaves idle decides rig found left steps)

theorem Sound.idle_of_dead (sound : scene.Sound) (dead : scene.rig.isLive = false) :
    scene.place.isBusy = false := by
  refine Bool.eq_false_iff.mpr fun busy => ?_
  rw [sound busy] at dead
  cases dead

/-- The step that ends the session is not one on the way to the port. -/
theorem Sound.idle_of_next (sound : scene.Sound) (dead : (scene.next sender).rig.isLive = false) :
    scene.place.isBusy = false := by
  refine Bool.eq_false_iff.mpr fun busy => ?_
  rw [next_isLive busy, sound busy] at dead
  cases dead

theorem next_rests (sender : Sender) (idle : scene.place.isBusy = false) :
    scene.rig.Rests (scene.next sender).rig := by
  rw [next_rig]
  exact Place.step_rests idle scene.rig

theorem after_succ (sender : Sender) (rig : Rig) (count : Nat) :
    after sender rig (count + 1) = (after sender rig count).next sender :=
  Function.iterate_succ_apply' (next sender) count ⟨.starting, rig⟩

theorem after_sound (sender : Sender) (rig : Rig) (count : Nat) :
    (after sender rig count).Sound := by
  induction count with
  | zero => exact sound_of_idle rfl
  | succ count inductionHypothesis =>
    rw [after_succ]
    exact inductionHypothesis.next

variable {rig : Rig} {count : Nat}

/-- When the session is over, the interactive phase rests from then on and looks for no key. -/
theorem after_rests_of_dead (dead : (after sender rig count).rig.isLive = false) (more : Nat) :
    (after sender rig count).rig.Rests (after sender rig (count + more)).rig ∧
      (after sender rig (count + more)).place.isBusy = false := by
  induction more with
  | zero => exact ⟨Std.Refl.refl _, (after_sound sender rig count).idle_of_dead dead⟩
  | succ more inductionHypothesis =>
    obtain ⟨rests, idle⟩ := inductionHypothesis
    have later := IsTrans.trans _ _ _ rests (next_rests sender idle)
    rw [← after_succ] at later
    exact ⟨later, (after_sound sender rig _).idle_of_dead (later.isLive_eq_false dead)⟩

/-- The step that ends the session rests already. -/
theorem after_rests (dead : (after sender rig (count + 1)).rig.isLive = false) (more : Nat) :
    (after sender rig count).rig.Rests (after sender rig (count + more)).rig ∧
      (after sender rig (count + more)).place.isBusy = false := by
  have ends := dead
  rw [after_succ] at ends
  have idle := (after_sound sender rig count).idle_of_next ends
  cases more with
  | zero => exact ⟨Std.Refl.refl _, idle⟩
  | succ more =>
    obtain ⟨rests, stays⟩ := after_rests_of_dead dead more
    have begins := next_rests sender idle
    rw [← after_succ] at begins
    rw [← Nat.add_assoc, Nat.add_right_comm]
    exact ⟨IsTrans.trans _ _ _ begins rests, stays⟩

end Scene

/-! ### Between the phases -/

/-- Something happens to a session: an operation, where opening is allowed only so far, or its port
goes away. -/
inductive Passes (opening : Rig → Prop) : Rig → Rig → Prop where
  | operation {operation : Operation} {rig : Rig}
      (allowed : operation = .opening → opening rig) : Passes opening rig (operation.perform rig).2
  | unplugged (rig : Rig) : Passes opening rig (Link.unplug rig).2

/-- Opening the session fails. -/
def Fails (rig : Rig) : Prop := (openSession rig).1 ≠ .ok ()

/-- Opening the session fails, where a port is granted only with stop bits that the port library
takes. -/
def FailsVetted (rig : Rig) : Prop := Fails rig ∧ rig.Vets

variable {rig next first last : Rig}

theorem passes_opening {opening : Rig → Prop} (allowed : opening rig) :
    Passes opening rig (openSession rig).2 :=
  @Passes.operation _ .opening _ fun _ => allowed

/-- The flag is set by nothing but an opening that succeeds. -/
theorem Passes.running (passes : Passes Fails rig next) (still : next.running = true) :
    rig.running = true := by
  cases passes with
  | @operation operation _ allowed =>
    by_cases opens : operation = .opening
    · subst opens
      rcases outcome : openSession rig with ⟨failure | _, left⟩
      · have same : left.running = rig.running := (openSession_error outcome).2.1
        rw [← same]
        exact (congrArg (fun ended => ended.2.running) outcome).symm.trans still
      · exact absurd (congrArg Prod.fst outcome) (allowed rfl)
    · exact (Operation.perform_recedes opens rig).running still
  | unplugged => exact still

/-- The link is opened by nothing but an opening that succeeds. -/
theorem Passes.port (passes : Passes FailsVetted rig next) (still : next.port.isOpen = true) :
    rig.port.isOpen = true := by
  cases passes with
  | @operation operation _ allowed =>
    by_cases opens : operation = .opening
    · subst opens
      obtain ⟨fails, vets⟩ := allowed rfl
      rcases outcome : openSession rig with ⟨failure | _, left⟩
      · have same : left.port = rig.port := (openSession_error_of_vets vets outcome).2.2
        rw [← same]
        exact (congrArg (fun ended => ended.2.port.isOpen) outcome).symm.trans still
      · exact absurd (congrArg Prod.fst outcome) fails
    · rcases (Operation.perform_recedes opens rig).port with same | dropped
      · rwa [← same]
      · rw [dropped] at still
        cases still
  | unplugged =>
    have lost : (Link.unplug rig).2.port.isOpen = false := by
      show (if rig.port.isHeld then HeldPort.held false else .none).isOpen = false
      split <;> rfl
    exact absurd (lost.symm.trans still) Bool.false_ne_true

theorem running_of_passes (passes : ReflTransGen (Passes Fails) first last)
    (still : last.running = true) : first.running = true := by
  induction passes with
  | refl => exact still
  | tail _ passes inductionHypothesis => exact inductionHypothesis (passes.running still)

theorem port_of_passes (passes : ReflTransGen (Passes FailsVetted) first last)
    (still : last.port.isOpen = true) : first.port.isOpen = true := by
  induction passes with
  | refl => exact still
  | tail _ passes inductionHypothesis => exact inductionHypothesis (passes.port still)

/-- The interactive phase comes to an end, which is what the last of its scenes holds. From the step
on that costs the session its flag or an open link, the port is not called for a write and no
key is looked for, and neither comes back. This holds of every interactive phase until an
opening succeeds. For the link to stay lost when an opening fails, no port may be granted with
stop bits that the port library does not take. -/
theorem interact_falls_silent (sender : Sender) (rig : Rig) :
    (∃ count, Scene.after sender rig count =
        ⟨.ended (interact sender rig).1, (interact sender rig).2⟩) ∧
      (∀ count, (Scene.after sender rig (count + 1)).rig.isLive = false → ∀ more,
        (Scene.after sender rig count).rig.Rests (Scene.after sender rig (count + more)).rig ∧
          (Scene.after sender rig (count + more)).place ≠ .polling) ∧
      (∀ last, rig.running = false ∧ ReflTransGen (Passes Fails) rig last ∨
          rig.port.isOpen = false ∧ ReflTransGen (Passes FailsVetted) rig last →
        ∀ count, last.Rests (Scene.after sender last count).rig ∧
          (Scene.after sender last count).place ≠ .polling) := by
  have silent {scene : Scene} (idle : scene.place.isBusy = false) : scene.place ≠ .polling := by
    intro polls
    rw [polls] at idle
    cases idle
  refine ⟨Scene.exists_after_eq_ended sender rig, fun count dead more => ?_,
    fun last lost count => ?_⟩
  · obtain ⟨rests, idle⟩ := Scene.after_rests dead more
    exact ⟨rests, silent idle⟩
  · have dead : last.isLive = false := by
      refine Bool.eq_false_iff.mpr fun live => ?_
      obtain ⟨running, port⟩ := Rig.isLive_iff.mp live
      rcases lost with ⟨ended, passes⟩ | ⟨shut, passes⟩
      · exact Bool.false_ne_true (ended.symm.trans (running_of_passes passes running))
      · exact Bool.false_ne_true (shut.symm.trans (port_of_passes passes port))
    have begins : (Scene.after sender last 0).rig.isLive = false := dead
    obtain ⟨rests, idle⟩ := Scene.after_rests_of_dead begins count
    rw [Nat.zero_add] at rests idle
    exact ⟨rests, silent idle⟩

/-- The port goes away during a pause in which the user types two keys: they stay unread. It cannot
be opened again. -/
theorem interact_falls_silent_of_unplugged :
    let plan : Plan :=
      { faults := [⟨.opening, 1, .transport "no such port"⟩]
        duringSleep := [(1, [.failure (.transport "gone")])] }
    let rig : Rig :=
      { plan := plan, settings := { port := "COM3" }, port := .held true, running := true,
        listener := .listening, batches := [[.key ['a'], .key ['b']]] }
    let before := (Scene.after {} rig 4).rig
    let last := (Scene.after {} rig 9).rig
    let reopened := (openSession last).2
    before.isLive = true ∧ (Scene.after {} rig 5).rig.isLive = false ∧
      last.keyboard.keys.pending = [['a'], ['b']] ∧ before.Rests last ∧
      last.port.isOpen = false ∧ Passes FailsVetted last reopened ∧
      reopened.Rests (interact {} reopened).2 := by
  intro plan rig before last reopened
  have dead : (Scene.after {} rig 5).rig.isLive = false := by decide +kernel
  have shut : last.port.isOpen = false := by decide +kernel
  have fails : FailsVetted last := by
    refine ⟨fun succeeds => ?_, fun granted => ?_⟩
    · have refused : (openSession last).1.isOk = false := by decide +kernel
      rw [succeeds] at refused
      cases refused
    · have planned : (last.plan.fault? .opening (last.tally.opening + 1)).isSome = true := by
        decide +kernel
      rw [granted] at planned
      cases planned
  have passes : Passes FailsVetted last reopened := passes_opening fails
  have rests {later : Rig} (passes : Passes FailsVetted last later) :
      later.Rests (interact {} later).2 := by
    obtain ⟨count, comes⟩ := (interact_falls_silent {} later).1
    have stays :=
      ((interact_falls_silent {} last).2.2 later (Or.inr ⟨shut, .single passes⟩) count).1
    rw [comes] at stays
    exact stays
  exact ⟨by decide +kernel, dead, by decide +kernel,
    ((interact_falls_silent {} rig).2.1 4 dead 5).1, shut, passes, rests passes⟩

end Session

end KeyFeed
