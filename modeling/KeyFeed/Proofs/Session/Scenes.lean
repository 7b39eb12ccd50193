/-
This file takes the interactive phase apart, down to the steps between which somebody else can
come in: one look at the session, one look for a key, one arrival during a pause, one call to
the port. A scene says where the phase stands and what the rig is then, and each scene has
one that follows. Whatever the phase comes to is what its last scene holds, so what is true
of every scene is true of the phase at every moment.
-/

import KeyFeed.Proofs.Session.Finishing
import KeyFeed.Proofs.Session.Restoring
import Mathlib.Logic.Function.Iterate

namespace KeyFeed.Session

open KeyFeed.Run

/-! ### Steps -/

/-- Where the interactive phase stands. -/
inductive Place where
  /-- The console is not ready yet. -/
  | starting
  /-- It has to be seen whether the session goes on. -/
  | deciding
  /-- A key has to be looked for. -/
  | polling
  /-- There was no key. -/
  | pausing
  /-- This arrives during the pause. -/
  | hearing (arrivals : List Arrival)
  /-- The user makes keystrokes before the pause is over. -/
  | typing
  /-- The key that was read cancels. -/
  | cancelling
  /-- The key that was read has to be sent. -/
  | sending (key : Key)
  | writing (bytes : List UInt8)
  | flushing
  /-- The port has failed. -/
  | failing (failure : Failure)
  /-- The console has to be restored. -/
  | ending (outcome : Except Failure Unit)
  | ended (outcome : Except Failure Unit)

namespace Place

/-- The step that the phase takes in a place, with the place to which it comes. -/
def step (sender : Sender) : Place → Run Place
  | starting => do
    Console.start
    return deciding
  | deciding => return if ← isLive then polling else ending (.ok ())
  | polling => do
    match ← Console.readKey with
    | none => return pausing
    | some key => return if key.isCancel then cancelling else sending key
  | pausing => do
    record (.slept sender.pacing.perPoll)
    reach .sleep
    let rig ← look
    return hearing (rig.plan.arrivals rig.tally.sleep)
  | hearing [] => return typing
  | hearing (arrival :: rest) => do
    Echo.deliver arrival
    return hearing rest
  | typing => do
    Console.passTime
    return deciding
  | cancelling => do
    log .info "Cancel key pressed, ending session"
    change fun rig => { rig with running := false }
    return ending (.ok ())
  | sending key => do
    let bytes ← sender.encode key
    Link.requirePort
    return writing bytes
  | writing bytes => do
    Link.put bytes
    return flushing
  | flushing => do
    Link.flush
    return deciding
  | failing failure => do
    Link.afterFailure failure
    return deciding
  | ending outcome => do
    Console.stop
    return ended outcome
  | ended outcome => return ended outcome

theorem step_deciding (sender : Sender) (rig : Rig) :
    deciding.step sender rig = (.ok (if rig.isLive then polling else ending (.ok ())), rig) := rfl

theorem step_polling (sender : Sender) {rig : Rig} {key : Key} {keys : Keys}
    (pending : rig.keyboard.keys.read? = some (key, keys)) :
    polling.step sender rig =
      (.ok (if key.isCancel then cancelling else sending key), Console.left keys rig) :=
  bind_of_ok (Console.readKey_of_some pending) _

/-- The place to which the phase comes when its step fails. -/
def refused : Place → Failure → Place
  | starting, failure => ended (.error failure)
  | writing _, failure => failing failure
  | flushing, failure => failing failure
  | ending _, failure => ended (.error failure)
  | _, failure => ending (.error failure)

end Place

/-! ### Scenes -/

/-- A moment of the interactive phase. -/
structure Scene where
  place : Place
  rig : Rig

namespace Scene

/-- The scene that follows. -/
def next (sender : Sender) (scene : Scene) : Scene :=
  match scene.place.step sender scene.rig with
  | (.ok place, rig) => ⟨place, rig⟩
  | (.error failure, rig) => ⟨scene.place.refused failure, rig⟩

/-- The scene of an interactive phase after so many steps. -/
def after (sender : Sender) (rig : Rig) (count : Nat) : Scene :=
  (next sender)^[count] ⟨.starting, rig⟩

/-- One scene follows from the other in some steps. -/
def Reaches (sender : Sender) (scene last : Scene) : Prop :=
  ∃ count, (next sender)^[count] scene = last

/-- The scene when a part of a round is over: another round, or the end of the phase. -/
def landed : Except Failure Unit × Rig → Scene
  | (.ok (), rig) => ⟨.deciding, rig⟩
  | (.error failure, rig) => ⟨.ending (.error failure), rig⟩

variable {sender : Sender} {rig left : Rig} {first middle last : Scene} {place found : Place}

theorem next_of_ok (steps : place.step sender rig = (.ok found, left)) :
    next sender ⟨place, rig⟩ = ⟨found, left⟩ := by
  unfold next
  rw [steps]

theorem next_of_error {failure : Failure} (fails : place.step sender rig = (.error failure, left)) :
    next sender ⟨place, rig⟩ = ⟨place.refused failure, left⟩ := by
  unfold next
  rw [fails]

theorem Reaches.refl (scene : Scene) : Reaches sender scene scene := ⟨0, rfl⟩

theorem Reaches.trans (earlier : Reaches sender first middle) (later : Reaches sender middle last) :
    Reaches sender first last := by
  obtain ⟨count, rfl⟩ := earlier
  obtain ⟨more, rfl⟩ := later
  exact ⟨more + count, Function.iterate_add_apply _ more count first⟩

/-- A step, and then others. -/
theorem Reaches.head (steps : place.step sender rig = (.ok found, left))
    (later : Reaches sender ⟨found, left⟩ last) : Reaches sender ⟨place, rig⟩ last :=
  Reaches.trans ⟨1, next_of_ok steps⟩ later

theorem Reaches.refused {failure : Failure}
    (fails : place.step sender rig = (.error failure, left)) :
    Reaches sender ⟨place, rig⟩ ⟨place.refused failure, left⟩ :=
  ⟨1, next_of_error fails⟩

/-! ### Parts of a round -/

theorem reaches_hearing (sender : Sender) (arrivals : List Arrival) (rig : Rig) :
    Reaches sender ⟨.hearing arrivals, rig⟩ ⟨.typing, (Echo.deliverAll arrivals rig).2⟩ := by
  induction arrivals generalizing rig with
  | nil => exact ⟨1, rfl⟩
  | cons arrival rest inductionHypothesis =>
    have delivered := (Echo.deliver_neverFails arrival).apply rig
    have steps : (Place.hearing (arrival :: rest)).step sender rig =
        (.ok (.hearing rest), (Echo.deliver arrival rig).2) := bind_of_ok delivered _
    have all : (Echo.deliverAll (arrival :: rest) rig).2 =
        (Echo.deliverAll rest (Echo.deliver arrival rig).2).2 :=
      congrArg Prod.snd (bind_of_ok delivered fun _ => Echo.deliverAll rest)
    rw [all]
    exact .head steps (inductionHypothesis _)

theorem reaches_pausing (sender : Sender) (rig : Rig) :
    Reaches sender ⟨.pausing, rig⟩ (landed (Clock.sleep sender.pacing.perPoll rig)) := by
  let slept : Rig := { rig with events := rig.events.push (.slept sender.pacing.perPoll) }
  let asleep := Clock.asleep sender.pacing.perPoll rig
  cases planned : rig.plan.fault? .sleep (rig.tally.sleep + 1) with
  | some failure =>
    have fails : reach .sleep slept = (.error failure, asleep) := reach_of_planned planned
    have steps : Place.pausing.step sender rig = (.error failure, asleep) := bind_of_error fails _
    rw [Clock.sleep_of_planned planned]
    exact .refused steps
  | none =>
    have passes : reach .sleep slept = (.ok (), asleep) := reach_of_passed planned
    have steps : Place.pausing.step sender rig =
        (.ok (.hearing (rig.plan.arrivals (rig.tally.sleep + 1))), asleep) := bind_of_ok passes _
    rw [Clock.sleep_of_begun planned]
    refine .head steps (.trans (reaches_hearing sender _ asleep) ?_)
    rcases passed : Console.passTime _ with ⟨failure | _, final⟩
    · have fails : Place.typing.step sender _ = (.error failure, final) := bind_of_error passed _
      exact .refused fails
    · have steps : Place.typing.step sender _ = (.ok .deciding, final) := bind_of_ok passed _
      exact .head steps (.refl _)

theorem reaches_failing (sender : Sender) (failure : Failure) (rig : Rig) :
    Reaches sender ⟨.failing failure, rig⟩ (landed (Link.afterFailure failure rig)) := by
  rcases failed : Link.afterFailure failure rig with ⟨reason | _, final⟩
  · have fails : (Place.failing failure).step sender rig = (.error reason, final) :=
      bind_of_error failed _
    exact .refused fails
  · exact absurd failed (Link.afterFailure_ne_ok failure rig final)

theorem reaches_writing (sender : Sender) (bytes : List UInt8) {rig : Rig}
    (held : rig.port.isHeld = true) :
    Reaches sender ⟨.writing bytes, rig⟩ (landed (Link.write bytes rig)) := by
  rw [Link.write_of_held held]
  rcases put : Link.put bytes rig with ⟨failure | _, taken⟩
  · have fails : (Place.writing bytes).step sender rig = (.error failure, taken) :=
      bind_of_error put _
    rw [bind_of_error put]
    exact .trans (.refused fails) (reaches_failing sender failure taken)
  · have steps : (Place.writing bytes).step sender rig = (.ok .flushing, taken) := bind_of_ok put _
    rw [bind_of_ok put]
    refine .head steps ?_
    rcases flush : Link.flush taken with ⟨failure | _, emptied⟩
    · have fails : Place.flushing.step sender taken = (.error failure, emptied) :=
        bind_of_error flush _
      exact .trans (.refused fails) (reaches_failing sender failure emptied)
    · have steps : Place.flushing.step sender taken = (.ok .deciding, emptied) :=
        bind_of_ok flush _
      exact .head steps (.refl _)

theorem reaches_sending (sender : Sender) (key : Key) (rig : Rig) :
    Reaches sender ⟨.sending key, rig⟩ (landed (sender.sendKey key rig)) := by
  have encoding : sender.encode key rig = (sender.bytes key, rig) := resume_apply _ rig
  unfold Sender.sendKey
  cases encoded : sender.bytes key with
  | error failure =>
    rw [encoded] at encoding
    have fails : (Place.sending key).step sender rig = (.error failure, rig) :=
      bind_of_error encoding _
    rw [bind_of_error encoding]
    exact .refused fails
  | ok bytes =>
    rw [encoded] at encoding
    rw [bind_of_ok encoding]
    cases held : rig.port.isHeld with
    | false =>
      have fails : (Place.sending key).step sender rig =
          (.error (.link (.notOpen rig.settings.port)), rig) :=
        (bind_of_ok encoding _).trans (bind_of_error (Link.requirePort_of_lost held) _)
      rw [Link.write_of_lost held]
      exact .refused fails
    | true =>
      have steps : (Place.sending key).step sender rig = (.ok (.writing bytes), rig) :=
        (bind_of_ok encoding _).trans (bind_of_ok (Link.requirePort_of_held held) _)
      exact .head steps (reaches_writing sender bytes held)

theorem reaches_ending (sender : Sender) (activity : Run Unit) (rig : Rig) :
    Reaches sender ⟨.ending (activity rig).1, (activity rig).2⟩
      ⟨.ended (ensuring activity Console.stop rig).1,
        (ensuring activity Console.stop rig).2⟩ := by
  rw [ensuring_apply]
  rcases activity rig with ⟨outcome, left⟩
  dsimp only
  rcases stopped : Console.stop left with ⟨failure | _, final⟩
  · have fails : (Place.ending outcome).step sender left = (.error failure, final) :=
      bind_of_error stopped _
    exact .refused fails
  · have steps : (Place.ending outcome).step sender left = (.ok (.ended outcome), final) :=
      bind_of_ok stopped _
    exact .head steps (.refl _)

/-! ### Rounds and the whole phase -/

/-- The rounds of forwarding end in the scene that holds what they come to. -/
theorem reaches_forward (sender : Sender) {bound : Nat} {rig : Rig}
    (active : rig.keyboard.active = true) (enough : rig.backlog < bound) :
    Reaches sender ⟨.deciding, rig⟩
      ⟨.ending (forward sender bound rig).1, (forward sender bound rig).2⟩ := by
  -- As for the outcome of forwarding, what is left to forward bounds the rounds.
  induction bound generalizing rig with
  | zero => exact absurd enough (Nat.not_lt_zero _)
  | succ bound inductionHypothesis =>
    rw [forward, bind_of_ok (isLive_apply rig)]
    cases live : rig.isLive with
    | false =>
      have steps := Place.step_deciding sender rig
      rw [live] at steps
      exact .head steps (.refl _)
    | true =>
      have steps := Place.step_deciding sender rig
      rw [live, if_pos rfl] at steps
      refine .head steps ?_
      rw [if_pos rfl]
      -- What a part of a round comes to decides whether there is another round.
      have goesOn {activity : Run Unit} {begun : Rig}
          (more : ∀ later, activity begun = (.ok (), later) →
            later.keyboard.active = true ∧ later.backlog < bound) :
          Reaches sender (landed (activity begun))
            ⟨.ending ((activity >>= fun _ => forward sender bound) begun).1,
              ((activity >>= fun _ => forward sender bound) begun).2⟩ := by
        rcases ended : activity begun with ⟨failure | _, later⟩
        · rw [bind_of_error ended]
          exact .refl _
        · rw [bind_of_ok ended]
          obtain ⟨stays, less⟩ := more later ended
          exact inductionHypothesis stays less
      cases pending : rig.keyboard.keys.read? with
      | none =>
        have read := Console.readKey_of_none pending
        have steps : Place.polling.step sender rig = (.ok .pausing, rig) := bind_of_ok read _
        rw [bind_of_ok read]
        refine .head steps (.trans (reaches_pausing sender rig) (goesOn fun later slept => ?_))
        have less := Clock.sleep_backlog active slept
        have stays := ((Clock.sleep_sends _).achieves _ _ _ slept).active
        exact ⟨stays.trans active, by omega⟩
      | some taken =>
        obtain ⟨key, keys⟩ := taken
        have steps := Place.step_polling sender pending
        rw [bind_of_ok (Console.readKey_of_some pending)]
        dsimp only
        cases cancels : key.isCancel with
        | true =>
          rw [cancels] at steps
          exact .head steps ⟨1, rfl⟩
        | false =>
          rw [cancels] at steps
          refine .head steps (.trans (reaches_sending sender key _) (goesOn fun later sent => ?_))
          have fewer := Keys.read?_pending pending
          have less : (Console.left keys rig).backlog < rig.backlog :=
            Nat.add_lt_add_right (Nat.add_lt_add_right fewer _) _
          have same := Sender.sendKey_backlog sent
          have stays := ((sender.sendKey_goesOn key).achieves _ _ _ sent).active
          exact ⟨stays.trans active, by omega⟩

/-- The interactive phase comes to what its last scene holds. -/
theorem exists_after_eq_ended (sender : Sender) (rig : Rig) :
    ∃ count, after sender rig count =
      ⟨.ended (interact sender rig).1, (interact sender rig).2⟩ := by
  show Reaches sender _ _
  unfold interact
  rcases begun : Console.start rig with ⟨failure | _, ready⟩
  · have fails : Place.starting.step sender rig = (.error failure, ready) := bind_of_error begun _
    rw [bind_of_error begun]
    exact .refused fails
  · have steps : Place.starting.step sender rig = (.ok .deciding, ready) := bind_of_ok begun _
    have used := Console.start_active_iff rig
    rw [begun] at used
    rw [bind_of_ok begun, look_bind]
    have forwards := reaches_forward sender (used.mpr rfl) (backlog_lt_forwardBound ready)
    exact .head steps (forwards.trans (reaches_ending sender _ ready))

end Scene

end KeyFeed.Session
