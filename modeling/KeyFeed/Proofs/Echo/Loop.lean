/-
This file says what comes of the loop of the listener. However its steps and the doings of others
follow each other, every read that gave bytes is shown once and in its place, every failure that
reaches the loop costs one pause, and the first fault of the link ends it. A loop that is left
does nothing any more, and one whose session has ended begins no read.

What the listener does between two reads is a run of such steps, so all this holds of it too.
-/

import KeyFeed.Proofs.Echo.Steps

namespace KeyFeed

open KeyFeed.Run

open Relation (ReflTransGen)

namespace Echo

namespace Scene

/-! ### The end -/

/-- The loop is left when the flag is found cleared. -/
theorem looking_leaves {rig : Rig} {done : List Arrival} {arrival : Arrival}
    (cleared : rig.running = false) :
    stepped ⟨rig, .looking, done⟩ arrival = ⟨(finish rig).2, .ended, done⟩ :=
  if_neg (by simp [cleared])

/-- The loop that is left reads nothing any more, and nobody changes how it has ended. -/
theorem ended_stays {scene later : Scene} (ended : scene.stand = .ended)
    (reaches : ReflTransGen Moves scene later) :
    later.stand = .ended ∧ later.done = scene.done ∧
      later.rig.listener = scene.rig.listener := by
  induction reaches with
  | refl => exact ⟨ended, rfl, rfl⟩
  | @tail middle next _ moves inductionHypothesis =>
    obtain ⟨stand, done, listener⟩ := inductionHypothesis
    cases moves with
    | apart apart => exact ⟨stand, done, apart.listener.trans listener⟩
    | @step arrival undisturbed =>
      have still : middle.stepped arrival = middle := by
        obtain ⟨rig, last, reads⟩ := middle
        cases stand
        rfl
      rw [still]
      exact ⟨stand, done, listener⟩

/-- The reads so far, and the one that is under way. -/
def readsToCome (scene : Scene) : Nat :=
  scene.reads.length + if scene.stand.isUnderWay then 1 else 0

theorem readsToCome_after (rig : Rig) (well : Stand) (outcome : Except Failure Unit)
    (done : List Arrival) (unheld : well.held = []) :
    readsToCome ⟨rig, well.after outcome, done⟩ ≤
      done.length + if well.isUnderWay then 1 else 0 := by
  cases outcome with
  | ok result =>
    change (done ++ well.held).length + _ ≤ _
    rw [unheld, List.append_nil]
    exact Nat.le_refl _
  | error failure =>
    rw [Stand.after, readsToCome, reads]
    simp

/-- When the flag of the session was cleared, a step of the loop does not set it, and begins no
read. -/
theorem stepped_of_cleared {scene : Scene} (cleared : scene.rig.running = false)
    (arrival : Arrival) :
    (scene.stepped arrival).rig.running = false ∧
      (scene.stepped arrival).readsToCome ≤ scene.readsToCome := by
  obtain ⟨rig, stand, done⟩ := scene
  have running : rig.running = false := cleared
  cases stand with
  | looking =>
    rw [looking_leaves running]
    exact ⟨running, Nat.le_refl _⟩
  | turning =>
    have same : (Link.requirePort rig).2 = rig := by
      cases held : rig.port.isHeld with
      | true => rw [Link.requirePort_of_held held]
      | false => rw [Link.requirePort_of_lost held]
    refine ⟨?_, Nat.le_trans (readsToCome_after _ _ _ _ rfl) ?_⟩
    · change (Link.requirePort rig).2.running = false
      rw [same]
      exact running
    · simp [readsToCome, reads]
  | reading =>
    have still := (Link.receive_aside arrival rig).running_eq_false running
    have counted : readsToCome ⟨rig, .reading, done⟩ = done.length + 1 := by
      simp [readsToCome, reads]
    rw [counted]
    unfold stepped
    dsimp only
    rcases received : Link.receive arrival rig with ⟨failure | bytes, next⟩
    · rw [received] at still
      exact ⟨still, by simp [readsToCome, reads]⟩
    · rw [received] at still
      dsimp only
      split
      · exact ⟨still, by simp [readsToCome, reads]⟩
      · exact ⟨still, by simp [readsToCome, reads]⟩
  | showing bytes =>
    refine ⟨(display_quiet _ rig).toAside.running_eq_false running, ?_⟩
    refine Nat.le_trans (readsToCome_after _ _ _ _ rfl) ?_
    simp [readsToCome, reads]
  | failing failure =>
    have paused : (backOff failure rig).2.running = false := by
      unfold Echo.backOff
      rw [look_bind, running]
      exact running
    cases failure with
    | link fault => exact ⟨rfl, Nat.le_refl _⟩
    | interrupted message => exact ⟨running, Nat.le_refl _⟩
    | _ => exact ⟨paused, Nat.le_refl _⟩
  | ended => exact ⟨running, Nat.le_refl _⟩

/-- After the flag was cleared only a read that is under way is still added to the reads. -/
theorem reads_of_cleared {scene later : Scene} (cleared : scene.rig.running = false)
    (reaches : ReflTransGen Moves scene later) :
    later.reads.length ≤ scene.readsToCome := by
  have kept : later.rig.running = false ∧ later.readsToCome ≤ scene.readsToCome := by
    induction reaches with
    | refl => exact ⟨cleared, Nat.le_refl _⟩
    | tail _ moves inductionHypothesis =>
      obtain ⟨running, few⟩ := inductionHypothesis
      cases moves with
      | @step arrival undisturbed =>
        obtain ⟨still, fewer⟩ := stepped_of_cleared running arrival
        exact ⟨still, Nat.le_trans fewer few⟩
      | apart apart =>
        refine ⟨Bool.eq_false_iff.mpr fun set => ?_, few⟩
        rw [apart.running set] at running
        cases running
  exact Nat.le_trans (Nat.le_add_right _ _) kept.2

/-! ### Whole rounds -/

theorem backOff_neverFails (failure : Failure) : NeverFails (backOff failure) := by
  intro rig
  unfold Echo.backOff
  rw [look_bind]
  split <;> rfl

/-- What the listener does when it is done with a read. -/
def cope : Except Failure Unit → Run Unit
  | .ok () => readOn
  | .error (.link fault) => giveUp fault
  | .error failure =>
    if failure.isOrdinary then do
      backOff failure
      readOn
    else change fun rig => { rig with listener := .ended none }

theorem advance_apply (arrival : Arrival) (rig : Rig) :
    advance arrival rig = cope (take arrival rig).1 (take arrival rig).2 := by
  have backsOff (failure : Failure) (next : Rig) : (backOff failure >>= fun _ => readOn) next =
      (do
        let rig ← look
        if rig.running then log .error s!"Echo drainer error: {failure.message}"
        record (.backedOff pause)
        readOn : Run Unit) next := by
    unfold backOff
    cases running : next.running <;> simp [running]
  unfold advance
  rw [attempt_bind]
  unfold cope
  cases (take arrival rig).1 with
  | ok result => rfl
  | error failure =>
    cases failure with
    | link fault => rfl
    | interrupted message => rfl
    | _ => exact (backsOff _ _).symm

/-- A step whose read does not matter. -/
theorem moves_of_stepped {scene next : Scene} (same : scene.stepped (.bytes []) = next) :
    Moves scene next := same ▸ .step rfl

section

variable (rig : Rig) (done : List Arrival)

/-- The loop goes on to the next read, or to its end. -/
theorem reaches_readOn :
    ∃ stand, (stand = .reading ∨ stand = .ended) ∧
      ReflTransGen Moves ⟨rig, .looking, done⟩ ⟨(readOn rig).2, stand, done⟩ := by
  unfold readOn
  rw [look_bind]
  cases running : rig.running with
  | false =>
    exact ⟨.ended, Or.inr rfl, .single (moves_of_stepped (looking_leaves running))⟩
  | true =>
    have turns : stepped ⟨rig, .looking, done⟩ (.bytes []) = ⟨rig, .turning, done⟩ :=
      if_pos running
    cases held : rig.port.isHeld with
    | true =>
      have reads : stepped ⟨rig, .turning, done⟩ (.bytes []) = ⟨rig, .reading, done⟩ := by
        unfold stepped
        dsimp only
        rw [Link.requirePort_of_held held]
        rfl
      exact ⟨.reading, Or.inl rfl,
        .tail (.single (moves_of_stepped turns)) (moves_of_stepped reads)⟩
    | false =>
      have fails : stepped ⟨rig, .turning, done⟩ (.bytes []) =
          ⟨rig, .failing (.link (.notOpen rig.settings.port)), done⟩ := by
        unfold stepped
        dsimp only
        rw [Link.requirePort_of_lost held]
        rfl
      exact ⟨.ended, Or.inr rfl, .tail (.tail (.single (moves_of_stepped turns))
        (moves_of_stepped fails)) (moves_of_stepped rfl)⟩

theorem reaches_cope (outcome : Except Failure Unit) :
    ∃ stand, (stand = .reading ∨ stand = .ended) ∧
      ReflTransGen Moves ⟨rig, Stand.looking.after outcome, done⟩
        ⟨(cope outcome rig).2, stand, done⟩ := by
  have goesOn {failure : Failure}
      (pauses : stepped ⟨rig, .failing failure, done⟩ (.bytes []) =
        ⟨(backOff failure rig).2, .looking, done⟩)
      (copes : cope (.error failure) rig = (backOff failure >>= fun _ => readOn) rig) :
      ∃ stand, (stand = .reading ∨ stand = .ended) ∧
        ReflTransGen Moves ⟨rig, .failing failure, done⟩
          ⟨(cope (.error failure) rig).2, stand, done⟩ := by
    obtain ⟨stand, rest, reaches⟩ := reaches_readOn (backOff failure rig).2 done
    rw [copes, bind_of_ok ((backOff_neverFails failure).apply rig)]
    exact ⟨stand, rest, .head (moves_of_stepped pauses) reaches⟩
  cases outcome with
  | ok result => exact reaches_readOn rig done
  | error failure =>
    cases failure with
    | link fault => exact ⟨.ended, Or.inr rfl, .single (moves_of_stepped rfl)⟩
    | interrupted message => exact ⟨.ended, Or.inr rfl, .single (moves_of_stepped rfl)⟩
    | _ => exact goesOn rfl rfl

/-- What the listener does from the end of one read to the next one is a run of its steps. -/
theorem reaches_advance {arrival : Arrival} (undisturbed : arrival.isInterruption = false) :
    ∃ stand, (stand = .reading ∨ stand = .ended) ∧
      ReflTransGen Moves ⟨rig, .reading, done⟩
        ⟨(advance arrival rig).2, stand, done ++ [arrival]⟩ := by
  rw [advance_apply]
  have step : Moves ⟨rig, .reading, done⟩ (stepped ⟨rig, .reading, done⟩ arrival) :=
    .step undisturbed
  unfold stepped at step
  dsimp only at step
  cases arrival with
  | failure failure =>
    obtain ⟨cause, failed⟩ := Link.receive_error failure rig
    have received : Link.receive (.failure failure) rig = (.error cause, _) := Prod.ext failed rfl
    have taken : take (.failure failure) rig = (.error cause, _) := bind_of_error received _
    rw [received] at step
    rw [taken]
    obtain ⟨stand, rest, reaches⟩ := reaches_cope (Link.receive (.failure failure) rig).2
      (done ++ [.failure failure]) (.error cause)
    exact ⟨stand, rest, .head step reaches⟩
  | bytes bytes =>
    have received : Link.receive (.bytes bytes) rig = (.ok bytes, rig) := rfl
    have taken : take (.bytes bytes) rig =
        (if bytes.isEmpty then pure () else display (textOf bytes) : Run Unit) rig :=
      bind_of_ok received _
    rw [received] at step
    dsimp only at step
    rw [taken]
    split at step
    · rename_i empty
      rw [if_pos empty]
      obtain ⟨stand, rest, reaches⟩ := reaches_cope rig (done ++ [.bytes bytes]) (.ok ())
      exact ⟨stand, rest, .head step reaches⟩
    · rename_i nonempty
      rw [if_neg nonempty]
      obtain ⟨stand, rest, reaches⟩ := reaches_cope (display (textOf bytes) rig).2
        (done ++ [.bytes bytes]) (display (textOf bytes) rig).1
      exact ⟨stand, rest, .head step (.head (moves_of_stepped rfl) reaches)⟩

end

/-! ### What the listener does -/

/-- The texts so far are those of the reads, and so are the pauses. -/
structure Echoes (first : Rig) (scene : Scene) : Prop where
  /-- A step adds a read if the port is read, and what it adds is what arrives. -/
  reads : ∀ arrival, (scene.stepped arrival).reads =
    scene.reads ++ if scene.stand = .reading then [arrival] else []
  /-- Each read that gave bytes is shown once and in its place. At most the last one has not been
  shown yet. -/
  shown : Event.only first.sink.isNote scene.rig.events ++
      (given scene.stand.held).map (fun bytes => first.sink.note (textOf bytes)) =
    Event.only first.sink.isNote first.events ++
      (given scene.reads).map fun bytes => first.sink.note (textOf bytes)
  /-- What was shown is what was read. -/
  encoded : Charset.latin1.encode ((given scene.reads).map textOf).flatten = bytesOf scene.reads
  /-- A read that gives nothing has no effect. -/
  timeout : scene.stand = .reading →
    scene.stepped (.bytes []) = { scene with stand := .looking, done := scene.done ++ [.bytes []] }
  /-- Each failure that is no fault of the link costs one pause. -/
  paused : pauses scene.rig + scene.stand.due =
    pauses first + (troubles first 0 scene.done).countP fun failure => !failure.isLink

/-- The loop ends with the first fault of the link or with the session, and with nothing else. -/
structure Ends (first : Rig) (scene : Scene) : Prop where
  /-- No fault of the link has come before. -/
  harmless : scene.stand ≠ .ended → scene.rig.listener = .listening ∧
    ((∀ fault, scene.stand ≠ .failing (.link fault)) → Harmless (troubles first 0 scene.done))
  /-- The end of the session ends the loop, without a fault. -/
  flag : scene.stand = .looking → scene.rig.running = false → ∀ arrival,
    (scene.stepped arrival).stand = .ended ∧
      (scene.stepped arrival).rig.listener = .ended none
  /-- A fault of the link, which is the first one, ends the loop and the session. -/
  fault : ∀ fault, scene.stand = .failing (.link fault) →
    Blames first.settings.port (troubles first 0 scene.done) fault ∧
      ∀ arrival, (scene.stepped arrival).stand = .ended ∧
        (scene.stepped arrival).rig.running = false ∧
        (scene.stepped arrival).rig.listener = .ended (some fault)
  /-- After another failure the loop goes on. -/
  goesOn : ∀ failure, scene.stand = .failing failure → failure.isLink = false →
    ∀ arrival, (scene.stepped arrival).stand = .looking
  /-- A loop that has ended holds the first fault of the link, if there was one. -/
  ended : scene.stand = .ended → scene.rig.running = false ∧
    ∃ fault?, scene.rig.listener = .ended fault? ∧
      (fault? = none → Harmless (troubles first 0 scene.done)) ∧
      ∀ fault, fault? = some fault →
        Blames first.settings.port (troubles first 0 scene.done) fault
  /-- A loop that has ended reads and shows nothing any more. -/
  stays : scene.stand = .ended → ∀ later, ReflTransGen Moves scene later →
    later.stand = .ended ∧ later.reads = scene.reads ∧
      later.rig.listener = scene.rig.listener ∧
      Event.only first.sink.isNote later.rig.events =
        Event.only first.sink.isNote scene.rig.events
  /-- After the session has ended, at most the read that is under way is still added. -/
  cleared : scene.rig.running = false → ∀ later, ReflTransGen Moves scene later →
    later.reads.length ≤ scene.reads.length + if scene.stand.isUnderWay then 1 else 0

theorem stepped_reads (scene : Scene) (arrival : Arrival) :
    (scene.stepped arrival).reads =
      scene.reads ++ if scene.stand = .reading then [arrival] else [] := by
  obtain ⟨rig, stand, done⟩ := scene
  cases stand with
  | looking =>
    unfold stepped
    dsimp only
    split <;> simp [reads]
  | turning =>
    have unheld := Stand.held_after (show Stand.reading.held = [] from rfl) (Link.requirePort rig).1
    simp only [stepped, reads, unheld]
    simp
  | reading =>
    unfold stepped
    dsimp only
    rcases received : Link.receive arrival rig with ⟨failure | bytes, next⟩
    · simp [reads]
    · have same : arrival = .bytes bytes := by
        cases arrival with
        | bytes bytes =>
          cases received
          rfl
        | failure failure =>
          obtain ⟨cause, fails⟩ := Link.receive_error failure rig
          rw [received] at fails
          cases fails
      dsimp only
      split <;> simp [reads, same]
  | showing bytes =>
    have unheld := Stand.held_after (show Stand.looking.held = [] from rfl)
      (display (textOf bytes) rig).1
    simp only [stepped, reads, unheld]
    simp
  | failing failure => cases failure <;> simp [stepped, reads, Failure.isOrdinary]
  | ended => simp [stepped, reads]

theorem Sound.echoes {first : Rig} {scene : Scene} (sound : scene.Sound first) :
    scene.Echoes first where
  reads := scene.stepped_reads
  shown := by
    rw [sound.tells.shown, reads, given_append, List.map_append, List.append_assoc]
  encoded := latin1_encode_texts scene.reads
  timeout reading := by
    obtain ⟨rig, stand, done⟩ := scene
    cases reading
    rfl
  paused := sound.tells.paused

theorem Sound.ends {first : Rig} {scene : Scene} (sound : scene.Sound first)
    (prepared : Prepared first.plan) : scene.Ends first where
  harmless going := by
    obtain ⟨rig, stand, done⟩ := scene
    obtain ⟨-, stands⟩ := sound
    cases stand with
    | ended => exact absurd rfl going
    | showing bytes => exact ⟨stands.1, fun _ => stands.2.1⟩
    | failing failure =>
      obtain ⟨listening, -, harmless, -⟩ := stands
      refine ⟨listening, fun other => harmless ?_⟩
      cases failure with
      | link fault => exact absurd rfl (other fault)
      | _ => rfl
    | _ => exact ⟨stands.1, fun _ => stands.2⟩
  flag looking cleared arrival := by
    obtain ⟨rig, stand, done⟩ := scene
    cases looking
    rw [looking_leaves cleared]
    exact ⟨rfl, rfl⟩
  fault fault failing := by
    obtain ⟨rig, stand, done⟩ := scene
    cases failing
    obtain ⟨-, -, -, -, blames⟩ := sound
    exact ⟨blames fault rfl, fun _ => ⟨rfl, rfl, rfl⟩⟩
  goesOn failure failing other arrival := by
    obtain ⟨rig, stand, done⟩ := scene
    cases failing
    obtain ⟨-, -, ordinary, -, -⟩ := sound
    cases failure with
    | link fault => cases other
    | interrupted message => cases ordinary
    | _ => rfl
  ended ended := by
    obtain ⟨rig, stand, done⟩ := scene
    cases ended
    exact sound.stands
  stays ended later reaches := by
    obtain ⟨stand, done, listener⟩ := ended_stays ended reaches
    have shown := (sound.reaches prepared reaches).tells.shown
    rw [done, ← sound.tells.shown] at shown
    exact ⟨stand, by rw [reads, reads, done, stand, ended], listener, shown⟩
  cleared cleared _ reaches := reads_of_cleared cleared reaches

/-- Whatever the reads give, whatever becomes of the shown texts and whatever others do meanwhile:
the listener shows each read that gave bytes once and in its place, pauses once after each failure
that is no fault of the link, and ends with the first fault of the link or with the session.
What it does between two reads is a run of the steps that this is said of. -/
theorem reached_echoes {first : Rig} (prepared : Prepared first.plan) {scene : Scene}
    (reached : ReflTransGen Moves (begun first) scene) :
    scene.Echoes first ∧ scene.Ends first ∧
      (scene.stand = .reading → ∀ arrival : Arrival, arrival.isInterruption = false →
        ∃ stand, (stand = .reading ∨ stand = .ended) ∧
          ReflTransGen Moves scene
            ⟨(advance arrival scene.rig).2, stand, scene.done ++ [arrival]⟩) := by
  have sound := (begun_sound first).reaches prepared reached
  refine ⟨sound.echoes, sound.ends prepared, fun reading arrival undisturbed => ?_⟩
  obtain ⟨rig, stand, done⟩ := scene
  cases reading
  exact reaches_advance rig done undisturbed

/-- The steps of a list of arrivals. -/
theorem reaches_foldl {arrivals : List Arrival}
    (undisturbed : ∀ arrival ∈ arrivals, arrival.isInterruption = false) (scene : Scene) :
    ReflTransGen Moves scene (arrivals.foldl stepped scene) := by
  induction arrivals generalizing scene with
  | nil => exact .refl
  | cons arrival rest inductionHypothesis =>
    obtain ⟨now, later⟩ := List.forall_mem_cons.mp undisturbed
    exact .head (.step now) (inductionHypothesis later _)

/-- The observer refuses the text, and a second read fails at the transport. -/
theorem reached_echoes_of_refusal :
    let first : Rig :=
      { plan := { faults := [⟨.sink, 1, .value "unreadable"⟩] }, settings := { port := "COM3" },
        port := .held true, running := true }
    let scene := [.bytes [], .bytes [], .bytes [0x48, 0x69], .bytes [], .bytes [], .bytes [],
      .bytes []].foldl stepped (begun first)
    let failed : Arrival := .failure (.transport "gone")
    Prepared first.plan ∧ scene.stand = .reading ∧ failed.isInterruption = false ∧
      scene.Echoes first ∧ scene.Ends first ∧ scene.reads = [.bytes [0x48, 0x69]] ∧
      pauses scene.rig = 1 ∧
      (advance failed scene.rig).2.listener = .ended (some (.reading "gone")) ∧
      ∃ stand, (stand = .reading ∨ stand = .ended) ∧
        ReflTransGen Moves scene ⟨(advance failed scene.rig).2, stand, scene.done ++ [failed]⟩ := by
  intro first scene failed
  have prepared : Prepared first.plan := by
    refine ⟨fun fault planned closes => ?_, fun count failure planned => ?_⟩
    · obtain rfl := List.mem_singleton.mp planned
      cases closes
    · obtain ⟨fault, found, rfl⟩ := Option.map_eq_some_iff.mp planned
      obtain rfl := List.mem_singleton.mp (List.mem_of_find?_eq_some found)
      rfl
  have reached : ReflTransGen Moves (begun first) scene := reaches_foldl (by decide) _
  obtain ⟨echoes, ends, rounds⟩ := reached_echoes prepared reached
  exact ⟨prepared, rfl, rfl, echoes, ends, rfl, rfl, rfl, rounds rfl failed rfl⟩

end Scene

end Echo

end KeyFeed
