/-
This file says what the interactive phase comes to when nothing goes wrong around it. The
keystrokes of a batch are queued while the sender sleeps, and the sender sleeps only when no
key is left to read. So no key is held back to the next batch or joined with one of it: the
keys of each batch are read by themselves, and written one after the other, up to the first
one that cancels.

The end of the input is heard as the escape key. It cancels like any other, unless the keys
of its batch leave a sequence open, which takes it: then nobody reads the console any more
and no key to cancel is left, so the sender goes on looking for keys that cannot come.
-/

import KeyFeed.Proofs.Session.Finishing
import KeyFeed.Proofs.Typing.Course

namespace KeyFeed

open KeyFeed.Run

/-! ### Nothing goes wrong -/

/-- A session goes on, and nothing goes wrong around it. -/
structure Rig.Untroubled (rig : Rig) : Prop where
  /-- No call is planned to fail. -/
  faults : rig.plan.faults = []
  /-- Nothing but bytes arrives, if anybody listens. -/
  arrivals : rig.listener = .listening →
    ∀ planned ∈ rig.plan.duringSleep, ∀ arrival ∈ planned.2, ∃ bytes, arrival = .bytes bytes
  /-- The link is open. -/
  port : rig.port.isOpen = true
  /-- The session goes on. -/
  running : rig.running = true

namespace Rig.Untroubled

variable {rig next : Rig}

theorem fault?_eq_none (untroubled : rig.Untroubled) (point : Point) (count : Nat) :
    rig.plan.fault? point count = none := by
  rw [Plan.fault?, untroubled.faults]
  rfl

theorem of_quiet (untroubled : rig.Untroubled) (quiet : rig.Quiet next)
    (running : next.running = true) : next.Untroubled where
  faults := by rw [quiet.plan]; exact untroubled.faults
  arrivals := by
    rw [quiet.plan]
    exact fun listening => untroubled.arrivals (quiet.listener listening)
  port := by rw [quiet.samePort]; exact untroubled.port
  running := running

theorem of_keyed (untroubled : rig.Untroubled) (keyed : rig.Keyed next) : next.Untroubled := by
  rw [keyed.frame]
  exact { untroubled with }

/-- Bytes that arrive leave the port alone, and the session goes on. -/
theorem deliverAll (untroubled : rig.Untroubled) {arrivals : List Arrival}
    (bytes : ∀ arrival ∈ arrivals, ∃ bytes, arrival = .bytes bytes) :
    rig.Quiet (Echo.deliverAll arrivals rig).2 ∧ (Echo.deliverAll arrivals rig).2.Untroubled := by
  obtain ⟨quiet, reads⟩ := Echo.deliverAll_bytes (untroubled.fault?_eq_none .sink)
    untroubled.running (HeldPort.isHeld_of_isOpen untroubled.port) bytes
  refine ⟨quiet, untroubled.of_quiet quiet ?_⟩
  rw [show (Echo.deliverAll arrivals rig).2 = _ from reads]
  exact untroubled.running

/-- A sleep lets the session go on until the user makes keystrokes. -/
theorem sleep (untroubled : rig.Untroubled) (duration : Float) :
    ∃ next, Clock.sleep duration rig = Console.passTime next ∧ next.Untroubled ∧
      next.keyboard = rig.keyboard ∧ next.batches = rig.batches ∧
      Event.only Event.isWriter next.events =
        Event.only Event.isWriter rig.events ++ [.slept duration] := by
  have begun : (Clock.asleep duration rig).Untroubled := { untroubled with }
  obtain ⟨quiet, still⟩ : (Clock.asleep duration rig).Quiet
        (Echo.deliverAll (rig.plan.arrivals (rig.tally.sleep + 1)) (Clock.asleep duration rig)).2 ∧
      (Echo.deliverAll (rig.plan.arrivals (rig.tally.sleep + 1))
        (Clock.asleep duration rig)).2.Untroubled := by
    by_cases listening : (Clock.asleep duration rig).listener = .listening
    · refine begun.deliverAll fun arrival member => ?_
      obtain ⟨planned, isPlanned, arrives⟩ := Plan.mem_duringSleep_of_mem_arrivals member
      exact untroubled.arrivals listening planned isPlanned arrival arrives
    · rw [Echo.deliverAll_of_deaf listening]
      exact ⟨Std.Refl.refl _, begun⟩
  refine ⟨_, Clock.sleep_of_begun (untroubled.fault?_eq_none _ _) duration, still, quiet.keyboard,
    by rw [quiet.frame]; rfl, ?_⟩
  refine (quiet.only_of_foreign fun event => Event.isWriter_of_isAside).trans ?_
  exact Event.only_push_of_sort rfl rig.events

end Rig.Untroubled

/-! ### Rounds -/

/-- The port takes bytes. -/
def Event.isWrite : Event → Bool
  | wrote _ => true
  | _ => false

theorem Event.only_isWrite (events : Array Event) :
    only isWrite events = (only isWriter events).filter isWrite := by
  rw [only, only, List.filter_filter]
  refine List.filter_congr fun event _ => ?_
  cases event <;> rfl

namespace Session

/-- What the adapter notices when keys are sent, up to the first one that cancels. -/
def typing (charset : Charset) (keys : List Key) : List Event :=
  (keys.takeWhile fun key => !key.isCancel).map fun key => .wrote (charset.encode key)

/-- What the adapter notices of rounds that bring keys, up to the first key that cancels: a pause
for each round, and then the keys of that round. -/
def course (charset : Charset) (pause : Float) : List (List Key) → List Event
  | [] => []
  | keys :: later =>
    .slept pause :: typing charset keys ++
      if keys.any Key.isCancel then [] else course charset pause later

/-- How forwarding goes that reads keys at once, and others in the rounds that come. -/
structure Goes (charset : Charset) (pause : Float) (rig : Rig) (keys : List Key)
    (later : List (List Key)) (outcome : Except Failure Unit) (final : Rig) : Prop where
  events : Event.only Event.isWriter final.events =
    Event.only Event.isWriter rig.events ++
      (typing charset keys ++ if keys.any Key.isCancel then [] else course charset pause later)
  outcome : outcome =
    if (keys :: later).flatten.any Key.isCancel then .ok () else .error (.interrupted "stalled")
  running : final.running = !(keys :: later).flatten.any Key.isCancel

namespace Goes

variable {charset : Charset} {pause : Float} {rig next final : Rig} {key : Key} {keys : List Key}
  {later : List (List Key)} {outcome : Except Failure Unit}

/-- A key that cancels ends the phase. -/
theorem of_cancel (cancels : key.isCancel = true) (ended : final.running = false)
    (silent : Event.only Event.isWriter final.events = Event.only Event.isWriter rig.events) :
    Goes charset pause rig (key :: keys) later (.ok ()) final where
  events := by simp [typing, cancels, silent]
  outcome := by simp [cancels]
  running := by simp [cancels, ended]

/-- A key that does not cancel is written, and then the other keys. -/
theorem of_kept (kept : key.isCancel = false)
    (wrote : Event.only Event.isWriter next.events =
      Event.only Event.isWriter rig.events ++ [.wrote (charset.encode key)])
    (goes : Goes charset pause next keys later outcome final) :
    Goes charset pause rig (key :: keys) later outcome final where
  events := by
    rw [goes.events, wrote]
    simp [typing, kept]
  outcome := by
    rw [goes.outcome]
    simp [kept]
  running := by
    rw [goes.running]
    simp [kept]

/-- Without a key to read the next round brings its own. -/
theorem of_wait
    (slept : Event.only Event.isWriter next.events =
      Event.only Event.isWriter rig.events ++ [.slept pause])
    (goes : Goes charset pause next keys later outcome final) :
    Goes charset pause rig [] (keys :: later) outcome final where
  events := by
    rw [goes.events, slept]
    simp [typing, course]
  outcome := by
    rw [goes.outcome]
    simp
  running := by
    rw [goes.running]
    simp

/-- The last round brings nothing. -/
theorem of_stalled (goesOn : final.running = true)
    (slept : Event.only Event.isWriter final.events =
      Event.only Event.isWriter rig.events ++ [.slept pause]) :
    Goes charset pause rig [] [[]] (.error (.interrupted "stalled")) final where
  events := by
    rw [slept]
    simp [typing, course]
  outcome := by simp
  running := by simp [goesOn]

end Goes

section Phase

variable {sender : Sender} {name : String} {charset : Charset}

theorem bytes_of_known (named : sender.encoding = .value name)
    (known : Charset.find name = .ok charset) (text : List Char) :
    sender.bytes text = .ok (charset.encode text) := by
  unfold Sender.bytes
  rw [named]
  dsimp only
  rw [known]

theorem sendKey_of_untroubled (named : sender.encoding = .value name)
    (known : Charset.find name = .ok charset) {rig : Rig} (untroubled : rig.Untroubled)
    (key : Key) :
    sender.sendKey key rig = (.ok (), Link.emptied (Link.written (charset.encode key) rig)) := by
  unfold Sender.sendKey Sender.encode
  rw [bytes_of_known named known]
  exact Link.write_of_passed (HeldPort.isHeld_of_isOpen untroubled.port)
    (untroubled.fault?_eq_none _ _) (untroubled.fault?_eq_none _ _) _

/-- Forwarding writes the pending keys, and then round by round those that come. -/
theorem forward_goes (named : sender.encoding = .value name)
    (known : Charset.find name = .ok charset) {bound : Nat} {rig : Rig}
    (untroubled : rig.Untroubled) (active : rig.keyboard.active = true)
    (enough : rig.backlog < bound) :
    Goes charset sender.pacing.perPoll rig (Key.readAll rig.keyboard.keys.pending)
      ((Console.coming rig).map Key.readAll) (forward sender bound rig).1
      (forward sender bound rig).2 := by
  -- Each round takes one from the bound and at least one from what is left to forward.
  induction bound generalizing rig with
  | zero => exact absurd enough (Nat.not_lt_zero _)
  | succ bound inductionHypothesis =>
    have live : rig.isLive = true := by
      rw [Rig.isLive, untroubled.running, untroubled.port]
      rfl
    rw [forward, bind_of_ok (isLive_apply rig), live, if_pos rfl]
    cases pending : rig.keyboard.keys.pending with
    | nil =>
      obtain ⟨begun, sleeps, still, keyboard, batches, slept⟩ :=
        untroubled.sleep sender.pacing.perPoll
      have activeToo : begun.keyboard.active = true := keyboard ▸ active
      have sameComing : Console.coming rig = Console.coming begun := by
        rw [Console.coming, Console.coming, keyboard, batches]
      rw [bind_of_ok (Console.readKey_of_none (Keys.read?_of_idle pending)), Key.readAll_nil,
        sameComing]
      dsimp only
      rcases Console.passTime_coming activeToo with
        ⟨last, stalled⟩ | ⟨next, keys, passed, keyed, brought, rounds⟩
      · rw [bind_of_error (sleeps.trans stalled), last, List.map_singleton, Key.readAll_nil]
        exact .of_stalled still.running slept
      · have waited := sleeps.trans passed
        have idle : begun.keyboard.keys.pending = [] := keyboard ▸ pending
        have less := Clock.sleep_backlog active waited
        have goes := inductionHypothesis (still.of_keyed keyed) (keyed.active.trans activeToo)
          (by omega)
        rw [brought, idle, List.nil_append] at goes
        rw [bind_of_ok waited, rounds, List.map_cons]
        refine .of_wait ?_ goes
        exact (keyed.only_of_foreign fun event => Event.isWriter_of_isText).trans slept
    | cons key rest =>
      obtain ⟨left, taken, others⟩ := Keys.read?_of_pending pending
      have fewer : (Console.left left rig).backlog < rig.backlog :=
        Nat.add_lt_add_right (Nat.add_lt_add_right (Keys.read?_pending taken) _) _
      rw [bind_of_ok (Console.readKey_of_some taken), Key.readAll_cons]
      dsimp only
      cases cancels : Key.isCancel (Key.leading key rest).1.flatten with
      | true => exact .of_cancel cancels rfl (Event.only_push_of_not_sort rfl rig.events)
      | false =>
        have untroubledToo : (Console.left left rig).Untroubled := { untroubled with }
        have sent :=
          sendKey_of_untroubled named known untroubledToo (Key.leading key rest).1.flatten
        have same := Sender.sendKey_backlog sent
        have goes := @inductionHypothesis
          (Link.emptied (Link.written (charset.encode (Key.leading key rest).1.flatten)
            (Console.left left rig))) { untroubled with } active (by omega)
        rw [← others]
        simp only [Bool.false_eq_true, if_false]
        rw [bind_of_ok sent]
        refine .of_kept cancels ?_ goes
        exact (Event.only_push_of_not_sort rfl _).trans (Event.only_push_of_sort rfl rig.events)

/-! ### The whole phase -/

/-- The console becomes ready, and its reader begins to read if it does not read already. -/
theorem start_of_untroubled {rig : Rig} (untroubled : rig.Untroubled)
    (reads : rig.keyboard.active = true → rig.keyboard.reading = true) :
    ∃ begun, Console.start rig = (.ok (), begun) ∧ begun.Untroubled ∧
      begun.keyboard.active = true ∧ begun.keyboard.keys = rig.keyboard.keys ∧
      Console.coming begun = Console.hearing true rig.batches ∧
      Event.only Event.isWriter begun.events = Event.only Event.isWriter rig.events := by
  cases active : rig.keyboard.active with
  | true =>
    refine ⟨rig, ?_, untroubled, active, rfl, ?_, rfl⟩
    · unfold Console.start
      rw [look_bind, if_pos active]
      rfl
    · rw [Console.coming, reads active]
  | false =>
    have created := Console.setUp_of_created
      (untroubled.fault?_eq_none .consoleCreation (rig.tally.consoleCreation + 1))
    have prepared : Console.setUp rig = (.ok (), Console.prepared (Console.created rig)) :=
      created.trans (reach_of_passed (untroubled.fault?_eq_none .consoleSetUp _))
    refine ⟨_, Console.start_of_ok active prepared, { untroubled with }, rfl, rfl, rfl, ?_⟩
    refine (Event.only_push_of_not_sort rfl _).trans ?_
    refine (Event.only_push_of_not_sort rfl _).trans ?_
    exact Event.only_push_of_not_sort rfl rig.events

/-- The interactive phase reads the keys that are left over, and then round by round those of the
batches. Afterwards the console is not in use. -/
theorem interact_goes (named : sender.encoding = .value name)
    (known : Charset.find name = .ok charset) {rig : Rig} (untroubled : rig.Untroubled)
    (reads : rig.keyboard.active = true → rig.keyboard.reading = true) :
    Goes charset sender.pacing.perPoll rig (Key.readAll rig.keyboard.keys.pending)
        ((Console.hearing true rig.batches).map Key.readAll) (interact sender rig).1
        (interact sender rig).2 ∧
      (interact sender rig).2.keyboard.active = false := by
  obtain ⟨begun, started, still, active, keys, coming, silent⟩ :=
    start_of_untroubled untroubled reads
  have goes := forward_goes named known still active (backlog_lt_forwardBound begun)
  have goesOn := forward_goesOn sender (forwardBound begun) begun
  have activeToo := goesOn.active.trans active
  have restored := Console.stop_of_active activeToo
  have stopped : (Console.stop (forward sender (forwardBound begun) begun).2).1 = .ok () := by
    refine Console.stop_of_restorable fun failure planned => ?_
    rw [goesOn.plan, still.fault?_eq_none] at planned
    cases planned
  have ended : interact sender rig =
      ((forward sender (forwardBound begun) begun).1,
        (Console.stop (forward sender (forwardBound begun) begun).2).2) := by
    unfold interact
    rw [bind_of_ok started, look_bind, ensuring_apply]
    rcases outcome : Console.stop (forward sender (forwardBound begun) begun).2
      with ⟨failure | _, final⟩
    · rw [outcome] at stopped
      cases stopped
    · rfl
  rw [keys, coming] at goes
  rw [ended]
  refine ⟨⟨?_, goes.outcome, ?_⟩, restored.active⟩
  · rw [← silent, ← goes.events]
    refine (restored.only_of_foreign fun event => Event.isWriter_of_isText).trans ?_
    exact Event.only_push_of_not_sort rfl _
  · rw [← goes.running, restored.frame]
    rfl

/-! ### Keys of a single character -/

/-- What the end of the input comes to, or a read at the console that fails, when nothing else goes
wrong. The escape key that is queued for it is read as a key of its own exactly when the keys
before it in its batch leave no sequence open. In that case, and when a key that cancels is
read before, the phase ends in good order and so does the session. Otherwise the sender finds
no key any more, and waits until it is interrupted. -/
theorem interact_ends (named : sender.encoding = .value name)
    (known : Charset.find name = .ok charset) {rig : Rig} (untroubled : rig.Untroubled)
    (reads : rig.keyboard.active = true → rig.keyboard.reading = true)
    {front back : List (List Keystroke)} {keys : List Key} {mark : Keystroke}
    {late : List Keystroke}
    (batches : rig.batches = front ++ (keys.map .key ++ mark :: late) :: back)
    (unended : ∀ batch ∈ front, batch.any Keystroke.isEnd = false) (marks : Console.IsMark mark) :
    let struck := keys.map Key.received
    let before := Key.readAll rig.keyboard.keys.pending ++
      (front.flatMap fun batch => Key.readAll (Console.heard batch)) ++ Key.readAll struck
    let cancels := ¬Key.LeavesOpen struck ∨ before.any Key.isCancel = true
    let final := interact sender rig
    (Key.readAll (struck ++ [Key.escape]) = Key.readAll struck ++ [Key.escape] ↔
        ¬Key.LeavesOpen struck) ∧
      (cancels → final.1 = .ok () ∧ final.2.running = false) ∧
      (¬cancels → final.1 = .error (.interrupted "stalled")) := by
  intro struck before cancels final
  obtain ⟨heard, ended⟩ := Console.heard_of_mark marks keys late
  have goes := (interact_goes named known untroubled reads).1
  have rounds : (Key.readAll rig.keyboard.keys.pending ::
      (Console.hearing true rig.batches).map Key.readAll).flatten =
        Key.readAll rig.keyboard.keys.pending ++
          ((front.flatMap fun batch => Key.readAll (Console.heard batch)) ++
            Key.readAll (struck ++ [Key.escape])) := by
    rw [batches, Console.hearing_of_ended unended ended, heard, List.map_append, List.map_cons,
      List.flatten_cons, List.flatten_append, List.flatten_cons, Console.readAll_hearing_false,
      List.append_nil, List.map_map, List.flatMap]
    rfl
  have same : (Key.readAll rig.keyboard.keys.pending ++
      ((front.flatMap fun batch => Key.readAll (Console.heard batch)) ++
        Key.readAll (struck ++ [Key.escape]))).any Key.isCancel = true ↔ cancels := by
    have last := Key.any_isCancel_escape struck
    simp only [cancels, before, List.any_append, Bool.or_eq_true, last, or_assoc, or_left_comm]
  have outcome := goes.outcome
  have running := goes.running
  rw [rounds] at outcome running
  refine ⟨Key.readAll_escape struck, fun holds => ?_, fun fails => ?_⟩
  · rw [same.mpr holds] at outcome running
    exact ⟨outcome, running⟩
  · rw [Bool.eq_false_iff.mpr fun found => fails (same.mp found)] at outcome
    exact outcome

/-- A line in one batch; then the end of the input after a character, and another one that nobody
reads. -/
theorem interact_ends_after_line :
    let rig : Rig :=
      { plan := {}, settings := { port := "COM3" }, port := .held true, running := true,
        batches := [[.key ['a'], .key ['\n']], [.key ['x'], .endOfInput, .key ['y']], []] }
    rig.Untroubled ∧ (interact {} rig).1 = .ok () ∧ (interact {} rig).2.running = false := by
  intro rig
  have untroubled : rig.Untroubled := ⟨rfl, nofun, rfl, rfl⟩
  have known : Charset.find "ascii" = .ok .ascii := by rfl
  have batches : rig.batches = [[.key ['a'], .key ['\n']]] ++
      (List.map .key [['x']] ++ .endOfInput :: [.key ['y']]) :: [[]] := rfl
  have unended : ∀ batch ∈ [[Keystroke.key ['a'], .key ['\n']]],
      batch.any Keystroke.isEnd = false := by simp [Keystroke.isEnd]
  have closed : ¬Key.LeavesOpen (List.map Key.received [['x']]) := by
    rintro ⟨group, isLast, isOpen⟩
    rw [List.map_singleton, Key.groups_singleton, List.getLast?_singleton,
      Option.mem_some_iff] at isLast
    exact Key.not_isOpen_singleton _ (isLast ▸ isOpen)
  have ends := interact_ends (rfl : ({} : Sender).encoding = .value "ascii") known untroubled nofun
    batches unended (Or.inl rfl)
  exact ⟨untroubled, ends.2.1 (Or.inl closed)⟩

/-- The input may end without an end of the session, though the session goes on, its link is open
and nothing else goes wrong: a bracket after an escape takes the key that should cancel. -/
theorem interact_stalls :
    ¬∀ (sender : Sender) (rig : Rig), rig.Untroubled → sender.encoding = .value "ascii" →
      rig.keyboard = {} → (∃ batch ∈ rig.batches, .endOfInput ∈ batch) →
        (interact sender rig).1 = .ok () ∧ (interact sender rig).2.running = false := by
  intro ended
  let rig : Rig :=
    { plan := {}, settings := { port := "COM3" }, port := .held true, running := true,
      batches := [[.key ['\x1b'], .key ['['], .endOfInput]] }
  have untroubled : rig.Untroubled := ⟨rfl, nofun, rfl, rfl⟩
  have ended := (ended {} rig untroubled rfl rfl ⟨_, List.mem_cons_self, by simp⟩).1
  have failed : (interact {} rig).1.isOk = false := by decide +kernel
  rw [ended] at failed
  cases failed

end Phase

end Session

end KeyFeed
