/-
This file says that a session comes to its end. Every round of forwarding takes something
away that there is only so much of: it reads a pending key, or it lets a batch of keystrokes
be made, which brings no more keys than the batch holds, or it lets the input end, which
brings the cancel key and is met only once. So the bound on the rounds is never used up.
What else can end the interactive phase is foreseen, and closing the session does not fail.
-/

import KeyFeed.Proofs.Keyboard.Hearing
import KeyFeed.Proofs.Session.Custody
import KeyFeed.Proofs.Session.Success
import KeyFeed.Proofs.Typing.Causes

namespace KeyFeed

open KeyFeed.Run

/-! ### Reading keys -/

/-- A key that is read is pending no more. -/
theorem Keys.read?_pending {keys rest : Keys} {key : Key}
    (taken : keys.read? = some (key, rest)) : rest.pending.length < keys.pending.length := by
  cases pending : keys.pending with
  | nil =>
    rw [read?_of_idle pending] at taken
    cases taken
  | cons first others =>
    obtain ⟨left, read, shape⟩ := read?_of_pending pending
    rw [taken] at read
    cases read
    rw [shape, List.length_cons]
    exact Nat.lt_succ_of_le (Key.leading_length_le first others)

/-! ### What is left to forward -/

/-- What a keyboard can still give: its pending keys, and two more while its reader lives, since the
end of the input brings the cancel key and takes the reader away. -/
def Keyboard.backlog (keyboard : Keyboard) : Nat :=
  keyboard.keys.pending.length + if keyboard.reading then 2 else 0

/-- What the rounds of forwarding can still take: what the keyboard can give, and the batches with
their keystrokes. -/
def Rig.backlog (rig : Rig) : Nat :=
  rig.keyboard.backlog + (rig.batches.flatten.length + rig.batches.length)

namespace Console

theorem heard_length (keystrokes : List Keystroke) :
    (heard keystrokes).length ≤ keystrokes.length := by
  induction keystrokes with
  | nil => exact Nat.le_refl _
  | cons keystroke rest inductionHypothesis =>
    cases keystroke with
    | key key => exact Nat.succ_le_succ inductionHypothesis
    | endOfInput => exact Nat.succ_le_succ (Nat.zero_le _)
    | failure failure =>
      unfold heard
      split
      · exact Nat.succ_le_succ (Nat.zero_le _)
      · exact Nat.zero_le _

/-- Keystrokes that are made bring no more to forward than they are, and less if they end the
reader. -/
theorem deliver_backlog {rig : Rig} (reading : rig.keyboard.reading = true)
    (keystrokes : List Keystroke) :
    (deliver keystrokes rig).2.keyboard.backlog +
        (if keystrokes.any Keystroke.isEnd then 2 else 0) ≤
      rig.keyboard.backlog + keystrokes.length := by
  obtain ⟨_, pending, ends, _⟩ := deliver_heard reading keystrokes
  have bounded := heard_length keystrokes
  rw [Keyboard.backlog, Keyboard.backlog, pending, ends, reading, List.length_append]
  cases keystrokes.any Keystroke.isEnd with
  | true =>
    simp only [Bool.not_true, Bool.false_eq_true, if_false, if_true]
    omega
  | false =>
    simp only [Bool.not_false, Bool.false_eq_true, if_false, if_true]
    omega

/-- While time passes, what is left to forward gets less. -/
theorem passTime_backlog {rig next : Rig} (active : rig.keyboard.active = true)
    (passed : passTime rig = (.ok (), next)) : next.backlog < rig.backlog := by
  unfold Rig.backlog
  cases made : rig.batches with
  | cons batch rest =>
    rw [passTime_of_batch active made] at passed
    rw [List.flatten_cons, List.length_append, List.length_cons]
    cases reading : rig.keyboard.reading with
    | false =>
      have unread : { rig with batches := rest }.keyboard.reading = false := reading
      rw [deliver_of_unread unread] at passed
      cases passed
      dsimp only
      omega
    | true =>
      have read : { rig with batches := rest }.keyboard.reading = true := reading
      have batches := (deliver_heard read batch).2.2.2
      have atMost := deliver_backlog read batch
      rw [passed] at batches atMost
      rw [show next.batches = rest from batches]
      dsimp only at atMost
      omega
  | nil =>
    cases reading : rig.keyboard.reading with
    | false =>
      rw [passTime_of_stalled active made reading] at passed
      cases passed
    | true =>
      rw [passTime_of_last active made reading] at passed
      have batches := (deliver_heard reading [.endOfInput]).2.2.2
      have atMost := deliver_backlog reading [.endOfInput]
      have ends : [Keystroke.endOfInput].any Keystroke.isEnd = true := rfl
      rw [passed] at batches atMost
      rw [ends, if_pos rfl, List.length_singleton] at atMost
      rw [show next.batches = [] from batches.trans made]
      dsimp only at atMost
      omega

end Console

theorem Clock.sleep_backlog {rig next : Rig} (active : rig.keyboard.active = true)
    {duration : Float} (slept : sleep duration rig = (.ok (), next)) :
    next.backlog < rig.backlog := by
  obtain ⟨_, passed⟩ := sleep_ok slept
  have aside :=
    Echo.deliverAll_aside (rig.plan.arrivals (rig.tally.sleep + 1)) (asleep duration rig)
  have same : (Echo.deliverAll (rig.plan.arrivals (rig.tally.sleep + 1))
      (asleep duration rig)).2.backlog = rig.backlog := by
    rw [aside.frame]
    rfl
  rw [← same]
  exact Console.passTime_backlog (by rw [aside.keyboard]; exact active) passed

theorem Sender.sendKey_backlog {sender : Sender} {key : Key} {rig next : Rig}
    (sent : sender.sendKey key rig = (.ok (), next)) : next.backlog = rig.backlog := by
  obtain ⟨bytes, middle, encoded, wrote⟩ := bind_eq_ok_iff.mp sent
  obtain ⟨_, _, rfl⟩ := Link.write_ok wrote
  have same : middle = rig := by
    unfold encode at encoded
    rw [resume_apply] at encoded
    exact (congrArg Prod.snd encoded).symm
  rw [same]
  rfl

/-! ### The console -/

namespace Console

variable {plan : Plan} {sender : Sender}

theorem start_failsBy (foreseen : plan.Foreseen) : FailsBy plan sender.EndsBy start := by
  have sets : FailsBy plan (fun failure => failure.isConsole = true) setUp :=
    (FailsBy.record _).bind fun _ => (reach_failsBy foreseen .consoleCreation).bind fun _ =>
      (FailsBy.record _).bind fun _ => reach_failsBy foreseen .consoleSetUp
  refine .look fun rig => .ite (fun _ => .pure ()) fun _ => .attempt sets (fun _ => ?_) ?_
  · exact (FailsBy.log _ _).bind fun _ => .change fun _ => rfl
  · intro failure console
    refine .ite (fun _ => ?_) fun other => absurd console other
    exact (FailsBy.log _ _).bind fun _ => .fail (.consoleUnavailable _)

theorem stop_failsBy (foreseen : plan.Foreseen) : FailsBy plan sender.EndsBy stop := by
  have ends (reading : Bool) :
      FailsBy plan sender.EndsBy (if reading then endReader else pure ()) := by
    refine .ite (fun _ => ?_) fun _ => .pure ()
    exact (FailsBy.log _ _).bind fun _ => .change fun _ => rfl
  refine .look fun rig => .ite (fun _ => ?_) fun _ => .pure ()
  refine FailsBy.bind (.change fun _ => rfl) fun _ => (FailsBy.record _).bind fun _ => ?_
  refine .attempt (reach_failsBy foreseen .consoleRestoring) (fun _ => ends _) ?_
  intro failure ordinary
  exact .ite (fun _ => (FailsBy.log _ _).bind fun _ => ends _) fun other => absurd ordinary other

end Console

/-! ### Forwarding keys -/

namespace Session

variable {plan : Plan} {sender : Sender}

/-- The rounds of forwarding end before their bound is used up. -/
theorem forward_error (foreseen : plan.Foreseen) (encodable : Encodable sender.encoding)
    {bound : Nat} {rig : Rig} (planned : rig.plan = plan) (active : rig.keyboard.active = true)
    (enough : rig.backlog < bound) :
    ∀ failure, (forward sender bound rig).1 = .error failure → sender.EndsBy failure := by
  -- Each round takes one from the bound and at least one from what is left to forward.
  induction bound generalizing rig with
  | zero => exact absurd enough (Nat.not_lt_zero _)
  | succ bound inductionHypothesis =>
    rw [forward, bind_of_ok (isLive_apply rig)]
    cases rig.isLive with
    | false => exact fun failure failed => by cases failed
    | true =>
      rw [if_pos rfl]
      cases pending : rig.keyboard.keys.read? with
      | none =>
        rw [bind_of_ok (Console.readKey_of_none pending)]
        refine FailsBy.bind_at (Clock.sleep_failsBy foreseen.confined _) planned ?_
        intro _ next slept kept
        have less := Clock.sleep_backlog active slept
        have stays := ((Clock.sleep_sends _).achieves _ _ _ slept).active
        exact inductionHypothesis kept (stays.trans active) (by omega)
      | some taken =>
        obtain ⟨key, keys⟩ := taken
        have fewer := Keys.read?_pending pending
        have less : (Console.left keys rig).backlog < rig.backlog :=
          Nat.add_lt_add_right (Nat.add_lt_add_right fewer _) _
        rw [bind_of_ok (Console.readKey_of_some pending)]
        dsimp only
        cases key.isCancel with
        | true => exact fun failure failed => by cases failed
        | false =>
          refine FailsBy.bind_at (sender.sendKey_failsBy foreseen encodable key) planned ?_
          intro _ next sent kept
          have same := Sender.sendKey_backlog sent
          have stays := ((sender.sendKey_goesOn key).achieves _ _ _ sent).active
          exact inductionHypothesis kept (stays.trans active) (by omega)

theorem backlog_lt_forwardBound (rig : Rig) : rig.backlog < forwardBound rig := by
  have summed (batches : List (List Keystroke)) (sum : Nat) :
      batches.foldl (fun sum batch => sum + batch.length + 1) sum =
        sum + (batches.flatten.length + batches.length) := by
    induction batches generalizing sum with
    | nil => rfl
    | cons batch rest inductionHypothesis =>
      rw [List.foldl_cons, inductionHypothesis, List.flatten_cons, List.length_append,
        List.length_cons]
      omega
  rw [Rig.backlog, forwardBound, summed, Keyboard.backlog]
  split <;> omega

/-- The interactive phase ends early for a cause that is foreseen. -/
theorem interact_error (foreseen : plan.Foreseen) (encodable : Encodable sender.encoding)
    {rig : Rig} (planned : rig.plan = plan) (inactive : rig.keyboard.active = false) :
    ∀ failure, (interact sender rig).1 = .error failure → sender.EndsBy failure := by
  refine FailsBy.bind_at (Console.start_failsBy foreseen) planned ?_
  intro _ started begun kept
  obtain rfl := Console.start_ok inactive begun
  -- Restoring the console fails like all the rest, and then its failure is the one that counts.
  intro failure failed
  rw [look_bind, ensuring_apply] at failed
  have active : (Console.readied rig).keyboard.active = true := rfl
  have forwards := forward_goesOn sender (forwardBound (Console.readied rig)) (Console.readied rig)
  obtain ⟨_, stops⟩ := Console.stop_failsBy foreseen _ (forwards.plan.trans kept)
  rcases outcome : Console.stop
    (forward sender (forwardBound (Console.readied rig)) (Console.readied rig)).2
    with ⟨cause | _, final⟩
  · rw [outcome] at failed stops
    cases failed
    exact stops failure rfl
  · rw [outcome] at failed
    exact forward_error foreseen encodable kept active (backlog_lt_forwardBound _) failure failed

/-! ### Closing -/

/-- Closing a session does not fail when its port fails to close at the transport only. -/
theorem closeSession_ok (foreseen : plan.Foreseen) {rig : Rig} (planned : rig.plan = plan) :
    (closeSession rig).1 = .ok () := by
  have kept : (Echo.join { rig with running := false }).2.plan = plan := by
    rw [(Echo.join_aside { rig with running := false }).plan]
    exact planned
  rcases outcome : (closeSession rig).1 with failure | _
  · obtain ⟨_, other, due⟩ := closeSession_error outcome
    have transport : Point.close.foresees failure = true := foreseen.fault (kept ▸ due)
    rw [show failure.isTransport = true from transport] at other
    cases other
  · rfl

end Session

end KeyFeed
