/-
This file follows an interactive phase that succeeds, round by round. Each round waits
when no key is pending, or sends a key. The rounds end for one of two reasons: a cancel
key is read, or the session is not to go on. Besides it says what closing the session
afterwards can still bring: no call of the sender, but one more read, whose fault the
listener keeps like every other.
-/

import KeyFeed.Proofs.Session.Custody
import KeyFeed.Proofs.Typing.Thriving

namespace KeyFeed

open KeyFeed.Run

open Rig (Keeps Keyed GoesOn Sends Thrives)

/-- The session goes on and its link can be written. -/
def Rig.isLive (rig : Rig) : Bool := rig.running && rig.port.isOpen

theorem Rig.Attends.isLive {rig : Rig} (attends : rig.Attends) : rig.isLive = true := by
  rw [Rig.isLive, attends.running, attends.port]
  rfl

/-! ### The console -/

namespace Console

/-- The state in which the console is ready and its reader reads. -/
def readied (rig : Rig) : Rig := reading (prepared (created rig))

/-- The state in which so many keys are left. -/
def left (keys : Keys) (rig : Rig) : Rig :=
  { rig with keyboard := { rig.keyboard with keys := keys } }

theorem readied_thrives (rig : Rig) : rig.Thrives (readied rig) := by
  refine .of_idle rfl rfl rfl (fun point sending => ?_) rfl rfl rfl
  cases point <;> first | rfl | cases sending

theorem left_thrives (keys : Keys) (rig : Rig) : rig.Thrives (left keys rig) :=
  .of_idle rfl rfl rfl (fun _ _ => rfl) rfl rfl rfl

theorem restored_thrives (rig : Rig) : rig.Thrives (restored rig) := by
  refine .of_idle rfl rfl rfl (fun point sending => ?_) rfl rfl rfl
  cases point <;> first | rfl | cases sending

theorem start_ok {rig next : Rig} (inactive : rig.keyboard.active = false)
    (succeeded : start rig = (.ok (), next)) : next = readied rig := by
  cases outcome : setUp rig with
  | mk result middle =>
    cases result with
    | error failure =>
      obtain ⟨reason, final, failed, _⟩ := start_of_error inactive outcome
      rw [failed] at succeeded
      cases succeeded
    | ok result =>
      rw [start_of_ok inactive outcome] at succeeded
      cases succeeded
      cases creation : rig.plan.fault? .consoleCreation (rig.tally.consoleCreation + 1) with
      | some failure =>
        rw [setUp_of_uncreated creation] at outcome
        cases outcome
      | none =>
        rw [setUp_of_created creation] at outcome
        have counted := reach_snd .consoleSetUp
          { created rig with events := (created rig).events.push .consoleSetUp }
        rw [outcome] at counted
        exact congrArg reading counted

theorem readKey_of_none {rig : Rig} (idle : rig.keyboard.keys.read? = none) :
    readKey rig = (.ok none, rig) := by
  unfold readKey
  rw [look_bind, idle]
  rfl

theorem readKey_of_some {rig : Rig} {key : Key} {keys : Keys}
    (pending : rig.keyboard.keys.read? = some (key, keys)) :
    readKey rig = (.ok (some key), left keys rig) := by
  unfold readKey
  rw [look_bind, pending]
  rfl

end Console

theorem Sender.sendKey_thrives (sender : Sender) (key : Key) :
    Achieves Thrives (sender.sendKey key) := by
  have encoded : Leads Thrives (sender.encode key) := .resume _
  exact encoded.achieves.bind fun bytes => Link.write_thrives bytes

/-! ### Rounds -/

namespace Session

/-- Rounds of forwarding, each of which succeeds. -/
inductive Forwards (sender : Sender) : Rig → Rig → Prop where
  | here (rig : Rig) : Forwards sender rig rig
  /-- No key is pending. -/
  | wait {rig next last : Rig} (live : rig.isLive = true)
      (idle : rig.keyboard.keys.read? = none)
      (slept : Clock.sleep sender.pacing.perPoll rig = (.ok (), next))
      (later : Forwards sender next last) : Forwards sender rig last
  /-- A key is pending that does not cancel. -/
  | send {rig next last : Rig} {key : Key} {keys : Keys} (live : rig.isLive = true)
      (pending : rig.keyboard.keys.read? = some (key, keys)) (kept : key.isCancel = false)
      (sent : sender.sendKey key (Console.left keys rig) = (.ok (), next))
      (later : Forwards sender next last) : Forwards sender rig last

theorem Forwards.thrives {sender : Sender} {rig last : Rig} (forwards : Forwards sender rig last) :
    rig.Thrives last := by
  induction forwards with
  | here rig => exact Std.Refl.refl rig
  | wait live idle slept later inductionHypothesis =>
    exact IsTrans.trans _ _ _ (Clock.sleep_thrives _ _ _ _ slept) inductionHypothesis
  | send live pending kept sent later inductionHypothesis =>
    have begun := IsTrans.trans _ _ _ (Console.left_thrives _ _)
      (sender.sendKey_thrives _ _ _ _ sent)
    exact IsTrans.trans _ _ _ begun inductionHypothesis

theorem Forwards.goesOn {sender : Sender} {rig last : Rig} (forwards : Forwards sender rig last) :
    rig.GoesOn last := by
  induction forwards with
  | here rig => exact Std.Refl.refl rig
  | wait live idle slept later inductionHypothesis =>
    have waited := ((Clock.sleep_sends sender.pacing.perPoll).achieves _ _ _ slept).toGoesOn
    exact IsTrans.trans _ _ _ waited inductionHypothesis
  | @send rig next last key keys live pending kept sent later inductionHypothesis =>
    have read := (Console.readKey_keyed.achieves) _ _ _ (Console.readKey_of_some pending)
    have begun := IsTrans.trans _ _ _ (GoesOn.of_keyed read)
      ((sender.sendKey_goesOn key).achieves _ _ _ sent)
    exact IsTrans.trans _ _ _ begun inductionHypothesis

/-- The state after a cancel key was read. -/
def cancelled (keys : Keys) (rig : Rig) : Rig :=
  { Console.left keys rig with
    running := false
    events := rig.events.push (.logged .info "Cancel key pressed, ending session") }

/-- The rounds have come to their end: the session is not to go on, or a cancel key is read. -/
def Ends (last next : Rig) : Prop :=
  (last.isLive = false ∧ next = last) ∨
    ∃ key keys, last.isLive = true ∧ last.keyboard.keys.read? = some (key, keys) ∧
      key.isCancel = true ∧ next = cancelled keys last

theorem isLive_apply (rig : Rig) : isLive rig = (.ok rig.isLive, rig) := rfl

/-- Forwarding that succeeds consists of rounds, and ends for one of the two reasons. -/
theorem forward_ok {sender : Sender} {bound : Nat} {rig next : Rig}
    (succeeded : forward sender bound rig = (.ok (), next)) :
    ∃ last, Forwards sender rig last ∧ Ends last next := by
  induction bound generalizing rig with
  | zero => cases succeeded
  | succ bound inductionHypothesis =>
    rw [forward, bind_of_ok (isLive_apply rig)] at succeeded
    cases live : rig.isLive with
    | false =>
      rw [live] at succeeded
      cases succeeded
      exact ⟨next, .here next, Or.inl ⟨live, rfl⟩⟩
    | true =>
      rw [live, if_pos rfl] at succeeded
      cases pending : rig.keyboard.keys.read? with
      | none =>
        rw [bind_of_ok (Console.readKey_of_none pending)] at succeeded
        obtain ⟨_, middle, slept, later⟩ := bind_eq_ok_iff.mp succeeded
        obtain ⟨last, forwards, ends⟩ := inductionHypothesis later
        exact ⟨last, .wait live pending slept forwards, ends⟩
      | some taken =>
        obtain ⟨key, keys⟩ := taken
        rw [bind_of_ok (Console.readKey_of_some pending)] at succeeded
        dsimp only at succeeded
        cases cancel : key.isCancel with
        | true =>
          rw [cancel] at succeeded
          cases succeeded
          exact ⟨rig, .here rig, Or.inr ⟨key, keys, live, pending, cancel, rfl⟩⟩
        | false =>
          rw [cancel] at succeeded
          obtain ⟨_, middle, sent, later⟩ := bind_eq_ok_iff.mp succeeded
          obtain ⟨last, forwards, ends⟩ := inductionHypothesis later
          exact ⟨last, .send live pending cancel sent forwards, ends⟩

/-- An interactive phase that succeeds: the console is made ready, keys are forwarded, and the
console is restored. -/
theorem interact_ok {sender : Sender} {rig next : Rig} (inactive : rig.keyboard.active = false)
    (succeeded : interact sender rig = (.ok (), next)) :
    Console.start rig = (.ok (), Console.readied rig) ∧
      ∃ last ended, Forwards sender (Console.readied rig) last ∧ Ends last ended ∧
        (Console.restored ended).Keyed next := by
  obtain ⟨_, started, begun, later⟩ := bind_eq_ok_iff.mp succeeded
  obtain rfl := Console.start_ok inactive begun
  rw [look_bind] at later
  obtain ⟨ended, forwarded, stopped⟩ := ensuring_eq_ok_iff.mp later
  obtain ⟨last, forwards, ends⟩ := forward_ok forwarded
  have stays := ((forward_goesOn sender _).achieves _ _ _ forwarded).active
  have restored := Console.stop_of_active (stays.trans rfl)
  rw [stopped] at restored
  exact ⟨begun, last, ended, forwards, ends, restored⟩

/-! ### Closing -/

/-- Closing a session neither writes nor sleeps, and leaves the console alone. -/
theorem closeSession_adds (rig : Rig) :
    ∃ added, (closeSession rig).2.events.toList = rig.events.toList ++ added ∧
      ∀ event ∈ added, event.isWriter = false ∧ event.isConsole = false := by
  obtain ⟨front, grown, own⟩ := (Echo.join_aside { rig with running := false }).events
  obtain ⟨back, grownLast, texts⟩ := (closeSession_shut rig).events
  rw [Link.shut_events, grown] at grownLast
  refine ⟨front ++ ((if (Echo.join { rig with running := false }).2.port.isHeld then
    [.portClosed] else []) ++ back), ?_, ?_⟩
  · rw [grownLast, List.append_assoc, List.append_assoc]
  · refine List.forall_mem_append.mpr ⟨fun event member => ?_, List.forall_mem_append.mpr
      ⟨fun event member => ?_, fun event member => ?_⟩⟩
    · exact ⟨Event.isWriter_of_isAside (own event member),
        Event.isConsole_of_isAside (own event member)⟩
    · split at member
      · rw [List.mem_singleton.mp member]
        exact ⟨rfl, rfl⟩
      · cases member
    · exact ⟨Event.isWriter_of_isText (texts event member),
        Event.isConsole_of_isText (texts event member)⟩

theorem closeSession_lost {rig : Rig} (lost : rig.Lost) : (closeSession rig).2.Lost := by
  have deaf : { rig with running := false }.listener ≠ .listening := lost.deaf
  obtain ⟨fault, ended⟩ := lost
  refine ⟨fault, ?_⟩
  rw [closeSession_listener, Echo.join_of_deaf deaf]
  exact ended

/-- The read that is made while the listener is waited for counts as well. -/
theorem closeSession_of_fault {rig : Rig} (listening : rig.listener = .listening)
    (orderly : rig.plan.Orderly) {arrival : Arrival}
    (arrives : rig.finalArrivals.head? = some arrival) (fault : arrival.isFault = true) :
    (closeSession rig).2.Lost := by
  have lost : (Echo.join { rig with running := false }).2.Lost :=
    Echo.join_of_fault listening orderly arrives fault
  obtain ⟨found, ended⟩ := lost
  exact ⟨found, (closeSession_listener rig).trans ended⟩

end Session

end KeyFeed
