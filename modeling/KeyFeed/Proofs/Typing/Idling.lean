/-
This file says for which scripts a repeated pass makes the port take bytes. A line is idle when
it is empty or a comment and has no marker: nothing is sent for it. One line that is not idle is
enough for every complete pass to write, and then there are no more passes than writes. A
script that has text but idle lines alone takes no step at all, so it is sent again and again
without end, also over a link that is lost.
-/

import KeyFeed.Proofs.Script.Grammar
import KeyFeed.Proofs.Session.Phases
import KeyFeed.Proofs.Typing.Repetition

namespace KeyFeed

open KeyFeed.Run KeyFeed.Script

/-- Nothing is sent for the clean line: it is empty or a comment, and has no marker. -/
def Script.IsIdle (line : List Char) : Prop :=
  (line = [] ∨ isComment line = true) ∧ ¬immediateMarker <:+: line ∧ ¬delayMarker <:+: line

/-! ### Writes -/

/-- The port takes bytes. -/
def Event.isTaken : Event → Bool
  | wrote _ => true
  | _ => false

/-- How often the port has taken bytes. -/
def Rig.taken (rig : Rig) : Nat := rig.events.toList.countP Event.isTaken

theorem Rig.taken_eq (rig : Rig) :
    rig.taken = (Event.only Event.isProgress rig.events).countP Event.isTaken := by
  rw [taken, Event.only, List.countP_filter]
  refine List.countP_congr fun event _ => ?_
  cases event <;> simp [Event.isTaken, Event.isProgress]

/-- What sending adds is counted. -/
theorem Rig.Adds.taken {rig next : Rig} {added : List Event} {passes : Nat}
    (adds : rig.Adds added passes next) :
    next.taken = rig.taken + added.countP Event.isTaken := by
  rw [next.taken_eq, rig.taken_eq, adds.events, List.countP_append]

/-! ### The steps of lines that are idle -/

namespace Sender

open Step

variable {sender : Sender}

theorem lineSteps_of_idle {raw : List Char} (idle : IsIdle (clean raw)) :
    sender.lineSteps raw = [] := by
  obtain ⟨silent, unmarked⟩ := idle
  have untyped : typed (clean raw) = [] := by
    rw [typed]
    rcases silent with empty | comment
    · rw [empty]
      rfl
    · rw [if_pos comment]
  rw [lineSteps, untyped, scanSteps, scan_eq_none_iff.mpr unmarked]
  rfl

/-- A line that is not idle is written from, unless it stops sending. -/
theorem write_mem_lineSteps {raw : List Char} (awake : ¬IsIdle (clean raw))
    (passes : ∀ failure, .stop failure ∉ sender.lineSteps raw) :
    ∃ bytes, .write bytes ∈ sender.lineSteps raw := by
  cases typing : typed (clean raw) with
  | cons char rest =>
    have inside : ∀ step ∈ sender.charSteps char, step ∈ sender.lineSteps raw := by
      intro step member
      refine List.mem_append_left _ (List.mem_flatMap.mpr ⟨char, ?_, member⟩)
      rw [typing]
      exact List.mem_cons_self
    cases found : sender.bytes [char] with
    | error failure =>
      refine absurd (inside (.stop failure) ?_) (passes failure)
      simp [charSteps, found]
    | ok bytes => exact ⟨bytes, inside _ (by simp [charSteps, found])⟩
  | nil =>
    have inside : ∀ step ∈ sender.scanSteps (clean raw), step ∈ sender.lineSteps raw :=
      fun step member => List.mem_append_right _ member
    cases scanned : scan (clean raw) with
    | error refusal =>
      refine absurd (inside (.stop (.directive refusal)) ?_) (passes _)
      simp [scanSteps, scanned]
    | ok found =>
      cases found with
      | some directive =>
        exact ⟨terminator, inside _ (by simp [scanSteps, scanned, directiveSteps])⟩
      | none =>
        refine absurd ⟨?_, scan_eq_none_iff.mp scanned⟩ awake
        rw [typed] at typing
        split at typing
        · rename_i comment
          exact Or.inr comment
        · exact Or.inl typing

end Sender

/-! ### Steps that pass -/

namespace Step

variable {rig next : Rig} {steps : List Step}

theorem stop_not_mem_of_ok (passed : performAll steps rig = (.ok (), next)) (failure : Failure) :
    .stop failure ∉ steps := by
  induction steps generalizing rig with
  | nil => exact List.not_mem_nil
  | cons step rest inductionHypothesis =>
    obtain ⟨_, middle, first, others⟩ := bind_eq_ok_iff.mp passed
    intro member
    rcases List.mem_cons.mp member with same | later
    · rw [← same] at first
      cases first
    · exact inductionHypothesis others later

/-- Without a port no step that passes writes. -/
theorem write_not_mem_of_lost (unobserved : ∀ step ∈ steps, step.isUnobserved = true)
    (lost : rig.port.isHeld = false) (passed : performAll steps rig = (.ok (), next))
    (bytes : List UInt8) : .write bytes ∉ steps := by
  induction steps generalizing rig with
  | nil => exact List.not_mem_nil
  | cons step rest inductionHypothesis =>
    obtain ⟨unobservedStep, unobservedRest⟩ := List.forall_mem_cons.mp unobserved
    obtain ⟨_, middle, first, others⟩ := bind_eq_ok_iff.mp passed
    intro member
    rcases List.mem_cons.mp member with same | later
    · rw [← same] at first
      have feasible := feasible_of_ok first
      rw [lost] at feasible
      cases feasible
    · have sends := perform_sends unobservedStep rig
      rw [first] at sends
      refine inductionHypothesis unobservedRest ?_ others later
      rcases sends.port with ⟨kept, _⟩ | ⟨held, _⟩
      · rw [kept]
        exact lost
      · rw [lost] at held
        cases held

end Step

/-! ### Passes -/

namespace Sender

open Step

/-- Sending the script again and again makes one pass and returns. -/
def ReturnsOnce (sender : Sender) (text : List Char) : Prop :=
  ∀ notice bound rig, (sender.sendWithin bound notice text true rig).1 = .ok () ∧
    (sender.sendWithin bound notice text true rig).2.pass = 1

/-- In every complete pass over the script the port takes bytes. -/
def Writes (sender : Sender) (text : List Char) : Prop :=
  ∀ rig next, sender.sendLines (Buffer.ofText text) rig = (.ok (), next) →
    rig.taken < next.taken

variable {sender : Sender} {text : List Char}

theorem idle_or_awake (text : List Char) :
    (∀ piece ∈ pieces text, IsIdle (clean piece)) ∨
      ∃ piece ∈ pieces text, ¬IsIdle (clean piece) := by
  by_cases idle : ∀ piece ∈ pieces text, IsIdle (clean piece)
  · exact Or.inl idle
  · exact Or.inr (by simpa using idle)

theorem textSteps_of_idle (idle : ∀ piece ∈ pieces text, IsIdle (clean piece)) :
    sender.textSteps text = [] :=
  List.flatMap_eq_nil_iff.mpr fun piece member => lineSteps_of_idle (idle piece member)

/-- The script has a line that is not idle. A complete pass writes. -/
theorem write_mem_textSteps (awake : ∃ piece ∈ pieces text, ¬IsIdle (clean piece)) {rig next : Rig}
    (passed : performAll (sender.textSteps text) rig = (.ok (), next)) :
    ∃ bytes, .write bytes ∈ sender.textSteps text := by
  obtain ⟨piece, member, busy⟩ := awake
  have inside : ∀ step ∈ sender.lineSteps piece, step ∈ sender.textSteps text :=
    fun step ofLine => List.mem_flatMap.mpr ⟨piece, member, ofLine⟩
  obtain ⟨bytes, writes⟩ := write_mem_lineSteps busy fun failure ofLine =>
    stop_not_mem_of_ok passed failure (inside _ ofLine)
  exact ⟨bytes, inside _ writes⟩

theorem writes_of_awake (awake : ∃ piece ∈ pieces text, ¬IsIdle (clean piece)) :
    sender.Writes text := by
  intro rig next passed
  rw [sendLines_eq_performAll] at passed
  obtain ⟨bytes, writes⟩ := write_mem_textSteps awake passed
  have adds := (performAll_begins (sender.again_not_mem_textSteps text) rig).all
    (congrArg Prod.fst passed)
  have counted := adds.taken
  have some : 0 < ((sender.textSteps text).flatMap events).countP Event.isTaken :=
    List.countP_pos_iff.mpr ⟨.wrote bytes,
      List.mem_flatMap.mpr ⟨.write bytes, writes, List.mem_singleton_self _⟩, rfl⟩
  rw [show performAll (sender.textSteps text) rig = _ from passed] at counted
  dsimp only at counted
  omega

/-- Where every complete pass writes there are no more passes than writes, but for the one that is
not complete. -/
theorem pass_le_of_writes (writes : sender.Writes text) (notice : PassNotice) (bound : Nat)
    (rig : Rig) :
    (performAll (sender.passSteps notice text bound) rig).2.pass + rig.taken ≤
      rig.pass + (performAll (sender.passSteps notice text bound) rig).2.taken := by
  induction bound generalizing rig with
  | zero => exact Nat.le_refl _
  | succ bound inductionHypothesis =>
    obtain ⟨added, _, adds⟩ :=
      (performAll_begins (sender.again_not_mem_textSteps text) rig).part
    have pass := adds.pass
    have taken := adds.taken
    rw [passSteps, performAll_append]
    rcases passed : performAll (sender.textSteps text) rig with ⟨failure | _, middle⟩
    · rw [passed] at pass taken
      rw [bind_of_error passed]
      dsimp only at pass taken ⊢
      omega
    · rw [passed] at pass
      have complete : rig.taken < middle.taken := by
        refine writes rig middle ?_
        rw [sendLines_eq_performAll]
        exact passed
      have notes := notice.nextPass_adds middle
      have passNext := notes.pass
      have takenNext := notes.taken
      rw [bind_of_ok passed, performAll_cons]
      rcases told : (again notice).perform middle with ⟨failure | _, next⟩
      · rw [show notice.nextPass middle = _ from told] at passNext takenNext
        rw [bind_of_error told]
        dsimp only at pass passNext takenNext ⊢
        omega
      · rw [show notice.nextPass middle = _ from told] at passNext takenNext
        rw [bind_of_ok told]
        have later := inductionHypothesis next
        dsimp only at pass passNext takenNext
        omega

/-- A script of idle lines is sent without a single call. -/
theorem passSteps_of_idle (sender : Sender)
    (idle : ∀ piece ∈ pieces text, IsIdle (clean piece)) (bound : Nat) (rig : Rig) :
    ∃ events, performAll (sender.passSteps .silent text bound) rig =
        (.error .unfinished, { rig with pass := rig.pass + bound, events := events }) ∧
      Event.only Event.isProgress events = Event.only Event.isProgress rig.events := by
  induction bound generalizing rig with
  | zero => exact ⟨rig.events, rfl, rfl⟩
  | succ bound inductionHypothesis =>
    obtain ⟨events, spins, quiet⟩ := inductionHypothesis (PassNotice.begun rig)
    refine ⟨events, ?_, quiet.trans (Event.only_push_of_not_sort rfl rig.events)⟩
    have told : (again .silent).perform rig = (.ok (), PassNotice.begun rig) := rfl
    rw [passSteps, textSteps_of_idle idle, List.nil_append, performAll_cons, bind_of_ok told, spins,
      Nat.add_comm bound 1, ← Nat.add_assoc]
    rfl

/-- A complete pass over idle lines writes nothing, so some line of a script that always writes is
not idle. -/
theorem awake_of_writes (writes : sender.Writes text) :
    ∃ piece ∈ pieces text, ¬IsIdle (clean piece) := by
  refine (idle_or_awake text).resolve_left fun idle => ?_
  let rig : Rig := { plan := {}, settings := { port := "" } }
  have passed : sender.sendLines (Buffer.ofText text) rig = (.ok (), rig) := by
    rw [sendLines_eq_performAll, show (Buffer.ofText text).remaining = text from rfl,
      textSteps_of_idle idle]
    rfl
  exact Nat.lt_irrefl _ (writes rig rig passed)

/-- Without a port a pass that is to write is not complete. -/
theorem passSteps_of_lost (awake : ∃ piece ∈ pieces text, ¬IsIdle (clean piece))
    (notice : PassNotice) (bound : Nat) (rig : Rig) (lost : rig.port.isHeld = false) :
    (performAll (sender.passSteps notice text bound) rig).2.pass = rig.pass := by
  cases bound with
  | zero => rfl
  | succ bound =>
    rw [passSteps, performAll_append]
    rcases passed : performAll (sender.textSteps text) rig with ⟨failure | _, middle⟩
    · rw [bind_of_error passed]
      obtain ⟨_, _, adds⟩ := (performAll_begins (sender.again_not_mem_textSteps text) rig).part
      have same := adds.pass
      rwa [passed] at same
    · obtain ⟨bytes, member⟩ := write_mem_textSteps awake passed
      exact absurd member (write_not_mem_of_lost
        (fun _ ofText => isUnobserved_of_mem_textSteps ofText) lost passed bytes)

/-- A script that has text but idle lines alone goes on without end, and nothing but the log shows
it. -/
theorem sendWithin_of_idle (sender : Sender) {text : List Char} (nonempty : text ≠ [])
    (idle : ∀ piece ∈ pieces text, IsIdle (clean piece)) (bound : Nat) (rig : Rig) :
    ∃ events, sender.sendWithin bound .silent text true rig =
        (.error .unfinished, { rig with pass := 1 + bound, events := events }) ∧
      Event.only Event.isProgress events = Event.only Event.isProgress rig.events := by
  rw [sender.sendWithin_again nonempty]
  exact sender.passSteps_of_idle idle bound { rig with pass := 1 }

/-- A script with a line that is not idle has text. -/
theorem ne_nil_of_awake {text : List Char} (awake : ∃ piece ∈ pieces text, ¬IsIdle (clean piece)) :
    text ≠ [] := by
  rintro rfl
  obtain ⟨piece, member, busy⟩ := awake
  rw [List.mem_singleton.mp member] at busy
  exact busy ⟨Or.inl rfl, by decide⟩

/-- A script that is sent again and again makes a single pass and returns, or writes in every
complete pass, exactly when it has no text or has a line that is not idle. Where it writes,
there are no more passes than writes, but for the last one, and over a link without a port the
first pass is the last. A script that has text but idle lines alone goes on without end: for
every bound on the passes it makes all of them, and nothing but the log shows it. -/
theorem sendWithin_writes_iff (sender : Sender) (text : List Char) :
    (sender.ReturnsOnce text ∨ sender.Writes text ↔
        text = [] ∨ ∃ piece ∈ pieces text, ¬IsIdle (clean piece)) ∧
      (sender.Writes text → ∀ notice bound rig,
        let sent := sender.sendWithin bound notice text true rig
        sent.2.pass + rig.taken ≤ 1 + sent.2.taken ∧ sent.1 ≠ .ok () ∧
          (rig.port.isHeld = false → sent.2.pass = 1)) ∧
      (text ≠ [] → (∀ piece ∈ pieces text, IsIdle (clean piece)) → ∀ bound rig,
        ∃ events, sender.sendWithin bound .silent text true rig =
            (.error .unfinished, { rig with pass := 1 + bound, events := events }) ∧
          Event.only Event.isProgress events = Event.only Event.isProgress rig.events) := by
  refine ⟨⟨?_, ?_⟩, ?_, sender.sendWithin_of_idle⟩
  · rintro (returns | writes)
    · refine or_iff_not_imp_left.mpr fun nonempty => ?_
      refine (idle_or_awake text).resolve_left fun idle => ?_
      obtain ⟨_, spun, _⟩ :=
        sender.sendWithin_of_idle nonempty idle 0 { plan := {}, settings := { port := "" } }
      have returned := (returns .silent 0 { plan := {}, settings := { port := "" } }).1
      rw [spun] at returned
      cases returned
    · exact Or.inr (awake_of_writes writes)
  · rintro (rfl | awake)
    · refine Or.inl fun notice bound rig => ?_
      rw [sendWithin_nil]
      exact ⟨rfl, rfl⟩
    · exact Or.inr (writes_of_awake awake)
  · intro writes notice bound rig sent
    have awake := awake_of_writes writes
    have nonempty := ne_nil_of_awake awake
    have sends : sent = performAll (sender.passSteps notice text bound) { rig with pass := 1 } :=
      sender.sendWithin_again nonempty notice bound rig
    obtain ⟨_, _, _, _, unending⟩ :=
      sender.passSteps_course notice text bound { rig with pass := 1 }
    rw [sends]
    exact ⟨pass_le_of_writes writes notice bound { rig with pass := 1 }, unending,
      passSteps_of_lost awake notice bound { rig with pass := 1 }⟩

/-- A comment with a marker is written from in every pass, and the first pass is the last one
without a port. -/
theorem sendWithin_writes_iff_of_marker :
    let rig : Rig := { plan := {}, settings := { port := "COM3" } }
    Writes {} [';', '~', 'I'] ∧
      (sendWithin {} 9 .silent [';', '~', 'I'] true rig).1 ≠ .ok () ∧
      (sendWithin {} 9 .silent [';', '~', 'I'] true rig).2.pass = 1 := by
  intro rig
  obtain ⟨always, limits, -⟩ := sendWithin_writes_iff {} [';', '~', 'I']
  have awake : ∃ piece ∈ pieces [';', '~', 'I'], ¬IsIdle (clean piece) :=
    ⟨[';', '~', 'I'], List.mem_singleton_self _, fun idle => idle.2.1 (by decide)⟩
  have writes : Writes {} [';', '~', 'I'] := by
    refine (always.mpr (Or.inr awake)).resolve_left fun returns => ?_
    have unending := sendWithin_again {} (List.cons_ne_nil ';' ['~', 'I']) .silent 0 rig
    have returned := (returns .silent 0 rig).1
    rw [unending] at returned
    cases returned
  obtain ⟨-, unending, last⟩ := limits writes .silent 9 rig
  exact ⟨writes, unending, last rfl⟩

/-- A comment without a marker is sent again and again, and nothing ever leaves the sender. -/
theorem sendWithin_spins :
    let rig : Rig := { plan := {}, settings := { port := "COM3" }, port := .held true }
    ¬(ReturnsOnce {} [';', 'x'] ∨ Writes {} [';', 'x']) ∧
      (∀ bound, (sendWithin {} bound .silent [';', 'x'] true rig).1 = .error .unfinished ∧
        (sendWithin {} bound .silent [';', 'x'] true rig).2.pass = 1 + bound) ∧
      let sent := sendWithin {} 9 (.observer (some 3) none) [';', 'x'] true rig
      sent.1 = .error (.interrupted "stop") ∧ sent.2.pass = 3 ∧
        Event.only Event.isProgress sent.2.events = [.repeated 2, .repeated 3] := by
  intro rig
  have nonempty : [';', 'x'] ≠ [] := by decide
  have idle : ∀ piece ∈ pieces [';', 'x'], IsIdle (clean piece) :=
    List.forall_mem_singleton.mpr ⟨Or.inr rfl, by decide, by decide⟩
  have spins (bound : Nat) : (sendWithin {} bound .silent [';', 'x'] true rig).1 =
        .error .unfinished ∧
      (sendWithin {} bound .silent [';', 'x'] true rig).2.pass = 1 + bound := by
    obtain ⟨_, spun, _⟩ := sendWithin_of_idle {} nonempty idle bound rig
    rw [spun]
    exact ⟨rfl, rfl⟩
  refine ⟨?_, spins, ?_⟩
  · rintro (returns | writes)
    · have returned := (returns .silent 0 rig).1
      rw [(spins 0).1] at returned
      cases returned
    · obtain ⟨piece, member, busy⟩ := awake_of_writes writes
      exact busy (idle piece member)
  · rw [sendWithin_again {} nonempty]
    exact ⟨rfl, rfl, rfl⟩

end Sender

end KeyFeed
