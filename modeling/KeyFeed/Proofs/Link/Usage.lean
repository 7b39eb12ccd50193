/-
This file follows a link that is used by itself, through calls in any order. The port that was
obtained last is the only one that can be open, and it is closed before another one is
obtained. What opens the link is an opening that succeeds; what closes it is closing, or a
failure of the transport that a write or a read meets. No other call, whether it succeeds or
fails, makes a difference to the port.
-/

import KeyFeed.Proofs.Link.Turns

namespace KeyFeed.Link

open KeyFeed.Run

/-! ### Turns in a row -/

/-- The turns of calls that are made one after the other. -/
def turns : List Call → Rig → List Turn
  | [], _ => []
  | call :: rest, rig => ⟨call, rig⟩ :: turns rest (call.perform rig).2

/-- In one of the turns the link is opened with success, and in none of those that follow it is
dropped. -/
def Lasts (turns : List Turn) : Prop :=
  ∃ front turn back, turns = front ++ turn :: back ∧ turn.OpensWell ∧
    ∀ later ∈ back, ¬later.Drops

/-- The state after calls were made one after the other. -/
def afterAll (calls : List Call) (rig : Rig) : Rig :=
  calls.foldl (fun rig call => (call.perform rig).2) rig

/-- What becomes of ports: one is obtained, or one is closed. -/
inductive Mark where
  | obtained
  | closed
  deriving DecidableEq

/-- What becomes of ports during a turn. -/
def Turn.marks (turn : Turn) : List Mark :=
  (if turn.obtains then [.obtained] else []) ++
    List.replicate (closings turn.after - closings turn.before) .closed

/-! ### What a turn makes of the link -/

namespace Goes

variable {turn : Turn}

theorem ne_opening {call : Call} (carries : call.carries = true) : call ≠ .opening := by
  rintro rfl
  cases carries

theorem obtains_opening (rig : Rig) :
    (Turn.mk .opening rig).obtains =
      (!rig.port.isOpen && (rig.plan.fault? .opening (rig.tally.opening + 1)).isNone) := rfl

theorem obtains_of_granted {rig : Rig} (unopened : rig.port.isOpen = false)
    (granted : rig.plan.fault? .opening (rig.tally.opening + 1) = none) :
    (Turn.mk .opening rig).obtains = true := by
  rw [obtains_opening, unopened, granted]
  rfl

theorem obtains_of_planned {rig : Rig} {failure : Failure}
    (planned : rig.plan.fault? .opening (rig.tally.opening + 1) = some failure) :
    (Turn.mk .opening rig).obtains = false := by
  rw [obtains_opening, planned]
  exact Bool.and_false _

theorem obtains_of_other {call : Call} (other : call ≠ .opening) (rig : Rig) :
    (Turn.mk call rig).obtains = false := by
  cases call with
  | opening => exact absurd rfl other
  | _ => rfl

/-- Only a call to open opens. -/
theorem not_opensWell {call : Call} (other : call ≠ .opening) (rig : Rig) :
    ¬(Turn.mk call rig).OpensWell :=
  fun opens => other opens.1

theorem not_isOpen_of_none {port : HeldPort} (dropped : port = .none) : ¬port.isOpen = true := by
  rw [dropped]
  exact Bool.false_ne_true

/-- After a turn the link is open when the turn opens it with success, or finds it open and does
not drop it. -/
theorem isOpen_iff (goes : Goes turn) (vets : turn.Vets) :
    turn.after.port.isOpen = true ↔
      turn.OpensWell ∨ turn.before.port.isOpen = true ∧ ¬turn.Drops := by
  cases goes with
  | again isOpen outcome after =>
    refine iff_of_true ?_ (Or.inl ⟨rfl, outcome⟩)
    rw [after]
    exact isOpen
  | unavailable unopened planned outcome port uncalled =>
    refine iff_of_false (by rw [port, unopened]; exact Bool.false_ne_true) ?_
    rintro (⟨-, succeeds⟩ | ⟨isOpen, -⟩)
    · rw [outcome] at succeeds
      cases succeeds
    · exact Bool.false_ne_true (unopened.symm.trans isOpen)
  | obtained unopened granted outcome port uncalled =>
    obtain ⟨short, described⟩ := describe_of_isTaken (vets rfl granted)
    exact iff_of_true (by rw [port]; rfl) (Or.inl ⟨rfl, outcome.mpr (by rw [described]; rfl)⟩)
  | refused unopened carries outcome after =>
    refine iff_of_false (by rw [after, unopened]; exact Bool.false_ne_true) ?_
    rintro (opens | ⟨isOpen, -⟩)
    · exact not_opensWell (ne_opening carries) _ opens
    · exact Bool.false_ne_true (unopened.symm.trans isOpen)
  | unneeded unopened outcome after =>
    refine iff_of_false (by rw [after, unopened]; exact Bool.false_ne_true) ?_
    rintro (opens | ⟨isOpen, -⟩)
    · exact not_opensWell Call.noConfusion _ opens
    · exact Bool.false_ne_true (unopened.symm.trans isOpen)
  | closed isOpen port called =>
    refine iff_of_false (not_isOpen_of_none port) ?_
    rintro (opens | ⟨-, keeps⟩)
    · exact not_opensWell Call.noConfusion _ opens
    · exact keeps (Or.inl rfl)
  | @passed rig call isOpen carries spared port uncalled =>
    refine iff_of_true (by rw [port]; exact isOpen) (Or.inr ⟨isOpen, ?_⟩)
    rintro (closes | ⟨-, failure, met, transport⟩)
    · have closing : call = .closing := closes
      rw [closing] at carries
      cases carries
    · rw [spared failure met] at transport
      cases transport
  | lost isOpen carries met transport port called =>
    refine iff_of_false (not_isOpen_of_none port) ?_
    rintro (opens | ⟨-, keeps⟩)
    · exact not_opensWell (ne_opening carries) _ opens
    · exact keeps (Or.inr ⟨isOpen, _, met, transport⟩)

theorem marks_of {obtained : Bool} {count : Nat} (obtains : turn.obtains = obtained)
    (called : closings turn.after = closings turn.before + count) :
    turn.marks = (if obtained then [.obtained] else []) ++ List.replicate count .closed := by
  rw [Turn.marks, obtains, called, Nat.add_sub_cancel_left]

/-- What becomes of ports in a turn: one is obtained if the turn makes an open link of one that
was not, and one is closed the other way round. -/
theorem marks_eq (goes : Goes turn) :
    turn.marks =
      match turn.before.port.isOpen, turn.after.port.isOpen with
      | false, true => [.obtained]
      | true, false => [.closed]
      | _, _ => [] := by
  cases goes with
  | @again rig isOpen outcome after =>
    have kept : closings (Turn.mk .opening rig).after = closings rig := by
      rw [after]
      exact closings_of_notes (log_notes .warning "Already open" rig)
    have stays : (Turn.mk .opening rig).after.port.isOpen = true := by
      rw [after]
      exact isOpen
    have denied : (Turn.mk .opening rig).obtains = false := by
      rw [obtains_opening, isOpen]
      rfl
    rw [@marks_of _ _ 0 denied kept, stays, isOpen]
    rfl
  | unavailable unopened planned outcome port uncalled =>
    rw [@marks_of _ _ 0 (obtains_of_planned planned) uncalled, port, unopened]
    rfl
  | obtained unopened granted outcome port uncalled =>
    rw [@marks_of _ _ 0 (obtains_of_granted unopened granted) uncalled, port, unopened]
    rfl
  | refused unopened carries outcome after =>
    have denied := obtains_of_other (ne_opening carries)
    rw [@marks_of _ _ 0 (denied _) (by rw [after]; rfl), after, unopened]
    rfl
  | unneeded unopened outcome after =>
    rw [@marks_of _ _ 0 rfl (by rw [after]; rfl), after, unopened]
    rfl
  | closed isOpen port called =>
    rw [@marks_of _ _ 1 rfl called, port, isOpen]
    rfl
  | passed isOpen carries spared port uncalled =>
    have denied := obtains_of_other (ne_opening carries)
    rw [@marks_of _ _ 0 (denied _) uncalled, port, isOpen]
    rfl
  | lost isOpen carries met transport port called =>
    have denied := obtains_of_other (ne_opening carries)
    rw [@marks_of _ _ 1 (denied _) called, port, isOpen]
    rfl

end Goes

/-! ### Runs -/

variable {settings : Settings}

theorem turns_go {rig : Rig} (alone : Private settings rig) (calls : List Call) :
    ∀ turn ∈ turns calls rig, Goes turn ∧ turn.before.settings = settings := by
  induction calls generalizing rig with
  | nil => exact List.forall_mem_nil _
  | cons call rest inductionHypothesis =>
    obtain ⟨first, later⟩ := goes alone call
    exact List.forall_mem_cons.mpr ⟨⟨first, alone.settled⟩, inductionHypothesis later⟩

theorem not_lasts_nil : ¬Lasts [] := by
  rintro ⟨front, turn, back, split, -⟩
  cases front <;> cases split

/-- The first turn counts as long as no later one drops the link. -/
theorem lasts_cons (turn : Turn) (rest : List Turn) :
    Lasts (turn :: rest) ↔ Lasts rest ∨ turn.OpensWell ∧ ∀ later ∈ rest, ¬later.Drops := by
  constructor
  · rintro ⟨front, first, back, split, opened, kept⟩
    cases front with
    | nil =>
      obtain ⟨rfl, rfl⟩ := List.cons.inj split
      exact Or.inr ⟨opened, kept⟩
    | cons earlier front =>
      obtain ⟨-, split⟩ := List.cons.inj split
      exact Or.inl ⟨front, first, back, split, opened, kept⟩
  · rintro (⟨front, first, back, rfl, opened, kept⟩ | ⟨opened, kept⟩)
    · exact ⟨turn :: front, first, back, rfl, opened, kept⟩
    · exact ⟨[], turn, rest, rfl, opened, kept⟩

/-- After a run the link is open when it was open from the beginning and was never dropped, or was
opened with success and not dropped since. -/
theorem isOpen_afterAll {rig : Rig} (alone : Private settings rig) (calls : List Call)
    (vets : ∀ turn ∈ turns calls rig, turn.Vets) :
    (afterAll calls rig).port.isOpen = true ↔
      Lasts (turns calls rig) ∨
        rig.port.isOpen = true ∧ ∀ turn ∈ turns calls rig, ¬turn.Drops := by
  induction calls generalizing rig with
  | nil =>
    exact ⟨fun isOpen => Or.inr ⟨isOpen, List.forall_mem_nil _⟩,
      fun opened => (opened.resolve_left not_lasts_nil).1⟩
  | cons call rest inductionHypothesis =>
    obtain ⟨first, later⟩ := goes alone call
    obtain ⟨vetsFirst, vetsLater⟩ := List.forall_mem_cons.mp vets
    have stays : (call.perform rig).2.port.isOpen = true ↔ _ := first.isOpen_iff vetsFirst
    show (afterAll rest (call.perform rig).2).port.isOpen = true ↔ _
    rw [inductionHypothesis later vetsLater, turns, lasts_cons, stays, List.forall_mem_cons,
      or_and_right, and_assoc, or_assoc]

/-- What becomes of ports in a run: each is closed before the next one is obtained, and the last
one is still to be closed exactly when the link ends up open. -/
theorem marks_turns {rig : Rig} (alone : Private settings rig) (calls : List Call) :
    ∃ count, (if rig.port.isOpen then [.obtained] else []) ++ (turns calls rig).flatMap Turn.marks =
      (List.replicate count [Mark.obtained, .closed]).flatten ++
        if (afterAll calls rig).port.isOpen then [.obtained] else [] := by
  induction calls generalizing rig with
  | nil => exact ⟨0, List.append_nil _⟩
  | cons call rest inductionHypothesis =>
    obtain ⟨first, later⟩ := goes alone call
    obtain ⟨count, marks⟩ := inductionHypothesis later
    have own : (Turn.mk call rig).marks =
        match rig.port.isOpen, (call.perform rig).2.port.isOpen with
        | false, true => [.obtained]
        | true, false => [.closed]
        | _, _ => [] := first.marks_eq
    rw [turns, List.flatMap_cons, own, show afterAll (call :: rest) rig = afterAll rest _ from rfl]
    cases after : (call.perform rig).2.port.isOpen with
    | true =>
      -- A port that is held before the run counts as obtained, so nothing is added to the pairs.
      rw [after] at marks
      cases rig.port.isOpen <;> exact ⟨count, marks⟩
    | false =>
      rw [after] at marks
      cases rig.port.isOpen with
      | false => exact ⟨count, marks⟩
      | true =>
        refine ⟨count + 1, ?_⟩
        rw [List.replicate_succ, List.flatten_cons, List.append_assoc, ← marks]
        rfl

/-- A link is used by itself, in any order of calls and with any faults, where a port is granted
only with stop bits that the port library takes. Each call goes one of the ways above; it opens
the link with success, drops it, or leaves it open or not as it was. At the end the link is
open exactly when it was opened with success and not dropped since. Every port is closed once
before another one is obtained, and the last one is closed exactly when the link is not open. -/
theorem calls_course {rig : Rig} (unopened : rig.port = .none) (deaf : rig.listener ≠ .listening)
    (calls : List Call) (vets : ∀ turn ∈ turns calls rig, turn.Vets) :
    (∀ turn ∈ turns calls rig, Goes turn ∧
        (turn.after.port.isOpen = true ↔
          turn.OpensWell ∨ turn.before.port.isOpen = true ∧ ¬turn.Drops)) ∧
      ((afterAll calls rig).port.isOpen = true ↔ Lasts (turns calls rig)) ∧
      ∃ count, (turns calls rig).flatMap Turn.marks =
        (List.replicate count [.obtained, .closed]).flatten ++
          if (afterAll calls rig).port.isOpen then [.obtained] else [] := by
  have alone : Private rig.settings rig := ⟨rfl, deaf, by rw [unopened]; rfl⟩
  have ways := turns_go alone calls
  have ends := isOpen_afterAll alone calls vets
  have marks := marks_turns alone calls
  have portless : rig.port.isOpen = false := by
    rw [unopened]
    rfl
  rw [portless] at marks
  refine ⟨fun turn member => ?_, ends.trans (or_iff_left fun isOpen => ?_), marks⟩
  · obtain ⟨way, -⟩ := ways turn member
    exact ⟨way, way.isOpen_iff (vets turn member)⟩
  · exact Bool.false_ne_true (portless.symm.trans isOpen.1)

/-- A link whose port goes away in a write and refuses to close, and which is opened again. -/
theorem calls_course_of_unplugged :
    let rig : Rig :=
      { plan := { faults := [⟨.write, 1, .transport "gone"⟩, ⟨.close, 1, .system "stuck"⟩] }
        settings := { port := "COM3" } }
    let calls : List Call := [.opening, .writing [65], .reading, .opening, .reading]
    rig.port = .none ∧ rig.listener ≠ .listening ∧ (∀ turn ∈ turns calls rig, turn.Vets) ∧
      (afterAll calls rig).port.isOpen = true ∧ Lasts (turns calls rig) := by
  intro rig calls
  have alone : Private rig.settings rig := ⟨rfl, nofun, rfl⟩
  have vets : ∀ turn ∈ turns calls rig, turn.Vets := by
    intro turn member _ _
    rw [(turns_go alone calls turn member).2]
    exact .one
  have ends : (afterAll calls rig).port.isOpen = true := by rfl
  have holds := @calls_course rig rfl nofun calls vets
  exact ⟨rfl, nofun, vets, ends, holds.2.1.mp ends⟩

end KeyFeed.Link
