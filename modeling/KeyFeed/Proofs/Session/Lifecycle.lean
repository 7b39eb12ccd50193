/-
This file follows a session through its whole life: it is opened, used, closed, and opened
again. A session that goes on holds an open port that its listener reads, whatever was done
before; so a listener that has ended, with a fault or without, has taken the session with
it, and only opening brings it back. Closing waits for the listener first, so nobody reads a
port that the session has closed.

An opening that fails leaves everything as it was. It would leave a port behind if it failed
after the port was granted, which takes settings without a short form; with such settings no
port is granted.
-/

import KeyFeed.Proofs.Link.Vetting
import KeyFeed.Proofs.Session.Abiding
import Mathlib.Logic.Relation

namespace KeyFeed.Session

open KeyFeed.Run

open Relation (ReflTransGen)
open Rig (Recedes Abides)

/-! ### Operations -/

/-- What can be done with a session, and what can happen to it. -/
inductive Operation where
  | opening
  | sending (sender : Sender) (notice : PassNotice) (text : List Char) (again : Bool)
  | interacting (sender : Sender) (batches : List (List Keystroke))
  /-- The listener gets what arrives. -/
  | receiving (arrivals : List Arrival)
  /-- The link is closed without the session. -/
  | closingLink
  | closing

namespace Operation

/-- Performs an operation. The interactive phase gets a keyboard of its own. -/
def perform : Operation → Run Unit
  | opening => openSession
  | sending sender notice text again => sender.sendScript notice text again
  | interacting sender batches => do
    freshKeyboard batches
    interact sender
  | receiving arrivals => Echo.deliverAll arrivals
  | closingLink => Link.closeLink
  | closing => closeSession

/-- The operation does not interrupt the listener. -/
def IsGentle : Operation → Prop
  | receiving arrivals => ∀ arrival ∈ arrivals, arrival.isInterruption = false
  | _ => True

/-- Whether the session may be opened after an operation, when it might before or might not. A
session whose opening failed may be opened again. -/
def closedAfter (closed : Bool) : Operation → Except Failure Unit → Bool
  | opening, .ok () => false
  | closing, _ => true
  | _, _ => closed

theorem perform_abides {operation : Operation} (other : operation ≠ opening)
    (gentle : operation.IsGentle) : Leads Abides operation.perform := by
  cases operation with
  | opening => exact absurd rfl other
  | sending sender notice text again => exact sender.sendScript_abides notice text again
  | interacting sender batches =>
    have prepares : Leads Abides (freshKeyboard batches) := fun _ => .of_idle rfl rfl rfl rfl
    exact prepares.bind fun _ => interact_abides sender
  | receiving arrivals => exact Echo.deliverAll_abides gentle
  | closingLink => exact Link.closeLink_abides
  | closing => exact closeSession_abides

/-- Nothing is undone by an operation other than opening, even if it interrupts the listener. -/
theorem perform_recedes {operation : Operation} (other : operation ≠ opening) :
    Leads Recedes operation.perform := by
  cases operation with
  | receiving arrivals => exact (Echo.deliverAll_aside arrivals).mono fun _ _ => Recedes.of_aside
  | _ => exact (perform_abides other trivial).mono fun _ _ => Abides.toRecedes

end Operation

/-! ### Opening -/

/-- A port that is open already is not asked for again. -/
theorem openSession_of_open {rig : Rig} (isOpen : rig.port.isOpen = true) :
    openSession rig = (.ok (),
      { rig with
        running := true
        listener := .listening
        events := ((rig.events.push (.logged .warning "Already open")).push
          (.logged .debug "Echo drainer started")).push (.logged .debug "Session started") }) := by
  unfold openSession Link.openLink
  rw [bind_assoc, look_bind, if_pos isOpen]
  rfl

/-- What opening comes to that fails: the session and its listener are as they were. So is the
link, unless the port was granted with settings that have no short form. -/
theorem openSession_error {rig next : Rig} {failure : Failure}
    (failed : openSession rig = (.error failure, next)) :
    next.plan = rig.plan ∧ next.running = rig.running ∧ next.listener = rig.listener ∧
      (next.port = rig.port ∨ rig.plan.fault? .opening (rig.tally.opening + 1) = none ∧
        (∃ refusal, rig.settings.describe = .error refusal) ∧ next.port = .held true) := by
  cases closed : rig.port.isOpen with
  | true =>
    rw [openSession_of_open closed] at failed
    cases failed
  | false =>
    cases granted : rig.plan.fault? .opening (rig.tally.opening + 1) with
    | some planned =>
      obtain ⟨final, refused, notes⟩ := openSession_of_refused closed granted
      rw [refused] at failed
      cases failed
      rw [notes.frame]
      exact ⟨rfl, rfl, rfl, Or.inl rfl⟩
    | none =>
      cases described : rig.settings.describe with
      | error refusal =>
        rw [openSession_of_undescribed closed granted described] at failed
        cases failed
        exact ⟨rfl, rfl, rfl, Or.inr ⟨rfl, ⟨refusal, rfl⟩, rfl⟩⟩
      | ok short =>
        rw [openSession_of_described closed granted described] at failed
        cases failed

/-- An opening that fails leaves the session, its listener and its link as they were, where a port
is granted only with stop bits that the port library takes. -/
theorem openSession_error_of_vets {rig next : Rig} {failure : Failure} (vets : rig.Vets)
    (failed : openSession rig = (.error failure, next)) :
    next.running = rig.running ∧ next.listener = rig.listener ∧ next.port = rig.port := by
  obtain ⟨_, running, listener, same | ⟨granted, ⟨refusal, undescribed⟩, _⟩⟩ :=
    openSession_error failed
  · exact ⟨running, listener, same⟩
  · obtain ⟨short, described⟩ := Link.describe_of_isTaken (vets granted)
    rw [described] at undescribed
    cases undescribed

/-- A session that is opened goes on, with an open link and a listener that reads it. -/
theorem openSession_begins {rig next : Rig} (succeeded : openSession rig = (.ok (), next)) :
    next.plan = rig.plan ∧ next.running = true ∧ next.listener = .listening ∧
      next.port.isOpen = true := by
  cases closed : rig.port.isOpen with
  | true =>
    rw [openSession_of_open closed] at succeeded
    cases succeeded
    exact ⟨rfl, rfl, rfl, closed⟩
  | false =>
    obtain ⟨_, short, rfl⟩ := openSession_ok closed succeeded
    exact ⟨rfl, rfl, rfl, rfl⟩

/-! ### The life of a session -/

/-- A session in its life, and whether it may be opened: it never was, or it was closed since. -/
structure Stage where
  rig : Rig
  closed : Bool

namespace Stage

/-- The stage after an operation. -/
def after (stage : Stage) (operation : Operation) : Stage where
  rig := (operation.perform stage.rig).2
  closed := operation.closedAfter stage.closed (operation.perform stage.rig).1

/-- A session that was not used yet. -/
structure IsFresh (stage : Stage) : Prop where
  port : stage.rig.port = .none
  running : stage.rig.running = false
  listener : stage.rig.listener = .absent
  closed : stage.closed = true

/-- One operation goes by that does not interrupt the listener. The session is opened only where it
may be. -/
def Moves (stage next : Stage) : Prop :=
  ∃ operation : Operation, operation.IsGentle ∧
    (operation = .opening → stage.closed = true) ∧ next = stage.after operation

/-- One operation goes by, of any kind, that does not open the session with success. -/
def Continues (stage next : Stage) : Prop :=
  ∃ operation : Operation,
    (operation = .opening → (openSession stage.rig).1 ≠ .ok ()) ∧ next = stage.after operation

/-- What holds at every stage when closing a port never fails and nothing interrupts the
listener. -/
structure Sound (stage : Stage) : Prop where
  gentle : stage.rig.plan.Gentle
  /-- A port that the link holds has not gone away. -/
  present : stage.rig.port.isHeld = true → stage.rig.port.isOpen = true
  tended : stage.rig.Tended
  /-- Nobody listens before the session is opened again. -/
  silent : stage.closed = true → stage.rig.listener ≠ .listening

variable {stage next first last : Stage}

theorem IsFresh.sound (fresh : stage.IsFresh) (gentle : stage.rig.plan.Gentle) : stage.Sound where
  gentle := gentle
  present held := by
    rw [fresh.port] at held
    cases held
  tended := .of_ended fresh.running
  silent _ := by
    rw [fresh.listener]
    exact nofun

theorem Sound.opening (sound : stage.Sound) (closed : stage.closed = true) :
    (stage.after .opening).Sound := by
  rcases outcome : openSession stage.rig with ⟨failure | _, next⟩
  · obtain ⟨plan, running, listener, port⟩ := openSession_error outcome
    have same : stage.after .opening = ⟨next, stage.closed⟩ := by
      simp only [after, Operation.perform, outcome, Operation.closedAfter]
    rw [same]
    refine ⟨plan ▸ sound.gentle, ?_, ?_, fun _ => ?_⟩
    · rcases port with same | ⟨_, _, held⟩
      · rw [same]
        exact sound.present
      · rw [held]
        exact id
    · intro goesOn
      obtain ⟨_, listening⟩ := sound.tended (running ▸ goesOn)
      exact absurd listening (sound.silent closed)
    · rw [listener]
      exact sound.silent closed
  · obtain ⟨plan, running, listener, port⟩ := openSession_begins outcome
    have same : stage.after .opening = ⟨next, false⟩ := by
      simp only [after, Operation.perform, outcome, Operation.closedAfter]
    rw [same]
    exact ⟨plan ▸ sound.gentle, fun _ => port,
      fun _ => ⟨HeldPort.isHeld_of_isOpen port, listener⟩, nofun⟩

theorem Sound.after (sound : stage.Sound) {operation : Operation}
    (other : operation ≠ .opening) (gentle : operation.IsGentle) :
    (stage.after operation).Sound := by
  have abides := Operation.perform_abides other gentle stage.rig
  refine ⟨abides.plan ▸ sound.gentle, ?_, abides.tended sound.gentle sound.tended,
    fun closed still => ?_⟩
  · show (operation.perform stage.rig).2.port.isHeld = true →
      (operation.perform stage.rig).2.port.isOpen = true
    rcases abides.port with same | dropped
    · rw [same]
      exact sound.present
    · rw [dropped]
      exact nofun
  · cases operation with
    | opening => exact other rfl
    | closing => exact (closeSession_closes stage.rig).1 still
    | _ => exact sound.silent closed (abides.listener still)

theorem Sound.moves (sound : stage.Sound) (moves : stage.Moves next) : next.Sound := by
  obtain ⟨operation, gentle, mayOpen, rfl⟩ := moves
  by_cases opens : operation = .opening
  · subst opens
    exact sound.opening (mayOpen rfl)
  · exact sound.after opens gentle

theorem Sound.reaches (sound : first.Sound) (reaches : ReflTransGen Moves first last) :
    last.Sound := by
  induction reaches with
  | refl => exact sound
  | tail _ moves inductionHypothesis => exact inductionHypothesis.moves moves

theorem Continues.recedes (continues : stage.Continues next) :
    (next.rig.running = true → stage.rig.running = true) ∧
      (next.rig.listener = .listening → stage.rig.listener = .listening) := by
  obtain ⟨operation, unopened, rfl⟩ := continues
  by_cases opens : operation = .opening
  · subst opens
    rcases outcome : openSession stage.rig with ⟨failure | _, next⟩
    · obtain ⟨_, running, listener, _⟩ := openSession_error outcome
      have same : (stage.after .opening).rig = next := congrArg Prod.snd outcome
      rw [same, running, listener]
      exact ⟨id, id⟩
    · exact absurd (congrArg Prod.fst outcome) (unopened rfl)
  · have recedes := Operation.perform_recedes opens stage.rig
    exact ⟨recedes.running, recedes.listener⟩

/-- Until it is opened with success, a session that has ended does not go on, and where nobody
listens nobody begins to. -/
theorem continues_recedes (continues : ReflTransGen Continues first last) :
    (last.rig.running = true → first.rig.running = true) ∧
      (last.rig.listener = .listening → first.rig.listener = .listening) := by
  induction continues with
  | refl => exact ⟨id, id⟩
  | tail _ continues inductionHypothesis =>
    obtain ⟨running, listener⟩ := continues.recedes
    exact ⟨fun still => inductionHypothesis.1 (running still),
      fun still => inductionHypothesis.2 (listener still)⟩

/-- The states that a session can reach when closing a port never fails and nothing interrupts the
listener. A session that goes on has an open link and a listener that reads it. A listener
that has ended with a fault has ended the session. A session that has ended does not go on
until it is opened with success. Opening that fails leaves everything as it was, where a port
is granted only with stop bits that the port library takes. Opening that succeeds finds no
other listener, and gives a session that goes on. -/
theorem reached_tended (fresh : first.IsFresh) (gentle : first.rig.plan.Gentle)
    (reached : ReflTransGen Moves first last) (vets : last.rig.Vets) :
    (last.rig.running = true →
        last.rig.port.isOpen = true ∧ last.rig.listener = .listening) ∧
      (∀ fault, last.rig.listener.fault? = some fault →
        last.rig.running = false ∧ last.rig.listener ≠ .listening) ∧
      (last.rig.running = false → ∀ later, ReflTransGen Continues last later →
        later.rig.running = false) ∧
      (last.closed = true → ∀ failure next, openSession last.rig = (.error failure, next) →
        next.running = last.rig.running ∧ next.listener = last.rig.listener ∧
          next.port = last.rig.port) ∧
      (last.closed = true → last.rig.listener ≠ .listening ∧
        ∀ next, openSession last.rig = (.ok (), next) →
          next.running = true ∧ next.port.isOpen = true ∧ next.listener = .listening) := by
  have sound := (fresh.sound gentle).reaches reached
  have goesOn : last.rig.running = true →
      last.rig.port.isOpen = true ∧ last.rig.listener = .listening := by
    intro running
    obtain ⟨held, listening⟩ := sound.tended running
    exact ⟨sound.present held, listening⟩
  refine ⟨goesOn, fun fault faulted => ?_, fun ended later continues => ?_,
    fun closed failure next failed => ?_,
    fun closed => ⟨sound.silent closed, fun next opened => ?_⟩⟩
  · have deaf : last.rig.listener ≠ .listening := by
      intro listening
      rw [listening] at faulted
      cases faulted
    exact ⟨Bool.eq_false_iff.mpr fun running => deaf (goesOn running).2, deaf⟩
  · refine Bool.eq_false_iff.mpr fun running => ?_
    rw [(continues_recedes continues).1 running] at ended
    cases ended
  · exact openSession_error_of_vets vets failed
  · obtain ⟨_, running, listener, port⟩ := openSession_begins opened
    exact ⟨running, port, listener⟩

/-- A session whose port goes away under its listener. -/
theorem reached_tended_of_unplugged :
    let first : Stage := ⟨{ plan := {}, settings := { port := "COM3" } }, true⟩
    let opened := first.after .opening
    let last := opened.after (.receiving [.failure (.transport "gone")])
    first.IsFresh ∧ first.rig.plan.Gentle ∧ ReflTransGen Moves first last ∧ last.rig.Vets ∧
      opened.rig.running = true ∧ last.rig.listener.fault? = some (.reading "gone") ∧
      last.rig.running = false := by
  intro first opened last
  have fresh : first.IsFresh := ⟨rfl, rfl, rfl, rfl⟩
  have gentle : first.rig.plan.Gentle := ⟨fun _ => rfl, fun _ => nofun, nofun⟩
  have opens : first.Moves opened := ⟨.opening, trivial, fun _ => rfl, rfl⟩
  have fails : opened.Moves last :=
    ⟨.receiving [.failure (.transport "gone")], by simp [Operation.IsGentle,
      Arrival.isInterruption, Failure.isOrdinary], nofun, rfl⟩
  have reached : ReflTransGen Moves first last := .tail (.single opens) fails
  have fault : last.rig.listener.fault? = some (.reading "gone") := by rfl
  have vets : last.rig.Vets := fun _ => .one
  have holds := reached_tended fresh gentle reached vets
  exact ⟨fresh, gentle, reached, vets, rfl, fault, (holds.2.1 _ fault).1⟩

end Stage

/-! ### Closing -/

/-- Closing a session that has ended, without a listener and without a port, says so in the log. -/
theorem closeSession_of_ended {rig : Rig} (ended : rig.running = false)
    (deaf : rig.listener ≠ .listening) (dropped : rig.port = .none) :
    closeSession rig =
      (.ok (), { rig with events := rig.events.push (.logged .debug "Session closed") }) := by
  have same : { rig with running := false } = rig := by rw [← ended]
  have unheld : rig.port.isHeld = false := by
    rw [dropped]
    rfl
  unfold closeSession
  rw [change_bind, same, bind_of_ok (Echo.join_of_deaf deaf),
    bind_of_ok (Link.closeLink_of_dropped unheld)]
  rfl

/-- Closing a session ends the listener before it closes the link, whatever that still reads, and
whatever closing comes to. Afterwards the session is not to go on, nobody listens, and the
link holds no port; nobody begins to read before the session is opened again. Closing fails
only when the port refuses to close for a reason other than the transport. Closing once more
changes nothing but the log. -/
theorem closeSession_ends (rig : Rig) :
    let waited := (Echo.join { rig with running := false }).2
    let ended := closeSession rig
    (waited.running = false ∧ waited.listener ≠ .listening ∧
        ended = (Link.closeLink >>= fun _ => log .debug "Session closed") waited) ∧
      (ended.2.running = false ∧ ended.2.listener = waited.listener ∧ ended.2.port = .none) ∧
      (∀ failure, ended.1 = .error failure →
        waited.port.isHeld = true ∧ failure.isTransport = false ∧
          waited.plan.fault? .close (waited.tally.close + 1) = some failure) ∧
      (∀ last, ReflTransGen Stage.Continues ⟨ended.2, true⟩ last →
        last.rig.listener ≠ .listening) ∧
      closeSession ended.2 =
        (.ok (), { ended.2 with
          events := ended.2.events.push (.logged .debug "Session closed") }) := by
  intro waited ended
  have ending : { rig with running := false }.running = false := rfl
  have stopped : waited.running = false := (Echo.join_recedes _).running_eq_false ending
  have deaf : waited.listener ≠ .listening := Echo.join_ends ending
  have closes : ended = (Link.closeLink >>= fun _ => log .debug "Session closed") waited :=
    bind_of_ok (Echo.join_neverFails.apply _) _
  have settled : ended.2.running = false := (closeSession_recedes rig).running_eq_false ending
  have listener : ended.2.listener = waited.listener := closeSession_listener rig
  have silent : ended.2.listener ≠ .listening := by
    rw [listener]
    exact deaf
  have dropped : ended.2.port = .none := (closeSession_closes rig).2.1
  refine ⟨⟨stopped, deaf, closes⟩, ⟨settled, listener, dropped⟩,
    fun failure failed => closeSession_error failed, fun last continues listening => ?_,
    closeSession_of_ended settled silent dropped⟩
  exact silent ((Stage.continues_recedes continues).2 listening)

end KeyFeed.Session
