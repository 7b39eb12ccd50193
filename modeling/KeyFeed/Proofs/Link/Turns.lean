/-
This file says what a single call to a link comes to that is used by itself: it is opened,
closed, written or read, while nobody else listens. What becomes of the port is the same for
every call of one kind that finds the link open, or finds it closed, up to the failure that
the call meets at the port.

Opening that obtains a port succeeds when the settings have a short form, and so it does where a
port is granted only with stop bits that the port library takes.
-/

import KeyFeed.Proofs.Link.Vetting
import KeyFeed.Proofs.Link.Writing
import KeyFeed.Proofs.Session.Abiding

namespace KeyFeed.Link

open KeyFeed.Run

/-! ### Calls and turns -/

/-- A call to the link. -/
inductive Call where
  | opening
  | closing
  | writing (bytes : List UInt8)
  | reading

/-- The call carries bytes: it writes or reads the port. -/
def Call.carries : Call → Bool
  | writing _ => true
  | reading => true
  | _ => false

/-- Makes a call. -/
def Call.perform : Call → Run Unit
  | opening => openLink
  | closing => closeLink
  | writing bytes => write bytes
  | reading => do
    let _ ← read

/-- The failure that the next read meets at the port. -/
def readFault? (rig : Rig) : Option Failure :=
  match rig.queuedArrivals with
  | .failure failure :: _ => some failure
  | .bytes _ :: _ => none
  | [] => if rig.port.isOpen then none else some portClosed

/-- The failure that a call meets at the port when it writes or reads it. -/
def Call.fault? : Call → Rig → Option Failure
  | writing _, rig => writeFault? rig
  | reading, rig => readFault? rig
  | _, _ => none

/-- A call and the state in which it is made. -/
structure Turn where
  call : Call
  before : Rig

namespace Turn

/-- What the call comes to. -/
def outcome (turn : Turn) : Except Failure Unit := (turn.call.perform turn.before).1

/-- The state after the call. -/
def after (turn : Turn) : Rig := (turn.call.perform turn.before).2

/-- A port is asked for and obtained. -/
def obtains (turn : Turn) : Bool :=
  match turn.call with
  | .opening =>
    !turn.before.port.isOpen &&
      (turn.before.plan.fault? .opening (turn.before.tally.opening + 1)).isNone
  | _ => false

/-- The link is opened with success. -/
def OpensWell (turn : Turn) : Prop := turn.call = .opening ∧ turn.outcome = .ok ()

/-- If the turn opens the link, that is an opening by the port library. -/
def Vets (turn : Turn) : Prop := turn.call = .opening → turn.before.Vets

/-- The link is closed, or a call that is made while it is open meets a failure of the transport. -/
def Drops (turn : Turn) : Prop :=
  turn.call = .closing ∨ turn.before.port.isOpen = true ∧
    ∃ failure, turn.call.fault? turn.before = some failure ∧ failure.isTransport = true

end Turn

/-! ### What becomes of the port -/

/-- The port is closed. -/
def isClosing : Event → Bool
  | .portClosed => true
  | _ => false

/-- The count of times that a port was called to close. -/
def closings (rig : Rig) : Nat := (Event.only isClosing rig.events).length

/-- The link is used by itself, with settings that do not change: nobody listens, and a port that
it holds is still there. -/
structure Private (settings : Settings) (rig : Rig) : Prop where
  settled : rig.settings = settings
  deaf : rig.listener ≠ .listening
  present : rig.port.isHeld = rig.port.isOpen

/-- What a turn comes to, by what it finds: one way for each kind of call to an open link or to one
that is not. -/
inductive Goes : Turn → Prop where
  /-- An open link is not opened again. -/
  | again {rig : Rig} (isOpen : rig.port.isOpen = true)
      (outcome : (Turn.mk .opening rig).outcome = .ok ())
      (after : (Turn.mk .opening rig).after =
        { rig with events := rig.events.push (.logged .warning "Already open") }) :
      Goes ⟨.opening, rig⟩
  /-- The port fails to open. A failure of the transport or of the settings makes it unavailable. -/
  | unavailable {rig : Rig} {failure : Failure} (unopened : rig.port.isOpen = false)
      (planned : rig.plan.fault? .opening (rig.tally.opening + 1) = some failure)
      (outcome : (Turn.mk .opening rig).outcome = .error (refusal rig.settings failure))
      (port : (Turn.mk .opening rig).after.port = rig.port)
      (uncalled : closings (Turn.mk .opening rig).after = closings rig) : Goes ⟨.opening, rig⟩
  /-- A port is obtained. Opening succeeds unless the settings have no short form. -/
  | obtained {rig : Rig} (unopened : rig.port.isOpen = false)
      (granted : rig.plan.fault? .opening (rig.tally.opening + 1) = none)
      (outcome : (Turn.mk .opening rig).outcome = .ok () ↔ rig.settings.describe.isOk = true)
      (port : (Turn.mk .opening rig).after.port = .held true)
      (uncalled : closings (Turn.mk .opening rig).after = closings rig) : Goes ⟨.opening, rig⟩
  /-- Without an open link a write or a read is refused, and nothing else happens. -/
  | refused {rig : Rig} {call : Call} (unopened : rig.port.isOpen = false)
      (carries : call.carries = true)
      (outcome : (Turn.mk call rig).outcome = .error (.link (.notOpen rig.settings.port)))
      (after : (Turn.mk call rig).after = rig) : Goes ⟨call, rig⟩
  /-- Without an open link there is nothing to close. -/
  | unneeded {rig : Rig} (unopened : rig.port.isOpen = false)
      (outcome : (Turn.mk .closing rig).outcome = .ok ())
      (after : (Turn.mk .closing rig).after = rig) : Goes ⟨.closing, rig⟩
  /-- The link is closed, whatever its port does. -/
  | closed {rig : Rig} (isOpen : rig.port.isOpen = true)
      (port : (Turn.mk .closing rig).after.port = .none)
      (called : closings (Turn.mk .closing rig).after = closings rig + 1) : Goes ⟨.closing, rig⟩
  /-- A write or a read meets no failure of the transport: the port is as it was. -/
  | passed {rig : Rig} {call : Call} (isOpen : rig.port.isOpen = true)
      (carries : call.carries = true)
      (spared : ∀ failure, call.fault? rig = some failure → failure.isTransport = false)
      (port : (Turn.mk call rig).after.port = rig.port)
      (uncalled : closings (Turn.mk call rig).after = closings rig) : Goes ⟨call, rig⟩
  /-- A write or a read meets a failure of the transport: the port is dropped, and closed in some
  way. -/
  | lost {rig : Rig} {call : Call} {failure : Failure} (isOpen : rig.port.isOpen = true)
      (carries : call.carries = true) (met : call.fault? rig = some failure)
      (transport : failure.isTransport = true) (port : (Turn.mk call rig).after.port = .none)
      (called : closings (Turn.mk call rig).after = closings rig + 1) : Goes ⟨call, rig⟩

theorem closings_eq (rig : Rig) :
    closings rig = ((Event.only Event.isPort rig.events).filter isClosing).length := by
  rw [closings, Event.only, Event.only, List.filter_filter]
  refine congrArg List.length (List.filter_congr fun event _ => ?_)
  cases event <;> rfl

theorem closings_of_same {rig next : Rig}
    (same : Event.only Event.isPort next.events = Event.only Event.isPort rig.events) :
    closings next = closings rig := by
  rw [closings_eq, closings_eq, same]

/-! ### Opening -/

theorem openLink_of_open {rig : Rig} (isOpen : rig.port.isOpen = true) :
    openLink rig =
      (.ok (), { rig with events := rig.events.push (.logged .warning "Already open") }) := by
  unfold openLink
  rw [look_bind, if_pos isOpen]
  rfl

/-- Putting into the log what was opened fails when the settings have no short form. -/
theorem logOpened_cases (rig : Rig) :
    ((logOpened rig).1 = .ok () ↔ rig.settings.describe.isOk = true) ∧
      rig.Notes (logOpened rig).2 := by
  unfold logOpened
  rw [look_bind]
  cases rig.settings.describe with
  | ok short => exact ⟨iff_of_true rfl rfl, log_notes _ _ rig⟩
  | error refusal => exact ⟨iff_of_false nofun nofun, Std.Refl.refl rig⟩

/-! ### What a call leaves -/

namespace Private

variable {settings : Settings} {rig next : Rig}

/-- Nobody begins to listen, and the port is the same, another one, or none. -/
theorem keep (alone : Private settings rig) (settled : next.settings = rig.settings)
    (listener : next.listener = .listening → rig.listener = .listening)
    (port : next.port = rig.port ∨ next.port = .none ∨ next.port = .held true) :
    Private settings next where
  settled := settled.trans alone.settled
  deaf listening := alone.deaf (listener listening)
  present := by
    rcases port with same | dropped | held
    · rw [same]
      exact alone.present
    · rw [dropped]
      rfl
    · rw [held]
      rfl

/-- A link that is not open holds no port. -/
theorem unheld (alone : Private settings rig) (unopened : rig.port.isOpen = false) :
    rig.port.isHeld = false := by
  rw [alone.present]
  exact unopened

end Private

theorem closings_of_notes {rig next : Rig} (notes : rig.Notes next) :
    closings next = closings rig :=
  closings_of_same (notes.keyed.only_of_foreign fun _ => Event.isPort_of_isText)

/-- A port that is dropped is closed once, and one that is kept is not closed. -/
theorem closings_of_kept {rig next : Rig} (kept : rig.PortKept next)
    (held : rig.port.isHeld = true) :
    (next.port = .none → closings next = closings rig + 1) ∧
      (next.port = rig.port → closings next = closings rig) := by
  rcases kept with ⟨samePort, same⟩ | ⟨_, dropped, closed⟩
  · refine ⟨fun dropped => ?_, fun _ => closings_of_same same⟩
    rw [← samePort, dropped] at held
    cases held
  · refine ⟨fun _ => ?_, fun samePort => ?_⟩
    · rw [closings_eq, closings_eq, closed, List.filter_append, List.length_append]
      rfl
    · rw [← samePort, dropped] at held
      cases held

variable {settings : Settings}

theorem goes_opening {rig : Rig} (alone : Private settings rig) :
    Goes ⟨.opening, rig⟩ ∧ Private settings (openLink rig).2 := by
  have asking : closings (asked rig) = closings rig := by
    rw [closings_eq, closings_eq, only_isPort_asked, List.filter_append, List.length_append]
    rfl
  cases isOpen : rig.port.isOpen with
  | true =>
    have same := openLink_of_open isOpen
    refine ⟨.again isOpen (congrArg Prod.fst same) (congrArg Prod.snd same), ?_⟩
    rw [same]
    exact alone.keep rfl id (Or.inl rfl)
  | false =>
    cases planned : rig.plan.fault? .opening (rig.tally.opening + 1) with
    | some failure =>
      obtain ⟨final, failed, notes⟩ := openLink_of_refused isOpen planned
      have left : (Turn.mk .opening rig).after = final := congrArg Prod.snd failed
      have port : final.port = rig.port := by rw [notes.frame, asked]
      refine ⟨.unavailable isOpen planned (congrArg Prod.fst failed) (left ▸ port) ?_, ?_⟩
      · rw [left, closings_of_notes notes, asking]
      · rw [failed]
        exact alone.keep (by rw [notes.frame]; rfl) (by rw [notes.frame]; exact id) (Or.inl port)
    | none =>
      have opens := openLink_of_passed isOpen planned
      obtain ⟨outcome, notes⟩ := logOpened_cases (acquired rig)
      have left : (Turn.mk .opening rig).after = (logOpened (acquired rig)).2 :=
        congrArg Prod.snd opens
      have port : (logOpened (acquired rig)).2.port = .held true := by rw [notes.frame, acquired]
      refine ⟨.obtained isOpen planned ?_ (left ▸ port) ?_, ?_⟩
      · rw [← show (acquired rig).settings = rig.settings from rfl, ← outcome]
        exact iff_of_eq (congrArg (fun ran => ran.1 = .ok ()) opens)
      · rw [left, closings_of_notes notes]
        exact asking
      · rw [opens]
        exact alone.keep (by rw [notes.frame]; rfl) (by rw [notes.frame]; exact id)
          (Or.inr (Or.inr port))

theorem goes_closing {rig : Rig} (alone : Private settings rig) :
    Goes ⟨.closing, rig⟩ ∧ Private settings (closeLink rig).2 := by
  cases isOpen : rig.port.isOpen with
  | true =>
    have held : rig.port.isHeld = true := alone.present.trans isOpen
    have notes := closeLink_of_held alone.deaf held
    have called : closings (released rig) = closings rig + 1 := by
      have grown : Event.only isClosing (released rig).events =
          Event.only isClosing rig.events ++ [.portClosed] := Event.only_push_of_sort rfl rig.events
      rw [closings, grown, List.length_append]
      rfl
    refine ⟨.closed isOpen (closeLink_port rig) ((closings_of_notes notes).trans called), ?_⟩
    exact alone.keep (by rw [notes.frame]; rfl) (closeLink_recedes rig).listener
      (Or.inr (Or.inl (closeLink_port rig)))
  | false =>
    have same := closeLink_of_dropped (alone.unheld isOpen)
    refine ⟨.unneeded isOpen (congrArg Prod.fst same) (congrArg Prod.snd same), ?_⟩
    rw [same]
    exact alone

/-- A write or a read of an open link, by the failure that it meets and what then becomes of the
port. -/
theorem goes_carrying {rig : Rig} {call : Call} (alone : Private settings rig)
    (carries : call.carries = true) (isOpen : rig.port.isOpen = true)
    (settled : (call.perform rig).2.settings = rig.settings)
    (kept : rig.PortKept (call.perform rig).2)
    (listener : (call.perform rig).2.listener = .listening → rig.listener = .listening)
    (spared : (∀ failure, call.fault? rig = some failure → failure.isTransport = false) →
      (call.perform rig).2.port = rig.port)
    (dropped : ∀ failure, call.fault? rig = some failure → failure.isTransport = true →
      (call.perform rig).2.port = .none) :
    Goes ⟨call, rig⟩ ∧ Private settings (call.perform rig).2 := by
  obtain ⟨calledOnce, uncalled⟩ := closings_of_kept kept (alone.present.trans isOpen)
  by_cases met : ∃ failure, call.fault? rig = some failure ∧ failure.isTransport = true
  · obtain ⟨failure, met, transport⟩ := met
    have port := dropped failure met transport
    exact ⟨.lost isOpen carries met transport port (calledOnce port),
      alone.keep settled listener (Or.inr (Or.inl port))⟩
  · have harmless : ∀ failure, call.fault? rig = some failure → failure.isTransport = false :=
      fun failure found => Bool.eq_false_iff.mpr fun transport => met ⟨failure, found, transport⟩
    have port := spared harmless
    exact ⟨.passed isOpen carries harmless port (uncalled port),
      alone.keep settled listener (Or.inl port)⟩

/-- The settings stay what they are. -/
def SameSettings (rig next : Rig) : Prop := next.settings = rig.settings

instance : IsPreorder Rig SameSettings where
  refl _ := rfl
  trans _ _ _ earlier later := later.trans earlier

theorem write_settings (bytes : List UInt8) : Leads SameSettings (write bytes) := by
  have reaches (point : Point) : Leads SameSettings (reach point) := fun rig => by
    rw [reach_snd]
    rfl
  have drops : Leads SameSettings (dropPort closePort) := fun rig => by
    rw [SameSettings, (dropPort_closePort_aside rig).frame]
  exact write_leads (fun event _ _ => rfl) (fun point _ => reaches point) drops bytes

theorem goes_writing {rig : Rig} (alone : Private settings rig) (bytes : List UInt8) :
    Goes ⟨.writing bytes, rig⟩ ∧ Private settings (write bytes rig).2 := by
  cases isOpen : rig.port.isOpen with
  | true =>
    have held : rig.port.isHeld = true := alone.present.trans isOpen
    have sends := write_sends bytes rig
    refine goes_carrying alone rfl isOpen (write_settings bytes rig) sends.port sends.listener
      (fun harmless => ?_) (fun failure met transport => ?_)
    · cases met : writeFault? rig with
      | none =>
        show (write bytes rig).2.port = rig.port
        rw [write_of_sound held met]
        rfl
      | some failure =>
        have port := (write_of_fault held met bytes).2
        rwa [if_neg (by rw [harmless failure met]; exact Bool.false_ne_true)] at port
    · have port := (write_of_fault held met bytes).2
      rwa [if_pos transport] at port
  | false =>
    have same := write_of_lost (alone.unheld isOpen) bytes
    refine ⟨.refused isOpen rfl (congrArg Prod.fst same) (congrArg Prod.snd same), ?_⟩
    rw [same]
    exact alone

/-! ### Reading -/

/-- A read without a held port is refused. -/
theorem read_of_lost {rig : Rig} (lost : rig.port.isHeld = false) :
    read rig = (.error (.link (.notOpen rig.settings.port)), rig) :=
  bind_of_error (requirePort_of_lost lost) _

/-- The state after an arrival was taken from the queue. -/
def dequeued (rig : Rig) : Rig := { rig with queuedArrivals := rig.queuedArrivals.tail }

/-- The next read gives an arrival that fails exactly by the failure that it meets. -/
theorem nextArrival_apply (rig : Rig) :
    ∃ arrival, nextArrival rig = (.ok arrival, dequeued rig) ∧
      ∀ failure, arrival = .failure failure ↔ readFault? rig = some failure := by
  unfold nextArrival readFault? dequeued
  rw [look_bind]
  cases queue : rig.queuedArrivals with
  | nil =>
    have same : { rig with queuedArrivals := [] } = rig := by rw [← queue]
    rw [List.tail_nil, same]
    cases rig.port.isOpen with
    | true => exact ⟨_, rfl, fun failure => iff_of_false nofun nofun⟩
    | false => exact ⟨_, rfl, fun failure => by simp⟩
  | cons arrival rest =>
    refine ⟨_, rfl, fun failure => ?_⟩
    cases arrival <;> simp

theorem perform_reading_of_held {rig : Rig} (held : rig.port.isHeld = true) :
    ∃ arrival, (Call.reading.perform rig).2 = (receive arrival (dequeued rig)).2 ∧
      ∀ failure, arrival = .failure failure ↔ readFault? rig = some failure := by
  obtain ⟨arrival, given, fails⟩ := nextArrival_apply rig
  refine ⟨arrival, ?_, fails⟩
  show ((read >>= fun _ => pure ()) rig).2 = _
  unfold read
  rw [bind_assoc, bind_of_ok (requirePort_of_held held), bind_assoc, bind_of_ok given, bind_assoc]
  rcases received : receive arrival (dequeued rig) with ⟨failure | bytes, last⟩
  · rw [bind_of_error received]
  · rw [bind_of_ok received]
    rfl

theorem goes_reading {rig : Rig} (alone : Private settings rig) :
    Goes ⟨.reading, rig⟩ ∧ Private settings (Call.reading.perform rig).2 := by
  cases isOpen : rig.port.isOpen with
  | true =>
    have held : rig.port.isHeld = true := alone.present.trans isOpen
    obtain ⟨arrival, received, fails⟩ := perform_reading_of_held held
    have aside := receive_aside arrival (dequeued rig)
    refine goes_carrying alone rfl isOpen (by rw [received, aside.frame]; rfl)
      (by rw [received]; exact aside.port) (by rw [received]; exact aside.listener)
      (fun harmless => ?_) (fun failure met transport => ?_)
    · rw [received]
      cases arrival with
      | bytes bytes => rfl
      | failure failure =>
        have spared := harmless failure ((fails failure).mp rfl)
        rw [receive_of_other spared]
        rfl
    · rw [received, (fails failure).mpr met]
      obtain ⟨_, _, dropped⟩ := @receive_port (.failure failure) transport (dequeued rig)
      exact dropped
  | false =>
    have same : Call.reading.perform rig = (.error (.link (.notOpen rig.settings.port)), rig) :=
      bind_of_error (read_of_lost (alone.unheld isOpen)) _
    refine ⟨.refused isOpen rfl (congrArg Prod.fst same) (congrArg Prod.snd same), ?_⟩
    rw [same]
    exact alone

theorem goes {rig : Rig} (alone : Private settings rig) (call : Call) :
    Goes ⟨call, rig⟩ ∧ Private settings (call.perform rig).2 := by
  cases call with
  | opening => exact goes_opening alone
  | closing => exact goes_closing alone
  | writing bytes => exact goes_writing alone bytes
  | reading => exact goes_reading alone

/-- What is fed waits behind what waits already, and reads take it in its order. -/
theorem nextArrival_feed {rig : Rig} {arrival : Arrival} {arrivals rest : List Arrival}
    (queue : rig.queuedArrivals ++ arrivals = arrival :: rest) :
    (feed arrivals >>= fun _ => nextArrival) rig =
      (.ok arrival, { rig with queuedArrivals := rest }) := by
  unfold feed nextArrival
  rw [change_bind, look_bind]
  dsimp only
  rw [queue]
  rfl

/-! ### A single write -/

/-- An opening that succeeds finds or obtains an open port, and closes none. -/
theorem Goes.opened {rig : Rig} (goes : Goes ⟨.opening, rig⟩)
    (succeeds : (Turn.mk .opening rig).outcome = .ok ()) :
    (Turn.mk .opening rig).after.port.isOpen = true ∧
      closings (Turn.mk .opening rig).after = closings rig := by
  cases goes with
  | again isOpen _ after =>
    rw [after]
    exact ⟨isOpen, closings_of_notes (log_notes .warning "Already open" rig)⟩
  | unavailable _ _ outcome =>
    rw [outcome] at succeeds
    cases succeeds
  | obtained _ _ _ port uncalled =>
    rw [port]
    exact ⟨rfl, uncalled⟩
  | refused _ carries => cases carries
  | passed _ carries => cases carries
  | lost _ carries => cases carries

/-- Closing calls an open link's port to close, and no other one. -/
theorem Goes.closings_closing {rig : Rig} (goes : Goes ⟨.closing, rig⟩) :
    closings (Turn.mk .closing rig).after = closings rig + if rig.port.isOpen then 1 else 0 := by
  cases goes with
  | unneeded unopened _ after =>
    rw [after, unopened]
    rfl
  | closed isOpen _ called =>
    rw [isOpen]
    exact called
  | refused _ carries => cases carries
  | passed _ carries => cases carries
  | lost _ carries => cases carries

/-- A write to an open link leaves it open, or drops its port and closes it. -/
theorem Goes.closings_writing {rig : Rig} {bytes : List UInt8} (goes : Goes ⟨.writing bytes, rig⟩)
    (isOpen : rig.port.isOpen = true) :
    closings (Turn.mk (.writing bytes) rig).after +
        (if (Turn.mk (.writing bytes) rig).after.port.isOpen then 1 else 0) =
      closings rig + 1 := by
  cases goes with
  | refused unopened =>
    rw [isOpen] at unopened
    cases unopened
  | passed _ _ _ port uncalled =>
    rw [port, isOpen, uncalled]
    rfl
  | lost _ _ _ _ port called =>
    rw [port, called]
    rfl

/-- A link that is opened for a single write is closed after it exactly once, whatever the write
and closing come to. -/
theorem writeOnce_closes {rig : Rig} (alone : Private settings rig)
    (succeeds : (openLink rig).1 = .ok ()) (bytes : List UInt8) :
    (writeOnce bytes rig).2.port = .none ∧ closings (writeOnce bytes rig).2 = closings rig + 1 := by
  obtain ⟨opening, held⟩ := goes_opening alone
  obtain ⟨isOpen, same⟩ := opening.opened succeeds
  have comes : (writeOnce bytes rig).2 = (closeLink (write bytes (openLink rig).2).2).2 := by
    unfold writeOnce
    rw [bind_of_ok (Prod.ext succeeds rfl), ensuring_snd]
  rw [comes]
  obtain ⟨writing, written⟩ := goes_writing held bytes
  obtain ⟨closing, -⟩ := goes_closing written
  refine ⟨closeLink_port _, ?_⟩
  calc closings (closeLink (write bytes (openLink rig).2).2).2
    _ = closings (write bytes (openLink rig).2).2 +
          if (write bytes (openLink rig).2).2.port.isOpen then 1 else 0 := closing.closings_closing
    _ = closings (openLink rig).2 + 1 := writing.closings_writing isOpen
    _ = closings rig + 1 := congrArg (· + 1) same

end KeyFeed.Link
