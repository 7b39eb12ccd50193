/-
This file says what can happen to the state while a session goes on: everything but
opening the port, closing the link, and making the console ready or restoring it. The
port is kept, or dropped and closed; the calls that a run makes once at most are not
made. Sending goes on in this way, and leaves a console alone that is not in use. Texts
that are shown, and keys that come and go, change even less.
-/

import KeyFeed.Clock
import KeyFeed.Proofs.Echo.Aside

namespace KeyFeed

open KeyFeed.Run

/-- The call belongs to the beginning or the end of a session. -/
def Point.isOnce : Point → Bool
  | opening => true
  | consoleCreation => true
  | consoleSetUp => true
  | consoleRestoring => true
  | _ => false

/-- The event belongs to the beginning or the end of a session, except for the closing of the
port, which a fault can bring at any time. -/
def Event.isOnce : Event → Bool
  | opening _ => true
  | event => event.isConsole

/-- The event is a record of a write: what becomes of the bytes, or a text for the log. -/
def Event.isOfWrite : Event → Bool
  | wrote _ => true
  | writeFailed _ => true
  | flushed => true
  | logged _ _ => true
  | _ => false

theorem Event.inside_of_isOfWrite {event : Event} (ofWrite : event.isOfWrite = true) :
    event.isOnce = false ∧ event.isPort = false := by
  cases event <;> simp_all [isOfWrite, isOnce, isPort, isConsole]

theorem Event.only_isConsole_of_isOnce {events later : Array Event}
    (same : only isOnce later = only isOnce events) :
    only isConsole later = only isConsole events :=
  only_of_only (fun event => by cases event <;> simp [isConsole, isOnce]) same

/-! ### Relations between states -/

/-- What every part of a session keeps, the use of the console included. -/
structure Rig.Keeps (rig next : Rig) : Prop where
  plan : next.plan = rig.plan
  sink : next.sink = rig.sink
  finalArrivals : next.finalArrivals = rig.finalArrivals
  /-- Events are added at the end only. -/
  grown : rig.events.toList <+: next.events.toList
  /-- The port is kept, or dropped and closed. -/
  port : rig.PortKept next
  /-- No listener begins to read. -/
  listener : next.listener = .listening → rig.listener = .listening

/-- What can happen while a session goes on. -/
structure Rig.GoesOn (rig next : Rig) : Prop extends rig.Keeps next where
  /-- No call is made that belongs to the beginning or the end. -/
  once : ∀ point, point.isOnce = true → next.tally.get point = rig.tally.get point
  /-- No event is added that belongs there. -/
  inside : Event.only Event.isOnce next.events = Event.only Event.isOnce rig.events
  active : next.keyboard.active = rig.keyboard.active

/-- What sending can do: it goes on, and leaves the console alone unless that is in use. -/
structure Rig.Sends (rig next : Rig) : Prop extends rig.GoesOn next where
  away : rig.keyboard.active = false →
    next.keyboard = rig.keyboard ∧ next.batches = rig.batches

/-- Texts are shown, and nothing else happens. -/
structure Rig.Notes (rig next : Rig) : Prop where
  frame : next = { rig with events := next.events }
  events : ∃ added, next.events.toList = rig.events.toList ++ added ∧
    ∀ event ∈ added, event.isText = true

/-- Keys come and go, texts are shown, and nothing else happens. -/
structure Rig.Keyed (rig next : Rig) : Prop where
  frame : next =
    { rig with
      events := next.events
      keyboard := next.keyboard
      batches := next.batches }
  events : ∃ added, next.events.toList = rig.events.toList ++ added ∧
    ∀ event ∈ added, event.isText = true
  active : next.keyboard.active = rig.keyboard.active

namespace Rig

variable {rig next : Rig}

instance : IsPreorder Rig Rig.Notes where
  refl rig := ⟨rfl, [], by simp, by simp⟩
  trans first middle last earlier later := by
    obtain ⟨front, grown, front_text⟩ := earlier.events
    obtain ⟨back, grown_again, back_text⟩ := later.events
    refine ⟨by rw [later.frame, earlier.frame], front ++ back,
      by rw [grown_again, grown, List.append_assoc], ?_⟩
    exact List.forall_mem_append.mpr ⟨front_text, back_text⟩

instance : IsPreorder Rig Rig.Keyed where
  refl rig := ⟨rfl, ⟨[], by simp, by simp⟩, rfl⟩
  trans first middle last earlier later := by
    obtain ⟨front, grown, front_text⟩ := earlier.events
    obtain ⟨back, grown_again, back_text⟩ := later.events
    refine ⟨by rw [later.frame, earlier.frame],
      ⟨front ++ back, by rw [grown_again, grown, List.append_assoc], ?_⟩,
      later.active.trans earlier.active⟩
    exact List.forall_mem_append.mpr ⟨front_text, back_text⟩

instance : IsPreorder Rig Rig.Keeps where
  refl rig := ⟨rfl, rfl, rfl, List.prefix_rfl, .refl rig, id⟩
  trans _ _ _ earlier later :=
    ⟨later.plan.trans earlier.plan, later.sink.trans earlier.sink,
      later.finalArrivals.trans earlier.finalArrivals, earlier.grown.trans later.grown,
      earlier.port.trans later.port, fun still => earlier.listener (later.listener still)⟩

instance : IsPreorder Rig Rig.GoesOn where
  refl rig := ⟨Std.Refl.refl rig, fun _ _ => rfl, rfl, rfl⟩
  trans _ _ _ earlier later :=
    ⟨IsTrans.trans _ _ _ earlier.toKeeps later.toKeeps,
      fun point once => (later.once point once).trans (earlier.once point once),
      later.inside.trans earlier.inside, later.active.trans earlier.active⟩

instance : IsPreorder Rig Rig.Sends where
  refl rig := ⟨Std.Refl.refl rig, fun _ => ⟨rfl, rfl⟩⟩
  trans first middle last earlier later := by
    refine ⟨IsTrans.trans _ _ _ earlier.toGoesOn later.toGoesOn, fun away => ?_⟩
    obtain ⟨sameKeyboard, sameBatches⟩ := earlier.away away
    obtain ⟨keyboard, batches⟩ := later.away (by rw [sameKeyboard]; exact away)
    exact ⟨keyboard.trans sameKeyboard, batches.trans sameBatches⟩

namespace Notes

theorem push {event : Event} (text : event.isText = true) (rig : Rig) :
    rig.Notes { rig with events := rig.events.push event } :=
  ⟨rfl, [event], by simp, by simpa using text⟩

theorem tally (notes : rig.Notes next) : next.tally = rig.tally := by rw [notes.frame]

/-- Settings that are not looked at can be others. -/
theorem settle (notes : rig.Notes next) (settings : Link.Settings) :
    { rig with settings := settings }.Notes { next with settings := settings } :=
  ⟨congrArg (fun rig => { rig with settings := settings }) notes.frame, notes.events⟩

theorem keyed (notes : rig.Notes next) : rig.Keyed next where
  frame := by rw [notes.frame]
  events := notes.events
  active := by rw [notes.frame]

end Notes

theorem Keyed.only_of_foreign {sort : Event → Bool} (keyed : rig.Keyed next)
    (foreign : ∀ event, event.isText = true → sort event = false) :
    Event.only sort next.events = Event.only sort rig.events := by
  obtain ⟨added, grown, texts⟩ := keyed.events
  exact Event.only_of_foreign grown fun event member => foreign event (texts event member)

theorem GoesOn.only_isConsole (goesOn : rig.GoesOn next) :
    Event.only Event.isConsole next.events = Event.only Event.isConsole rig.events :=
  Event.only_isConsole_of_isOnce goesOn.inside

namespace Keeps

/-- An event other than one of the port. -/
theorem push {event : Event} (notPort : event.isPort = false) (rig : Rig) :
    rig.Keeps { rig with events := rig.events.push event } where
  plan := rfl
  sink := rfl
  finalArrivals := rfl
  grown := by simp
  port := Or.inl ⟨rfl, Event.only_push_of_not_sort notPort rig.events⟩
  listener := id

/-- Without a port nothing is closed. -/
theorem only_isPort (keeps : rig.Keeps next) (portless : rig.port = .none) :
    Event.only Event.isPort next.events = Event.only Event.isPort rig.events := by
  rcases keeps.port with ⟨_, same⟩ | ⟨held, _⟩
  · exact same
  · rw [portless] at held
    cases held

theorem of_aside (aside : rig.Aside next) : rig.Keeps next where
  plan := aside.plan
  sink := by rw [aside.frame]
  finalArrivals := by rw [aside.frame]
  grown := by
    obtain ⟨added, grown, _⟩ := aside.events
    exact ⟨added, grown.symm⟩
  port := aside.port
  listener := aside.listener

end Keeps

theorem GoesOn.of_keyed (keyed : rig.Keyed next) : rig.GoesOn next where
  plan := by rw [keyed.frame]
  sink := by rw [keyed.frame]
  finalArrivals := by rw [keyed.frame]
  grown := by
    obtain ⟨added, grown, _⟩ := keyed.events
    exact ⟨added, grown.symm⟩
  port := Or.inl
    ⟨by rw [keyed.frame], keyed.only_of_foreign fun event => Event.isPort_of_isText⟩
  listener := by rw [keyed.frame]; exact id
  once point _ := by rw [keyed.frame]
  inside := by
    refine keyed.only_of_foreign fun event => ?_
    cases event <;> simp [Event.isText, Event.isOnce, Event.isConsole]
  active := keyed.active

namespace Sends

theorem of_notes (notes : rig.Notes next) : rig.Sends next where
  toGoesOn := .of_keyed notes.keyed
  away _ := by
    rw [notes.frame]
    exact ⟨rfl, rfl⟩

theorem of_aside (aside : rig.Aside next) : rig.Sends next where
  toKeeps := .of_aside aside
  once point once := by
    refine aside.tally point ?_ ?_
    · rintro rfl
      cases once
    · rintro rfl
      cases once
  inside := aside.only_of_foreign fun event => by
    cases event <;> simp [Event.isAside, Event.isOnce, Event.isConsole]
  active := by rw [aside.keyboard]
  away _ := ⟨aside.keyboard, by rw [aside.frame]⟩

/-- An event of the middle of a session, other than the closing of the port. -/
theorem push {event : Event} (inside : event.isOnce = false) (notPort : event.isPort = false)
    (rig : Rig) : rig.Sends { rig with events := rig.events.push event } where
  toKeeps := .push notPort rig
  once _ _ := rfl
  inside := Event.only_push_of_not_sort inside rig.events
  active := rfl
  away _ := ⟨rfl, rfl⟩

/-- A call of the middle of a session. -/
theorem count {point : Point} (inside : point.isOnce = false) (rig : Rig) :
    rig.Sends { rig with tally := rig.tally.bump point } where
  toKeeps := { (Std.Refl.refl rig : rig.Keeps rig) with }
  once other once := by
    refine Tally.get_bump_of_ne rig.tally ?_
    rintro rfl
    rw [inside] at once
    cases once
  inside := rfl
  active := rfl
  away _ := ⟨rfl, rfl⟩

end Sends

end Rig

open Rig (Notes Keyed Sends GoesOn)

/-! ### Parts of sending -/

theorem record_notes {event : Event} (text : event.isText = true) : Leads Notes (record event) :=
  fun rig => Notes.push text rig

theorem log_notes (level : Level) (message : String) : Leads Notes (log level message) :=
  record_notes rfl

theorem log_sends (level : Level) (message : String) : Leads Sends (log level message) :=
  (log_notes level message).mono fun _ _ => Sends.of_notes

theorem reach_sends {point : Point} (inside : point.isOnce = false) :
    Leads Sends (reach point) := by
  intro rig
  rw [reach_snd]
  exact Sends.count inside rig

namespace Link

/-- What holds of the records and the calls of a write, and of dropping the port, holds of the whole
write. -/
theorem write_leads {relation : Rig → Rig → Prop} [IsPreorder Rig relation]
    (records : ∀ event : Event, event.isOfWrite = true → Leads relation (record event))
    (reaches : ∀ point : Point, point.isOnce = false → Leads relation (reach point))
    (drops : Leads relation (dropPort closePort)) (bytes : List UInt8) :
    Leads relation (write bytes) := by
  have required : Leads relation requirePort :=
    Leads.look fun rig => Leads.ite (.pure ()) (.fail _) rig
  have hands : Leads relation (put bytes) := by
    refine (reaches .write rfl).attempt.bind fun outcome => ?_
    split
    · exact records (.wrote bytes) rfl
    · exact (records (.writeFailed bytes) rfl).bind fun _ => .fail _
  have empties : Leads relation flush :=
    (records .flushed rfl).bind fun _ => reaches .flush rfl
  refine required.bind fun _ => (hands.bind fun _ => empties).attempt.bind fun outcome => ?_
  split
  · exact .pure ()
  · refine .ite ?_ (.fail _)
    exact (records (.logged _ _) rfl).bind fun _ => drops.bind fun _ => .fail _

theorem write_sends (bytes : List UInt8) : Leads Sends (write bytes) := by
  refine write_leads (fun event ofWrite rig => ?_) (fun _ inside => reach_sends inside)
    (dropPort_closePort_aside.mono fun _ _ => Sends.of_aside) bytes
  obtain ⟨inside, notPort⟩ := Event.inside_of_isOfWrite ofWrite
  exact Sends.push inside notPort rig

/-- What holds of closing the port, of the log and of dropping the port holds of closing the
link. -/
theorem closeLink_leads {relation : Rig → Rig → Prop} [IsPreorder Rig relation]
    (closes : Leads relation closePort)
    (logs : ∀ level message, Leads relation (log level message))
    (forgets : Leads relation (change fun rig => { rig with port := .none })) :
    Leads relation closeLink := by
  have quietly : Leads relation closeQuietly := by
    refine closes.attempt.bind fun outcome => ?_
    split
    · exact .pure ()
    · exact .ite (logs _ _) (.fail _)
  refine Leads.look fun rig => ?_
  split
  · exact (quietly.ensuring forgets).bind (fun _ => logs _ _) rig
  · exact Leads.pure () rig

end Link

/-! ### Keys -/

namespace Console

/-- Changes of the keys, and of whether somebody reads them. -/
theorem changeKeyboard_keyed {update : Keyboard → Keyboard}
    (active : ∀ keyboard, (update keyboard).active = keyboard.active) :
    Leads Keyed (changeKeyboard update) :=
  fun rig => ⟨rfl, ⟨[], by simp [changeKeyboard], by simp⟩, active rig.keyboard⟩

theorem log_keyed (level : Level) (message : String) : Leads Keyed (log level message) :=
  (log_notes level message).mono fun _ _ => Notes.keyed

theorem endReader_keyed : Leads Keyed endReader :=
  (log_keyed _ _).bind fun _ => changeKeyboard_keyed fun _ => rfl

theorem queue_keyed (keys : List Key) : Leads Keyed (queue keys) :=
  changeKeyboard_keyed fun _ => rfl

theorem meetEnd_keyed (ending : ReaderEnd) : Leads Keyed (meetEnd ending) := by
  have ends (level : Level) (message : String) :
      Leads Keyed (do log level message; queue [Key.escape]; endReader) :=
    (log_keyed _ _).bind fun _ => (queue_keyed _).bind fun _ => endReader_keyed
  cases ending with
  | inputClosed => exact ends _ _
  | failed failure => exact .ite (ends _ _) (changeKeyboard_keyed fun _ => rfl)

theorem deliver_keyed (keystrokes : List Keystroke) : Leads Keyed (deliver keystrokes) := by
  refine Leads.look fun rig => ?_
  split
  · refine Leads.bind (queue_keyed (received keystrokes).1) (fun _ => ?_) rig
    split
    · exact .pure ()
    · exact meetEnd_keyed _
  · exact Leads.pure () rig

theorem readKey_keyed : Leads Keyed readKey := by
  refine Leads.look fun rig => ?_
  cases rig.keyboard.keys.read? with
  | none => exact Leads.pure _ rig
  | some taken =>
    have takes : Leads Keyed
        (changeKeyboard fun keyboard => { keyboard with keys := taken.2 }) :=
      changeKeyboard_keyed fun _ => rfl
    exact takes.bind (fun _ => Leads.pure (some taken.1)) rig

theorem passTime_keyed : Leads Keyed passTime := by
  refine Leads.look fun rig => ?_
  split
  · cases rig.batches with
    | nil => exact Leads.ite (deliver_keyed _) (.fail _) rig
    | cons batch rest =>
      have passed : rig.Keyed { rig with batches := rest } := ⟨rfl, ⟨[], by simp, by simp⟩, rfl⟩
      exact IsTrans.trans _ _ _ passed (deliver_keyed batch _)
  · exact Leads.pure () rig

theorem passTime_of_inactive {rig : Rig} (inactive : rig.keyboard.active = false) :
    passTime rig = (.ok (), rig) := by
  unfold passTime
  rw [look_bind, inactive]
  rfl

theorem passTime_sends : Leads Sends passTime := by
  refine fun rig => ⟨.of_keyed (passTime_keyed rig), fun inactive => ?_⟩
  rw [passTime_of_inactive inactive]
  exact ⟨rfl, rfl⟩

end Console

/-! ### Pauses -/

/-- What happens during a sleep, when it has begun. -/
theorem Clock.sleep_passes (duration : Float) (rig : Rig) :
    { rig with events := rig.events.push (.slept duration) }.Sends
      (Clock.sleep duration rig).2 := by
  have others (rig : Rig) : Leads Sends (Echo.deliverAll (rig.plan.arrivals rig.tally.sleep)) :=
    (Echo.deliverAll_aside _).mono fun _ _ => Sends.of_aside
  have passes : Leads Sends (reach .sleep >>= fun _ => look >>= fun rig =>
      Echo.deliverAll (rig.plan.arrivals rig.tally.sleep) >>= fun _ => Console.passTime) :=
    (reach_sends rfl).bind fun _ => Leads.look fun rig =>
      (others rig).bind (fun _ => Console.passTime_sends) rig
  exact passes { rig with events := rig.events.push (.slept duration) }

theorem Clock.sleep_sends (duration : Float) : Leads Sends (Clock.sleep duration) :=
  fun rig => IsTrans.trans _ _ _ (Sends.push rfl rfl rig) (sleep_passes duration rig)

end KeyFeed
