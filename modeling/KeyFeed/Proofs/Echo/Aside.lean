/-
This file says what the echo listener can do to the state behind the back of the sender.
It records events of its own, counts its own calls, may drop the port and may clear the
flag of the session; nothing else changes. A port that it drops is closed at once, and
only there. Whatever arrives, the listener never fails towards the sender, and bytes
that arrive leave the port alone.
-/

import KeyFeed.Link.Connection
import KeyFeed.Proofs.Rig.Activity
import KeyFeed.Proofs.Rig.Observed

namespace KeyFeed

open KeyFeed.Run

/-! ### What may change -/

/-- The port is as it was and was not touched, or it was held, is dropped, and was closed exactly
once on the way. -/
def Rig.PortKept (rig next : Rig) : Prop :=
  (next.port = rig.port ∧
      Event.only Event.isPort next.events = Event.only Event.isPort rig.events) ∨
    (rig.port.isHeld = true ∧ next.port = .none ∧
      Event.only Event.isPort next.events =
        Event.only Event.isPort rig.events ++ [.portClosed])

theorem Rig.PortKept.refl (rig : Rig) : rig.PortKept rig := Or.inl ⟨rfl, rfl⟩

theorem Rig.PortKept.trans {first middle last : Rig} (earlier : first.PortKept middle)
    (later : middle.PortKept last) : first.PortKept last := by
  rcases earlier with ⟨samePort, sameEvents⟩ | ⟨held, dropped, closed⟩
  · rcases later with ⟨kept, quiet⟩ | ⟨held, dropped, closed⟩
    · exact Or.inl ⟨kept.trans samePort, quiet.trans sameEvents⟩
    · exact Or.inr ⟨samePort ▸ held, dropped, by rw [closed, sameEvents]⟩
  · rcases later with ⟨kept, quiet⟩ | ⟨impossible, _⟩
    · exact Or.inr ⟨held, kept.trans dropped, quiet.trans closed⟩
    · rw [dropped] at impossible
      exact absurd impossible (by decide)

/-- What the listener can do. -/
structure Rig.Aside (rig next : Rig) : Prop where
  /-- Everything that is not named here is unchanged. -/
  frame : next =
    { rig with
      tally := next.tally
      events := next.events
      port := next.port
      running := next.running
      listener := next.listener }
  /-- Only the calls that close the port and those that show a text are counted. -/
  tally : ∀ point, point ≠ .close → point ≠ .sink → next.tally.get point = rig.tally.get point
  /-- The events are those of the listener. -/
  events : ∃ added, next.events.toList = rig.events.toList ++ added ∧
    ∀ event ∈ added, event.isAside = true
  /-- The port is kept, or dropped and closed. -/
  port : rig.PortKept next
  /-- The flag of the session is never set. -/
  running : next.running = true → rig.running = true
  /-- No listener begins to read. -/
  listener : next.listener = .listening → rig.listener = .listening

namespace Rig.Aside

variable {rig next : Rig}

theorem refl (rig : Rig) : rig.Aside rig :=
  ⟨rfl, fun _ _ _ => rfl, ⟨[], by simp, by simp⟩, .refl rig, id, id⟩

theorem trans {first middle last : Rig} (earlier : first.Aside middle)
    (later : middle.Aside last) : first.Aside last where
  frame := by
    rw [later.frame, earlier.frame]
  tally point notClose notSink :=
    (later.tally point notClose notSink).trans (earlier.tally point notClose notSink)
  events := by
    obtain ⟨front, grown, front_aside⟩ := earlier.events
    obtain ⟨back, grown_again, back_aside⟩ := later.events
    refine ⟨front ++ back, by rw [grown_again, grown, List.append_assoc], ?_⟩
    intro event member
    rcases List.mem_append.mp member with inFront | inBack
    · exact front_aside event inFront
    · exact back_aside event inBack
  port := earlier.port.trans later.port
  running still := earlier.running (later.running still)
  listener still := earlier.listener (later.listener still)

instance : IsPreorder Rig Rig.Aside where
  refl := refl
  trans _ _ _ := trans

theorem plan (aside : rig.Aside next) : next.plan = rig.plan := by rw [aside.frame]

theorem keyboard (aside : rig.Aside next) : next.keyboard = rig.keyboard := by rw [aside.frame]

theorem running_eq_false (aside : rig.Aside next) (ending : rig.running = false) :
    next.running = false := by
  cases still : next.running with
  | false => rfl
  | true =>
    rw [aside.running still] at ending
    cases ending

theorem only_of_foreign {sort : Event → Bool} (aside : rig.Aside next)
    (foreign : ∀ event, event.isAside = true → sort event = false) :
    Event.only sort next.events = Event.only sort rig.events := by
  obtain ⟨added, grown, own⟩ := aside.events
  exact Event.only_of_foreign grown fun event member => foreign event (own event member)

/-- The port is forgotten and closed. -/
theorem drop (held : rig.port.isHeld = true) :
    rig.Aside { rig with port := .none, events := rig.events.push .portClosed } where
  frame := rfl
  tally _ _ _ := rfl
  events := ⟨[.portClosed], by simp, by simp [Event.isAside]⟩
  port := Or.inr ⟨held, rfl, Event.only_push_of_sort rfl rig.events⟩
  running := id
  listener := id

/-- The listener's own calls are counted. -/
theorem count {point : Point} (own : point = .close ∨ point = .sink) (rig : Rig) :
    rig.Aside { rig with tally := rig.tally.bump point } where
  frame := rfl
  tally other notClose notSink := by
    refine Tally.get_bump_of_ne rig.tally ?_
    rcases own with rfl | rfl
    · exact notClose
    · exact notSink
  events := ⟨[], by simp, by simp⟩
  port := Or.inl ⟨rfl, rfl⟩
  running := id
  listener := id

end Rig.Aside

/-- What the listener can do as long as it leaves the port alone. -/
structure Rig.Quiet (rig next : Rig) : Prop extends rig.Aside next where
  /-- The port is the same. -/
  samePort : next.port = rig.port
  /-- The port is not called to close. -/
  unclosed : next.tally.close = rig.tally.close

namespace Rig.Quiet

variable {rig next : Rig}

instance : IsPreorder Rig Rig.Quiet where
  refl rig := ⟨.refl rig, rfl, rfl⟩
  trans _ _ _ earlier later :=
    ⟨earlier.toAside.trans later.toAside, later.samePort.trans earlier.samePort,
      later.unclosed.trans earlier.unclosed⟩

/-- An event of the listener other than the closing of the port. -/
theorem push {event : Event} (own : event.isAside = true) (notPort : event.isPort = false)
    (rig : Rig) : rig.Quiet { rig with events := rig.events.push event } where
  frame := rfl
  tally _ _ _ := rfl
  events := ⟨[event], by simp, by simpa using own⟩
  port := Or.inl ⟨rfl, Event.only_push_of_not_sort notPort rig.events⟩
  running := id
  listener := id
  samePort := rfl
  unclosed := rfl

/-- A call that shows a text is counted. -/
theorem count (rig : Rig) : rig.Quiet { rig with tally := rig.tally.bump .sink } :=
  ⟨.count (Or.inr rfl) rig, rfl, rfl⟩

/-- The flag of the session is cleared. -/
theorem clear (rig : Rig) : rig.Quiet { rig with running := false } where
  frame := rfl
  tally _ _ _ := rfl
  events := ⟨[], by simp, by simp⟩
  port := Or.inl ⟨rfl, rfl⟩
  running impossible := absurd impossible Bool.false_ne_true
  listener := id
  samePort := rfl
  unclosed := rfl

/-- The listener ends. -/
theorem finish (fault : Option LinkFault) (rig : Rig) :
    rig.Quiet { rig with listener := .ended fault } where
  frame := rfl
  tally _ _ _ := rfl
  events := ⟨[], by simp, by simp⟩
  port := Or.inl ⟨rfl, rfl⟩
  running := id
  listener impossible := by cases impossible
  samePort := rfl
  unclosed := rfl

end Rig.Quiet

open Rig (Aside Quiet)

/-! ### Parts that leave the port alone -/

theorem log_quiet (level : Level) (message : String) : Leads Quiet (log level message) :=
  fun rig => Quiet.push rfl rfl rig

theorem log_aside (level : Level) (message : String) : Leads Aside (log level message) :=
  (log_quiet level message).mono fun _ _ => Quiet.toAside

namespace Echo

theorem display_quiet (text : List Char) : Leads Quiet (display text) := by
  refine Leads.look fun rig => ?_
  cases rig.sink with
  | observer =>
    have echoed : Leads Quiet (record (.echoed text)) := fun rig => Quiet.push rfl rfl rig
    have counted : Leads Quiet (reach .sink) := by
      intro rig
      rw [reach_snd]
      exact Quiet.count rig
    exact echoed.bind (fun _ => counted) rig
  | output =>
    have printed : Leads Quiet (record (.printed (String.ofList text))) :=
      fun rig => Quiet.push rfl rfl rig
    exact printed rig

theorem finish_quiet : Leads Quiet finish :=
  (log_quiet _ _).bind fun _ rig => Quiet.finish none rig

theorem giveUp_quiet (fault : LinkFault) : Leads Quiet (giveUp fault) := by
  have cleared : Leads Quiet (change fun rig => { rig with running := false }) := Quiet.clear
  have ended : Leads Quiet (change fun rig => { rig with listener := .ended (some fault) }) :=
    Quiet.finish (some fault)
  exact (log_quiet _ _).bind fun _ => cleared.bind fun _ => (log_quiet _ _).bind fun _ => ended

theorem readOn_quiet : Leads Quiet readOn := by
  refine Leads.look fun rig => ?_
  split
  · split
    · exact Leads.pure () rig
    · exact giveUp_quiet _ rig
  · exact finish_quiet rig

/-- Once a read is taken, the listener leaves the port alone up to its next read. -/
theorem advance_quiet (arrival : Arrival) (rig : Rig) :
    (take arrival rig).2.Quiet (advance arrival rig).2 := by
  have leads (activity : Run Unit) (quiet : Leads Quiet activity) :
      (take arrival rig).2.Quiet (activity (take arrival rig).2).2 := quiet _
  unfold advance
  rw [attempt_bind]
  refine leads _ ?_
  split
  · exact readOn_quiet
  · exact giveUp_quiet _
  · split
    · have backOff : Leads Quiet (record (.backedOff pause) >>= fun _ => readOn) :=
        Leads.bind (fun rig => Quiet.push rfl rfl rig) fun _ => readOn_quiet
      refine Leads.look fun rig => ?_
      split
      · exact (log_quiet _ _).bind (fun _ => backOff) rig
      · exact backOff rig
    · exact Quiet.finish none

/-! ### Readings -/

section Readings

variable {relation : Rig → Rig → Prop} [IsPreorder Rig relation]

theorem take_leads (quiet : ∀ rig next, rig.Quiet next → relation rig next) {arrival : Arrival}
    (received : Leads relation (Link.receive arrival)) : Leads relation (take arrival) :=
  received.bind fun _ => .ite (.pure ()) ((display_quiet _).mono quiet)

/-- What holds of everything that leaves the port alone, and of receiving an arrival, holds of the
whole way of the listener to its next read. -/
theorem advance_leads (quiet : ∀ rig next, rig.Quiet next → relation rig next) {arrival : Arrival}
    (received : Leads relation (Link.receive arrival)) : Leads relation (advance arrival) :=
  fun rig => IsTrans.trans _ _ _ (take_leads quiet received rig) (quiet _ _ (advance_quiet _ rig))

theorem deliver_leads (quiet : ∀ rig next, rig.Quiet next → relation rig next) {arrival : Arrival}
    (received : Leads relation (Link.receive arrival)) : Leads relation (deliver arrival) := by
  refine Leads.look fun rig => ?_
  split
  · exact advance_leads quiet received rig
  · exact Leads.pure () rig

theorem deliverAll_leads (quiet : ∀ rig next, rig.Quiet next → relation rig next)
    {arrivals : List Arrival}
    (received : ∀ arrival ∈ arrivals, Leads relation (Link.receive arrival)) :
    Leads relation (deliverAll arrivals) := by
  induction arrivals with
  | nil => exact .pure ()
  | cons arrival rest inductionHypothesis =>
    refine (deliver_leads quiet (received arrival List.mem_cons_self)).bind fun _ => ?_
    exact inductionHypothesis fun other member => received other (List.mem_cons_of_mem _ member)

end Readings

/-- Bytes that arrive leave the port alone. -/
theorem deliverAll_quiet {arrivals : List Arrival}
    (bytes : ∀ arrival ∈ arrivals, ∃ bytes, arrival = .bytes bytes) :
    Leads Quiet (deliverAll arrivals) := by
  refine deliverAll_leads (fun _ _ => id) fun arrival member => ?_
  obtain ⟨bytes, rfl⟩ := bytes arrival member
  exact Leads.pure bytes

end Echo

/-! ### Parts that may drop the port -/

namespace Link

theorem shutPort_apply (rig : Rig) :
    shutPort rig = reach .close { rig with events := rig.events.push .portClosed } := rfl

/-- A port is forgotten before it is closed, so whatever closing it brings finds no port. -/
theorem dropPort_aside {closing : Run Unit}
    (closes : ∀ rig, rig.port = .none →
      Aside { rig with events := rig.events.push .portClosed } (closing rig).2) :
    Leads Aside (dropPort closing) := by
  refine Leads.look fun rig => ?_
  split
  · rename_i held
    refine Aside.trans (Aside.drop held) (Aside.trans (closes { rig with port := .none } rfl) ?_)
    simp only [change_bind, attempt_bind]
    cases (closing { rig with port := .none }).1 with
    | ok result => exact log_aside _ _ _
    | error failure =>
      dsimp only
      split
      · exact (log_aside _ _).bind (fun _ => log_aside _ _) _
      · exact Aside.refl _
  · exact log_aside _ _ rig

theorem shutPort_closes (rig : Rig) :
    Aside { rig with events := rig.events.push .portClosed } (shutPort rig).2 := by
  rw [shutPort_apply, reach_snd]
  exact Aside.count (Or.inl rfl) _

theorem receive_aside (arrival : Arrival) : Leads Aside (receive arrival) := by
  unfold receive
  cases arrival with
  | bytes bytes => exact .pure bytes
  | failure failure =>
    dsimp only
    split
    · refine (log_aside _ _).bind fun _ => Leads.bind ?_ fun _ => .fail _
      exact dropPort_aside fun rig _ => shutPort_closes rig
    · exact .fail failure

end Link

namespace Echo

theorem take_aside (arrival : Arrival) : Leads Aside (take arrival) :=
  take_leads (fun _ _ => Quiet.toAside) (Link.receive_aside arrival)

theorem advance_aside (arrival : Arrival) : Leads Aside (advance arrival) :=
  advance_leads (fun _ _ => Quiet.toAside) (Link.receive_aside arrival)

theorem deliver_aside (arrival : Arrival) : Leads Aside (deliver arrival) :=
  deliver_leads (fun _ _ => Quiet.toAside) (Link.receive_aside arrival)

theorem deliverAll_aside (arrivals : List Arrival) : Leads Aside (deliverAll arrivals) :=
  deliverAll_leads (fun _ _ => Quiet.toAside) fun arrival _ => Link.receive_aside arrival

/-! ### The sender never notices -/

theorem giveUp_neverFails (fault : LinkFault) : NeverFails (giveUp fault) := fun _ => rfl

theorem readOn_neverFails : NeverFails readOn := by
  refine NeverFails.look fun rig => ?_
  split
  · split
    · exact fun _ => rfl
    · exact giveUp_neverFails _
  · exact fun _ => rfl

theorem advance_neverFails (arrival : Arrival) : NeverFails (advance arrival) := by
  refine NeverFails.attempt fun outcome => ?_
  split
  · exact readOn_neverFails
  · exact giveUp_neverFails _
  · split
    · refine NeverFails.look fun rig => ?_
      have backOff : NeverFails (record (.backedOff pause) >>= fun _ => readOn) :=
        NeverFails.bind (fun _ => rfl) readOn_neverFails
      split
      · exact NeverFails.bind (fun _ => rfl) backOff
      · exact backOff
    · exact fun _ => rfl

theorem deliver_neverFails (arrival : Arrival) : NeverFails (deliver arrival) := by
  refine NeverFails.look fun rig => ?_
  split
  · exact advance_neverFails arrival
  · exact fun _ => rfl

theorem deliverAll_neverFails (arrivals : List Arrival) : NeverFails (deliverAll arrivals) := by
  induction arrivals with
  | nil => exact fun _ => rfl
  | cons arrival rest inductionHypothesis =>
    exact NeverFails.bind (deliver_neverFails arrival) inductionHypothesis

end Echo

/-! ### Without a listener -/

namespace Echo

/-- Without a listener an arrival is lost. -/
theorem deliver_of_deaf {rig : Rig} (deaf : rig.listener ≠ .listening) (arrival : Arrival) :
    deliver arrival rig = (.ok (), rig) := by
  unfold deliver
  rw [look_bind, if_neg deaf]
  rfl

theorem deliverAll_of_deaf {rig : Rig} (deaf : rig.listener ≠ .listening)
    (arrivals : List Arrival) : deliverAll arrivals rig = (.ok (), rig) := by
  induction arrivals with
  | nil => rfl
  | cons arrival rest inductionHypothesis =>
    rw [deliverAll, bind_of_ok (deliver_of_deaf deaf arrival), inductionHypothesis]

end Echo

/-! ### The port is closed while the listener reads it -/

namespace Link

theorem closePort_closes (rig : Rig) :
    Aside { rig with events := rig.events.push .portClosed } (closePort rig).2 := by
  have shut := shutPort_closes rig
  unfold closePort
  rcases outcome : shutPort rig with ⟨failure | result, next⟩
  · rw [bind_of_error outcome]
    rwa [outcome] at shut
  · rw [bind_of_ok outcome]
    rw [outcome] at shut
    exact shut.trans (Echo.deliver_aside _ next)

theorem dropPort_closePort_aside : Leads Aside (dropPort closePort) :=
  dropPort_aside fun rig _ => closePort_closes rig

/-- Without a listener only the port is called. -/
theorem closePort_of_deaf {rig : Rig} (deaf : rig.listener ≠ .listening) :
    closePort rig = shutPort rig := by
  unfold closePort
  have unchanged : (shutPort rig).2.listener = rig.listener := by
    rw [shutPort_apply, reach_snd]
  rcases outcome : shutPort rig with ⟨failure | result, next⟩
  · exact bind_of_error outcome _
  · rw [outcome] at unchanged
    rw [bind_of_ok outcome]
    exact Echo.deliver_of_deaf (by rwa [unchanged]) _

end Link

end KeyFeed
