/-
This file takes the loop of the listener apart into its steps, between which anybody else may do
something: the flag of the session is looked at, the link is asked for its port, a read gives
bytes or fails, a text is shown, and a failure is dealt with.

What the loop is done with is a list of reads. From that list alone it can be computed what was
shown, what failures have reached the loop and how often it has paused, so the invariant of the
steps says that the rig agrees with the list.
-/

import KeyFeed.Charset.Encode
import KeyFeed.Proofs.Echo.Tending
import Mathlib.Logic.Relation

namespace KeyFeed

open KeyFeed.Run

open Relation (ReflTransGen)

/-! ### Shown texts -/

/-- The event that a shown text leaves. -/
def Sink.note : Sink → List Char → Event
  | observer, text => .echoed text
  | output, text => .printed (String.ofList text)

/-- The event is one that a shown text leaves. -/
def Sink.isNote : Sink → Event → Bool
  | observer, .echoed _ => true
  | output, .printed _ => true
  | _, _ => false

theorem Sink.isNote_note (sink : Sink) (text : List Char) :
    sink.isNote (sink.note text) = true := by
  cases sink <;> rfl

/-- The listener pauses. -/
def Event.isBackOff : Event → Bool
  | backedOff _ => true
  | _ => false

/-- Each byte is read back from the character that stands for it. -/
theorem Charset.latin1_encode_textOf (bytes : List UInt8) :
    Charset.latin1.encode (Echo.textOf bytes) = bytes := by
  have single (byte : UInt8) : Charset.latin1.encodeChar (Char.ofNat byte.toNat) = [byte] := by
    have small : byte.toNat < 0x100 := byte.toNat_lt
    have valid : byte.toNat.isValidChar := Or.inl (by omega)
    have code : (Char.ofNat byte.toNat).toNat = byte.toNat := by
      rw [Char.ofNat, dif_pos valid]
      rfl
    unfold Charset.encodeChar
    dsimp only
    rw [code, if_pos small]
    simp [Charset.single]
  induction bytes with
  | nil => rfl
  | cons byte rest inductionHypothesis =>
    show Charset.latin1.encodeChar _ ++ Charset.latin1.encode (Echo.textOf rest) = byte :: rest
    rw [single, inductionHypothesis]
    rfl

/-! ### What does not concern the loop -/

/-- Nothing is shown, nobody pauses in the loop, and its surroundings are the same. -/
structure Rig.Mute (rig next : Rig) : Prop where
  plan : next.plan = rig.plan
  settings : next.settings = rig.settings
  sink : next.sink = rig.sink
  calls : next.tally.sink = rig.tally.sink
  shown : Event.only rig.sink.isNote next.events = Event.only rig.sink.isNote rig.events
  paused : Event.only Event.isBackOff next.events = Event.only Event.isBackOff rig.events

/-- What others than the listener can do: whatever they like, but they show nothing where the
listener does, leave it alone, and never set the flag of the session again. -/
structure Rig.Apart (rig next : Rig) : Prop extends rig.Mute next where
  running : next.running = true → rig.running = true
  listener : next.listener = rig.listener

namespace Rig

variable {rig next : Rig}

theorem Mute.trans {first middle last : Rig} (earlier : first.Mute middle)
    (later : middle.Mute last) : first.Mute last where
  plan := later.plan.trans earlier.plan
  settings := later.settings.trans earlier.settings
  sink := later.sink.trans earlier.sink
  calls := later.calls.trans earlier.calls
  shown := by
    have shown := later.shown
    rw [earlier.sink] at shown
    exact shown.trans earlier.shown
  paused := later.paused.trans earlier.paused

instance : IsPreorder Rig Rig.Mute where
  refl _ := ⟨rfl, rfl, rfl, rfl, rfl, rfl⟩
  trans _ _ _ := Mute.trans

instance : IsPreorder Rig Rig.Apart where
  refl rig := ⟨Std.Refl.refl rig, id, rfl⟩
  trans _ _ _ earlier later :=
    ⟨earlier.toMute.trans later.toMute, fun still => earlier.running (later.running still),
      later.listener.trans earlier.listener⟩

/-- An event that no shown text leaves. -/
theorem Apart.push {event : Event} (silent : ∀ sink : Sink, sink.isNote event = false)
    (busy : event.isBackOff = false) (rig : Rig) :
    rig.Apart { rig with events := rig.events.push event } where
  plan := rfl
  settings := rfl
  sink := rfl
  calls := rfl
  shown := Event.only_push_of_not_sort (silent rig.sink) rig.events
  paused := Event.only_push_of_not_sort busy rig.events
  running := id
  listener := rfl

theorem Apart.log (level : Level) (message : String) :
    Leads Rig.Apart (Run.log level message) :=
  fun rig => .push (fun sink => by cases sink <;> rfl) rfl rig

end Rig

/-- A read leaves the loop as it is, whatever it costs the link. -/
theorem Link.receive_apart (arrival : Arrival) : Leads Rig.Apart (receive arrival) := by
  have asked : Leads Rig.Apart (record .portClosed) :=
    fun rig => .push (fun sink => by cases sink <;> rfl) rfl rig
  have counted : Leads Rig.Apart (reach .close) := by
    intro rig
    rw [reach_snd]
    exact ⟨⟨rfl, rfl, rfl, rfl, rfl, rfl⟩, id, rfl⟩
  refine receive_leads Rig.Apart.log (fun rig => ?_) (asked.bind fun _ => counted) arrival
  exact ⟨⟨rfl, rfl, rfl, rfl, rfl, rfl⟩, id, rfl⟩

/-- A read that fails brings a failure. -/
theorem Link.receive_error (failure : Failure) (rig : Rig) :
    ∃ cause, (receive (.failure failure) rig).1 = .error cause := by
  cases transport : failure.isTransport with
  | true =>
    have fault : (Arrival.failure failure).isFault = true := transport
    exact (receive_port fault rig).imp fun _ => And.left
  | false => exact ⟨failure, congrArg Prod.fst (receive_of_other transport rig)⟩

namespace Echo

theorem finish_mute : Leads Rig.Mute finish := by
  have logs : Leads Rig.Mute (log .debug "Echo drainer exiting") :=
    (Rig.Apart.log _ _).mono fun _ _ => Rig.Apart.toMute
  exact logs.bind fun _ rig => ⟨rfl, rfl, rfl, rfl, rfl, rfl⟩

theorem giveUp_mute (fault : LinkFault) : Leads Rig.Mute (giveUp fault) := by
  have logs (level : Level) (message : String) : Leads Rig.Mute (log level message) :=
    (Rig.Apart.log level message).mono fun _ _ => Rig.Apart.toMute
  have clears : Leads Rig.Mute (change fun rig => { rig with running := false }) :=
    fun _ => ⟨rfl, rfl, rfl, rfl, rfl, rfl⟩
  refine (logs _ _).bind fun _ => clears.bind fun _ => (logs _ _).bind fun _ => ?_
  exact fun _ => ⟨rfl, rfl, rfl, rfl, rfl, rfl⟩

/-! ### Reads and what they bring -/

/-- The bytes of the reads that gave some. -/
def given (reads : List Arrival) : List (List UInt8) :=
  reads.filterMap fun
    | .bytes bytes => if bytes.isEmpty then none else some bytes
    | .failure _ => none

/-- The bytes of all reads, one after the other. -/
def bytesOf (reads : List Arrival) : List UInt8 :=
  reads.flatMap fun
    | .bytes bytes => bytes
    | .failure _ => []

theorem given_flatten (reads : List Arrival) : (given reads).flatten = bytesOf reads := by
  induction reads with
  | nil => rfl
  | cons read rest inductionHypothesis =>
    rw [bytesOf, List.flatMap_cons, ← bytesOf, ← inductionHypothesis]
    cases read with
    | failure failure => rfl
    | bytes bytes => cases bytes <;> rfl

/-- The texts of all reads have the bytes of all reads in Latin 1. -/
theorem latin1_encode_texts (reads : List Arrival) :
    Charset.latin1.encode ((given reads).map textOf).flatten = bytesOf reads := by
  have joined : ((given reads).map textOf).flatten = textOf (given reads).flatten :=
    List.map_flatten.symm
  rw [joined, Charset.latin1_encode_textOf, given_flatten]

/-- What is met when a text is shown after so many others. -/
def sinkFault? (rig : Rig) (calls : Nat) : Option Failure :=
  match rig.sink with
  | .observer => rig.plan.fault? .sink (rig.tally.sink + calls + 1)
  | .output => none

/-- The failure that comes of a read that fails. -/
def readFailure (failure : Failure) : Failure :=
  if failure.isTransport then .link (.reading failure.message) else failure

/-- The failures that a read brings to the loop, or showing its text after so many others. -/
def brings (first : Rig) (calls : Nat) : Arrival → List Failure
  | .bytes bytes => if bytes.isEmpty then [] else (sinkFault? first calls).toList
  | .failure failure => [readFailure failure]

/-- The failures that reads bring to the loop. -/
def troubles (first : Rig) : (calls : Nat) → List Arrival → List Failure
  | _, [] => []
  | calls, read :: rest =>
    brings first calls read ++ troubles first (calls + (given [read]).length) rest

theorem given_singleton {bytes : List UInt8} (nonempty : bytes.isEmpty = false) :
    given [.bytes bytes] = [bytes] := by
  cases bytes with
  | nil => cases nonempty
  | cons byte rest => rfl

theorem given_append (reads more : List Arrival) :
    given (reads ++ more) = given reads ++ given more :=
  List.filterMap_append

theorem troubles_append (first : Rig) (calls : Nat) (reads : List Arrival) (read : Arrival) :
    troubles first calls (reads ++ [read]) =
      troubles first calls reads ++ brings first (calls + (given reads).length) read := by
  induction reads generalizing calls with
  | nil => exact List.append_nil _
  | cons earlier rest inductionHypothesis =>
    have counted : (given (earlier :: rest)).length =
        (given [earlier]).length + (given rest).length := by
      rw [← List.length_append, ← given_append]
      rfl
    rw [List.cons_append, troubles, inductionHypothesis, troubles, counted, List.append_assoc,
      Nat.add_assoc]

end Echo

/-- The failure is a fault of the link. -/
def Failure.isLink : Failure → Bool
  | link _ => true
  | _ => false

/-- The pauses that are due to a failure. -/
def Failure.due (failure : Failure) : Nat := if failure.isLink then 0 else 1

namespace Echo

/-- None of the failures is a fault of the link. -/
def Harmless (failures : List Failure) : Prop := ∀ failure ∈ failures, failure.isLink = false

/-- The fault is the last of the failures and the first fault of the link among them; or there is
none among them, and the link was found to have no port. -/
def Blames (port : String) (failures : List Failure) (fault : LinkFault) : Prop :=
  (∃ earlier, failures = earlier ++ [.link fault] ∧ Harmless earlier) ∨
    Harmless failures ∧ fault = .notOpen port

/-! ### The loop -/

/-- Where the loop of the listener stands. -/
inductive Stand where
  /-- The flag of the session is looked at next. -/
  | looking
  /-- The session goes on, and the link is asked for its port next. -/
  | turning
  /-- The port is read. -/
  | reading
  /-- Bytes were read, and their text is shown next. -/
  | showing (bytes : List UInt8)
  /-- A failure has reached the loop, which deals with it next. -/
  | failing (failure : Failure)
  /-- The loop is left. -/
  | ended
  deriving Repr, DecidableEq

namespace Stand

/-- Where the loop stands after an attempt: a failure reaches the loop. -/
def after (well : Stand) : Except Failure Unit → Stand
  | .ok () => well
  | .error failure => failing failure

/-- The read whose text is to be shown. -/
@[simp]
def held : Stand → List Arrival
  | showing bytes => [.bytes bytes]
  | _ => []

theorem held_after {well : Stand} (unheld : well.held = []) (outcome : Except Failure Unit) :
    (well.after outcome).held = [] := by
  cases outcome with
  | ok result => exact unheld
  | error failure => rfl

/-- The pauses that are still to be made. -/
def due : Stand → Nat
  | failing failure => failure.due
  | _ => 0

/-- The flag was looked at, and the read that follows has not ended. -/
@[simp]
def isUnderWay : Stand → Bool
  | turning => true
  | reading => true
  | _ => false

end Stand

/-- A listener in its surroundings. -/
structure Scene where
  rig : Rig
  stand : Stand := .looking
  /-- The reads that the loop is done with. -/
  done : List Arrival := []

/-- The listener pauses after a failure. -/
def backOff (failure : Failure) : Run Unit := do
  let rig ← look
  if rig.running then log .error s!"Echo drainer error: {failure.message}"
  record (.backedOff pause)

namespace Scene

/-- All reads so far. -/
def reads (scene : Scene) : List Arrival := scene.done ++ scene.stand.held

/-- The scene after a step of the loop, in which a read gives the arrival. -/
def stepped (scene : Scene) (arrival : Arrival) : Scene :=
  match scene with
  | ⟨rig, .looking, done⟩ =>
    if rig.running then ⟨rig, .turning, done⟩ else ⟨(finish rig).2, .ended, done⟩
  | ⟨rig, .turning, done⟩ =>
    ⟨(Link.requirePort rig).2, Stand.reading.after (Link.requirePort rig).1, done⟩
  | ⟨rig, .reading, done⟩ =>
    match Link.receive arrival rig with
    | (.ok bytes, next) =>
      if bytes.isEmpty then ⟨next, .looking, done ++ [arrival]⟩ else ⟨next, .showing bytes, done⟩
    | (.error failure, next) => ⟨next, .failing failure, done ++ [arrival]⟩
  | ⟨rig, .showing bytes, done⟩ =>
    ⟨(display (textOf bytes) rig).2, Stand.looking.after (display (textOf bytes) rig).1,
      done ++ [.bytes bytes]⟩
  | ⟨rig, .failing (.link fault), done⟩ => ⟨(giveUp fault rig).2, .ended, done⟩
  | ⟨rig, .failing failure, done⟩ =>
    if failure.isOrdinary then ⟨(backOff failure rig).2, .looking, done⟩
    else ⟨{ rig with listener := .ended none }, .ended, done⟩
  | ⟨rig, .ended, done⟩ => ⟨rig, .ended, done⟩

/-- The loop takes a step, in which no read is interrupted, or others do something. -/
inductive Moves (scene : Scene) : Scene → Prop
  | step {arrival : Arrival} (undisturbed : arrival.isInterruption = false) :
    Moves scene (scene.stepped arrival)
  | apart {rig : Rig} (apart : scene.rig.Apart rig) : Moves scene { scene with rig }

end Scene

/-! ### What the rig tells of the reads -/

/-- How often the listener has paused. -/
def pauses (rig : Rig) : Nat := (Event.only Event.isBackOff rig.events).length

/-- The rig agrees with the reads that the loop is done with: what they gave was shown, and each
failure that they brought cost a pause, except those that are still due. -/
structure Tells (first : Rig) (done : List Arrival) (due : Nat) (rig : Rig) : Prop where
  plan : rig.plan = first.plan
  settings : rig.settings = first.settings
  sink : rig.sink = first.sink
  calls : first.sink = .observer → rig.tally.sink = first.tally.sink + (given done).length
  shown : Event.only first.sink.isNote rig.events =
    Event.only first.sink.isNote first.events ++
      (given done).map fun bytes => first.sink.note (textOf bytes)
  paused : pauses rig + due =
    pauses first + (troubles first 0 done).countP fun failure => !failure.isLink

namespace Tells

variable {first rig next : Rig} {done : List Arrival} {due : Nat}

theorem begun (rig : Rig) : Tells rig [] 0 rig :=
  ⟨rfl, rfl, rfl, fun _ => rfl, (List.append_nil _).symm, rfl⟩

theorem mute (tells : Tells first done due rig) (mute : rig.Mute next) :
    Tells first done due next where
  plan := mute.plan.trans tells.plan
  settings := mute.settings.trans tells.settings
  sink := mute.sink.trans tells.sink
  calls observed := mute.calls.trans (tells.calls observed)
  shown := by
    have shown := mute.shown
    rw [tells.sink] at shown
    exact shown.trans tells.shown
  paused := by
    rw [pauses, mute.paused]
    exact tells.paused

theorem timeout (tells : Tells first done due rig) : Tells first (done ++ [.bytes []]) due rig := by
  have same : given (done ++ [.bytes []]) = given done := by
    rw [given_append]
    exact List.append_nil _
  have quiet : troubles first 0 (done ++ [.bytes []]) = troubles first 0 done := by
    rw [troubles_append]
    exact List.append_nil _
  exact ⟨tells.plan, tells.settings, tells.sink, same ▸ tells.calls, same ▸ tells.shown,
    quiet ▸ tells.paused⟩

/-- One more failure is due for a pause, unless it is a fault of the link. -/
theorem countP_append (failures : List Failure) (failure : Failure) :
    (failures ++ [failure]).countP (fun failure => !failure.isLink) =
      failures.countP (fun failure => !failure.isLink) + failure.due := by
  rw [List.countP_append, List.countP_singleton, Failure.due]
  cases failure.isLink <;> rfl

theorem failed (tells : Tells first done 0 rig) (failure : Failure) :
    Tells first (done ++ [.failure failure]) (readFailure failure).due rig := by
  have same : given (done ++ [.failure failure]) = given done := by
    rw [given_append]
    exact List.append_nil _
  refine ⟨tells.plan, tells.settings, tells.sink, same ▸ tells.calls, same ▸ tells.shown, ?_⟩
  have paused : pauses rig = _ := tells.paused
  rw [troubles_append, brings, countP_append, ← Nat.add_assoc, ← paused]

/-- The listener makes the pause that is due. -/
theorem backOff {failure : Failure} (tells : Tells first done failure.due rig)
    (other : failure.isLink = false) : Tells first done 0 (backOff failure rig).2 := by
  have due : failure.due = 1 := by rw [Failure.due, other]; rfl
  have makes (rig : Rig) (tells : Tells first done 1 rig) :
      Tells first done 0 { rig with events := rig.events.push (.backedOff pause) } := by
    refine ⟨tells.plan, tells.settings, tells.sink, tells.calls, ?_, ?_⟩
    · refine (Event.only_push_of_not_sort ?_ rig.events).trans tells.shown
      cases first.sink <;> rfl
    · rw [pauses, Event.only_push_of_sort rfl, List.length_append]
      exact tells.paused
  rw [due] at tells
  unfold Echo.backOff
  rw [look_bind]
  split
  · exact makes _ (tells.mute (Rig.Apart.log _ _ rig).toMute)
  · exact makes rig tells

end Tells

/-! ### Showing a text -/

/-- The state after a text was shown. -/
def displayed (text : List Char) (rig : Rig) : Rig :=
  { rig with
    events := rig.events.push (rig.sink.note text)
    tally := if rig.sink = .observer then rig.tally.bump .sink else rig.tally }

theorem display_apply (text : List Char) (rig : Rig) :
    display text rig =
      (match sinkFault? rig 0 with
        | none => .ok ()
        | some failure => .error failure, displayed text rig) := by
  unfold display sinkFault? displayed
  rw [look_bind]
  cases shown : rig.sink with
  | output =>
    dsimp only
    rw [record_apply, if_neg (by decide), shown]
    rfl
  | observer =>
    dsimp only
    rw [record_bind, if_pos rfl]
    refine Prod.ext (reach_fst .sink _) ?_
    rw [reach_snd, shown]
    rfl

theorem Tells.sinkFault? {first rig : Rig} {done : List Arrival} {due : Nat}
    (tells : Tells first done due rig) :
    sinkFault? rig 0 = Echo.sinkFault? first (given done).length := by
  unfold Echo.sinkFault?
  rw [tells.sink]
  cases observed : first.sink with
  | output => rfl
  | observer =>
    dsimp only
    rw [tells.plan, tells.calls observed]

/-- A text is shown in its place, and brings the failure that was planned for it. -/
theorem Tells.displayed {first rig : Rig} {done : List Arrival} (tells : Tells first done 0 rig)
    {bytes : List UInt8} (nonempty : bytes.isEmpty = false) :
    Tells first (done ++ [.bytes bytes])
      (match Echo.sinkFault? first (given done).length with
        | none => 0
        | some failure => failure.due) (displayed (textOf bytes) rig) := by
  have more : given (done ++ [.bytes bytes]) = given done ++ [bytes] := by
    rw [given_append, given_singleton nonempty]
  have brought : troubles first 0 (done ++ [.bytes bytes]) =
      troubles first 0 done ++ (Echo.sinkFault? first (given done).length).toList := by
    rw [troubles_append, brings, nonempty, Nat.zero_add]
    rfl
  refine ⟨tells.plan, tells.settings, tells.sink, fun observed => ?_, ?_, ?_⟩
  · have counted := tells.calls observed
    have sink : rig.sink = .observer := tells.sink.trans observed
    have bumped : (Echo.displayed (textOf bytes) rig).tally.sink = rig.tally.sink + 1 :=
      congrArg Tally.sink (if_pos sink)
    rw [bumped, counted, more, List.length_append]
    rfl
  · unfold Echo.displayed
    rw [tells.sink, Event.only_push_of_sort (Sink.isNote_note _ _), tells.shown, more,
      List.map_append, List.append_assoc]
    rfl
  · have foreign : (rig.sink.note (textOf bytes)).isBackOff = false := by
      cases rig.sink <;> rfl
    have same : pauses (Echo.displayed (textOf bytes) rig) = pauses rig :=
      congrArg List.length (Event.only_push_of_not_sort foreign rig.events)
    have paused : pauses rig = _ := tells.paused
    rw [brought, same]
    cases Echo.sinkFault? first (given done).length with
    | none =>
      rw [Option.toList_none, List.append_nil]
      exact tells.paused
    | some failure =>
      rw [Option.toList_some, countP_append, ← Nat.add_assoc, ← paused]

/-! ### Steps -/

theorem Harmless.append {failures : List Failure} {failure : Failure} (harmless : Harmless failures)
    (other : failure.isLink = false) : Harmless (failures ++ [failure]) :=
  List.forall_mem_append.mpr ⟨harmless, List.forall_mem_singleton.mpr other⟩

namespace Scene

/-- What holds where the loop stands, of the failures that the reads have brought so far. -/
def Stands (first : Rig) (scene : Scene) : Prop :=
  match scene.stand with
  | .showing bytes =>
    scene.rig.listener = .listening ∧ Harmless (troubles first 0 scene.done) ∧ bytes.isEmpty = false
  | .failing failure =>
    scene.rig.listener = .listening ∧ failure.isOrdinary = true ∧
      (failure.isLink = false → Harmless (troubles first 0 scene.done)) ∧
      ∀ fault, failure = .link fault →
        Blames first.settings.port (troubles first 0 scene.done) fault
  | .ended =>
    scene.rig.running = false ∧
      ∃ fault?, scene.rig.listener = .ended fault? ∧
        (fault? = none → Harmless (troubles first 0 scene.done)) ∧
        ∀ fault, fault? = some fault →
          Blames first.settings.port (troubles first 0 scene.done) fault
  | _ => scene.rig.listener = .listening ∧ Harmless (troubles first 0 scene.done)

/-- What holds in every scene that is reached from a first rig. -/
structure Sound (first : Rig) (scene : Scene) : Prop where
  tells : Tells first scene.done scene.stand.due scene.rig
  stands : scene.Stands first

variable {first : Rig}

/-- A failure that a read or a shown text brings reaches the loop as the last one. -/
theorem Sound.of_brought {rig : Rig} {done : List Arrival} {earlier : List Failure}
    {failure : Failure} (tells : Tells first done failure.due rig)
    (listening : rig.listener = .listening) (ordinary : failure.isOrdinary = true)
    (brought : troubles first 0 done = earlier ++ [failure]) (harmless : Harmless earlier) :
    Sound first ⟨rig, .failing failure, done⟩ := by
  refine ⟨tells, listening, ordinary, fun other => ?_, ?_⟩
  · change Harmless (troubles first 0 done)
    rw [brought]
    exact harmless.append other
  · rintro fault rfl
    exact Or.inl ⟨earlier, brought, harmless⟩

/-- The plan holds nothing for the listener but what it is prepared for: a port that is closed fails
at the transport, and the observer of the echo does not interrupt. -/
structure Prepared (plan : Plan) : Prop where
  orderly : plan.Orderly
  shows : ∀ count failure, plan.fault? .sink count = some failure → failure.isOrdinary = true

theorem Sound.looking {rig : Rig} {done : List Arrival} (sound : Sound first ⟨rig, .looking, done⟩)
    (arrival : Arrival) : (stepped ⟨rig, .looking, done⟩ arrival).Sound first := by
  obtain ⟨tells, listening, harmless⟩ := sound
  unfold stepped
  dsimp only
  split
  · exact ⟨tells, listening, harmless⟩
  · rename_i cleared
    refine ⟨tells.mute (finish_mute rig), ?_⟩
    exact ⟨Bool.eq_false_iff.mpr cleared, none, rfl, fun _ => harmless, nofun⟩

theorem Sound.turning {rig : Rig} {done : List Arrival} (sound : Sound first ⟨rig, .turning, done⟩)
    (arrival : Arrival) : (stepped ⟨rig, .turning, done⟩ arrival).Sound first := by
  obtain ⟨tells, listening, harmless⟩ := sound
  unfold stepped
  dsimp only
  cases held : rig.port.isHeld with
  | true =>
    rw [Link.requirePort_of_held held]
    exact ⟨tells, listening, harmless⟩
  | false =>
    rw [Link.requirePort_of_lost held]
    refine ⟨tells, listening, rfl, nofun, ?_⟩
    rintro fault same
    cases same
    have settings : rig.settings = first.settings := tells.settings
    exact Or.inr ⟨harmless, by rw [settings]⟩

theorem receive_failure {rig : Rig} (orderly : rig.plan.Orderly) (failure : Failure) :
    ∃ next, Link.receive (.failure failure) rig = (.error (readFailure failure), next) := by
  unfold readFailure
  split
  · rename_i transport
    exact Link.receive_of_fault orderly transport
  · rename_i other
    exact ⟨rig, Link.receive_of_other (by simpa using other) rig⟩

theorem Sound.reading {rig : Rig} {done : List Arrival} (sound : Sound first ⟨rig, .reading, done⟩)
    (orderly : first.plan.Orderly) {arrival : Arrival}
    (undisturbed : arrival.isInterruption = false) :
    (stepped ⟨rig, .reading, done⟩ arrival).Sound first := by
  obtain ⟨tells, listening, harmless⟩ := sound
  cases arrival with
  | bytes bytes =>
    have received : Link.receive (.bytes bytes) rig = (.ok bytes, rig) := rfl
    unfold stepped
    dsimp only
    rw [received]
    dsimp only
    split
    · rename_i empty
      obtain rfl := List.isEmpty_iff.mp empty
      refine ⟨tells.timeout, listening, ?_⟩
      change Harmless (troubles first 0 (done ++ [.bytes []]))
      rw [troubles_append]
      exact (List.append_nil _).symm ▸ harmless
    · rename_i some
      exact ⟨tells, listening, harmless, by simpa using some⟩
  | failure failure =>
    have orderlyToo : rig.plan.Orderly := tells.plan.symm ▸ orderly
    obtain ⟨next, received⟩ := receive_failure orderlyToo failure
    have apart := Link.receive_apart (.failure failure) rig
    rw [received] at apart
    unfold stepped
    dsimp only
    rw [received]
    refine .of_brought ((tells.mute apart.toMute).failed failure)
      (apart.listener.trans listening) ?_ (troubles_append first 0 done (.failure failure)) harmless
    unfold readFailure
    split
    · rfl
    · simpa [Arrival.isInterruption] using undisturbed

theorem Sound.showing {rig : Rig} {bytes : List UInt8} {done : List Arrival}
    (sound : Sound first ⟨rig, .showing bytes, done⟩) (prepared : Prepared first.plan)
    (arrival : Arrival) : (stepped ⟨rig, .showing bytes, done⟩ arrival).Sound first := by
  obtain ⟨tells, listening, harmless, nonempty⟩ := sound
  have shown := Tells.displayed tells nonempty
  have brought := troubles_append first 0 done (.bytes bytes)
  rw [brings, nonempty, Nat.zero_add] at brought
  have met := tells.sinkFault?
  unfold stepped
  dsimp only
  rw [display_apply, met]
  cases planned : sinkFault? first (given done).length with
  | none =>
    rw [planned] at shown brought
    refine ⟨shown, listening, ?_⟩
    change Harmless (troubles first 0 (done ++ [.bytes bytes]))
    rw [brought]
    exact (List.append_nil _).symm ▸ harmless
  | some failure =>
    rw [planned] at shown brought
    refine .of_brought shown listening ?_ brought harmless
    unfold sinkFault? at planned
    split at planned
    · exact prepared.shows _ _ planned
    · cases planned

theorem Sound.failing {rig : Rig} {failure : Failure} {done : List Arrival}
    (sound : Sound first ⟨rig, .failing failure, done⟩) (arrival : Arrival) :
    (stepped ⟨rig, .failing failure, done⟩ arrival).Sound first := by
  obtain ⟨tells, listening, ordinary, harmless, blames⟩ := sound
  have pauses (other : failure.isLink = false) :
      Sound first ⟨(backOff failure rig).2, .looking, done⟩ := by
    refine ⟨Tells.backOff tells other, ?_, harmless other⟩
    unfold Echo.backOff
    rw [look_bind]
    split <;> exact listening
  cases failure with
  | link fault =>
    refine ⟨tells.mute (giveUp_mute fault rig), rfl, some fault, rfl, nofun, ?_⟩
    rintro other same
    cases same
    exact blames fault rfl
  | interrupted message => cases ordinary
  | _ => exact pauses rfl

theorem Sound.stepped {scene : Scene} (sound : scene.Sound first) (prepared : Prepared first.plan)
    {arrival : Arrival} (undisturbed : arrival.isInterruption = false) :
    (scene.stepped arrival).Sound first := by
  obtain ⟨rig, stand, done⟩ := scene
  cases stand with
  | looking => exact sound.looking arrival
  | turning => exact sound.turning arrival
  | reading => exact sound.reading prepared.orderly undisturbed
  | showing bytes => exact sound.showing prepared arrival
  | failing failure => exact sound.failing arrival
  | ended => exact sound

theorem Sound.apart {scene : Scene} (sound : scene.Sound first) {rig : Rig}
    (apart : scene.rig.Apart rig) : { scene with rig }.Sound first := by
  obtain ⟨old, stand, done⟩ := scene
  obtain ⟨tells, stands⟩ := sound
  refine ⟨tells.mute apart.toMute, ?_⟩
  have listener : rig.listener = old.listener := apart.listener
  have cleared : old.running = false → rig.running = false := fun ended =>
    Bool.eq_false_iff.mpr fun still => absurd (apart.running still) (by rw [ended]; decide)
  cases stand with
  | ended =>
    obtain ⟨running, fault?, ended, faults⟩ := stands
    exact ⟨cleared running, fault?, listener.trans ended, faults⟩
  | _ => exact ⟨listener.trans stands.1, stands.2⟩

theorem Sound.reaches {scene next : Scene} (sound : scene.Sound first)
    (prepared : Prepared first.plan) (reaches : ReflTransGen Moves scene next) :
    next.Sound first := by
  induction reaches with
  | refl => exact sound
  | tail _ moves inductionHypothesis =>
    cases moves with
    | step undisturbed => exact inductionHypothesis.stepped prepared undisturbed
    | apart apart => exact inductionHypothesis.apart apart

/-- The scene in which a new listener begins. -/
def begun (rig : Rig) : Scene := { rig := (start rig).2 }

theorem begun_sound (rig : Rig) : (begun rig).Sound rig := by
  have logged := (Rig.Apart.log .debug "Echo drainer started" rig).toMute
  have silent : rig.Mute (start rig).2 :=
    logged.trans ⟨rfl, rfl, rfl, rfl, rfl, rfl⟩
  exact ⟨(Tells.begun rig).mute silent, rfl, nofun⟩

end Scene

end Echo

end KeyFeed
