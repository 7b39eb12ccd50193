/-
This file says how the listener leaves a session behind that nothing interrupts. After
each read one of two things holds: the session goes on, and then the link still holds a
port and the listener reads it; or the session is not to go on any more. The second one
always comes of a read that fails at the transport, because it costs the link its port,
and of closing a port that the listener reads.

Two things of the surroundings could spoil this, and are left out. A port that refuses to
close would leave the listener reading a port that the link does not hold, and somebody
who interrupts the listener would end it without a word to the session.
-/

import KeyFeed.Proofs.Echo.Loss
import KeyFeed.Proofs.Link.Closing

namespace KeyFeed

open KeyFeed.Run

/-- Closing the port never fails, and neither a read nor the observer of the echo interrupts the
listener. -/
structure Plan.Gentle (plan : Plan) : Prop where
  closes : ∀ count, plan.fault? .close count = none
  reads : ∀ count, plan.Undisturbed count
  shows : ∀ count failure, plan.fault? .sink count = some failure → failure.isOrdinary = true

/-- A fault that is planned for a count is the first one planned for it. -/
theorem Plan.fault?_ne_none {plan : Plan} {fault : PlannedFault} (member : fault ∈ plan.faults) :
    plan.fault? fault.point fault.count ≠ none := by
  intro passed
  have missed := List.find?_eq_none.mp (Option.map_eq_none_iff.mp passed) fault member
  simp at missed

theorem Plan.Gentle.orderly {plan : Plan} (gentle : plan.Gentle) : plan.Orderly := by
  intro fault member closing
  have passes := gentle.closes fault.count
  rw [← closing] at passes
  exact absurd passes (plan.fault?_ne_none member)

/-- The session goes on only with a port that the listener reads. -/
def Rig.Tended (rig : Rig) : Prop :=
  rig.running = true → rig.port.isHeld = true ∧ rig.listener = .listening

/-- A link without a port gets none while its port is kept. -/
theorem Rig.PortKept.none {rig next : Rig} (kept : rig.PortKept next)
    (portless : rig.port = .none) :
    next.port = .none := by
  rcases kept with ⟨same, _⟩ | ⟨_, dropped, _⟩
  · exact same.trans portless
  · exact dropped

/-! ### What a read leaves to the listener -/

/-- The calls for one read are made, and nobody else has done anything. -/
def Rig.Reads (rig next : Rig) : Prop :=
  next = { rig with tally := next.tally, events := next.events, port := next.port }

instance : IsPreorder Rig Rig.Reads where
  refl _ := rfl
  trans first middle last earlier later := by
    unfold Rig.Reads at earlier later ⊢
    rw [later, earlier]

open Rig (Reads)

theorem log_reads (level : Level) (message : String) : Leads Reads (log level message) :=
  fun _ => rfl

theorem reach_reads (point : Point) : Leads Reads (reach point) := by
  intro rig
  rw [reach_snd]
  rfl

namespace Link

theorem shutPort_reads : Leads Reads shutPort :=
  Leads.bind (fun _ => rfl) fun _ => reach_reads _

section

variable {relation : Rig → Rig → Prop} [IsPreorder Rig relation]

/-- What holds of the records, of forgetting the port and of closing it holds of dropping it. -/
theorem dropPort_leads (logs : ∀ level message, Leads relation (log level message))
    (forgets : ∀ rig : Rig, relation rig { rig with port := .none }) {closing : Run Unit}
    (closes : Leads relation closing) : Leads relation (dropPort closing) := by
  refine Leads.look fun rig => ?_
  split
  · have forgotten : Leads relation (change fun rig => { rig with port := .none }) := forgets
    refine (forgotten.bind fun _ => closes.attempt.bind fun outcome => ?_) rig
    split
    · exact logs _ _
    · exact .ite ((logs _ _).bind fun _ => logs _ _) (.fail _)
  · exact logs _ _ rig

/-- The same holds of what a read gives. -/
theorem receive_leads (logs : ∀ level message, Leads relation (log level message))
    (forgets : ∀ rig : Rig, relation rig { rig with port := .none })
    (shuts : Leads relation shutPort) (arrival : Arrival) :
    Leads relation (receive arrival) := by
  unfold receive
  split
  · exact .pure _
  · refine .ite ?_ (.fail _)
    exact (logs _ _).bind fun _ => (dropPort_leads logs forgets shuts).bind fun _ => .fail _

end

theorem receive_reads (arrival : Arrival) : Leads Reads (receive arrival) :=
  receive_leads log_reads (fun _ => rfl) shutPort_reads arrival

/-- A read that fails at the transport costs the link its port. -/
theorem receive_port {arrival : Arrival} (fault : arrival.isFault = true) (rig : Rig) :
    ∃ failure, (receive arrival rig).1 = .error failure ∧ (receive arrival rig).2.port = .none := by
  have shuts : ∀ rig : Rig, rig.port = .none → (shutPort rig).2.port = .none := by
    intro rig portless
    rw [shutPort_apply, reach_snd]
    exact portless
  unfold receive
  split
  · cases fault
  · rename_i failure
    rw [if_pos (show failure.isTransport = true from fault), log_bind]
    have dropped := dropPort_port shuts
      { rig with events := rig.events.push (.logged .error s!"Read error: {failure.message}") }
    rcases outcome : dropPort shutPort
      { rig with events := rig.events.push (.logged .error s!"Read error: {failure.message}") }
      with ⟨other | _, next⟩
    · rw [outcome] at dropped
      rw [bind_of_error outcome]
      exact ⟨_, rfl, dropped⟩
    · rw [outcome] at dropped
      rw [bind_of_ok outcome]
      exact ⟨_, rfl, dropped⟩

/-- A read that fails for another reason than the transport leaves everything as it is. -/
theorem receive_of_other {failure : Failure} (other : failure.isTransport = false) (rig : Rig) :
    receive (.failure failure) rig = (.error failure, rig) := by
  unfold receive
  dsimp only
  rw [other]
  rfl

/-- Where nothing interrupts the listener, receiving does not fail by an interruption. -/
theorem receive_ordinary {rig : Rig} (gentle : rig.plan.Gentle) {arrival : Arrival}
    (undisturbed : arrival.isInterruption = false) {failure : Failure}
    (failed : (receive arrival rig).1 = .error failure) : failure.isOrdinary = true := by
  cases arrival with
  | bytes bytes => cases failed
  | failure cause =>
    cases transport : cause.isTransport with
    | true =>
      obtain ⟨next, received⟩ := receive_of_fault gentle.orderly transport
      rw [received] at failed
      cases failed
      rfl
    | false =>
      rw [receive_of_other transport] at failed
      cases failed
      simpa [Arrival.isInterruption] using undisturbed

end Link

namespace Echo

theorem display_reads (text : List Char) : Leads Reads (display text) := by
  refine Leads.look fun rig => ?_
  cases rig.sink with
  | observer =>
    have echoed : Leads Reads (record (.echoed text)) := fun _ => rfl
    exact (echoed.bind fun _ => reach_reads .sink) rig
  | output => rfl

theorem take_reads (arrival : Arrival) : Leads Reads (take arrival) :=
  (Link.receive_reads arrival).bind fun _ => .ite (.pure ()) (display_reads _)

theorem display_ordinary {rig : Rig} (gentle : rig.plan.Gentle) {text : List Char}
    {failure : Failure} (failed : (display text rig).1 = .error failure) :
    failure.isOrdinary = true := by
  unfold display at failed
  rw [look_bind] at failed
  cases shown : rig.sink with
  | observer =>
    rw [shown] at failed
    dsimp only at failed
    rw [record_bind] at failed
    cases planned : rig.plan.fault? .sink (rig.tally.sink + 1) with
    | none =>
      have passed : reach .sink { rig with events := rig.events.push (.echoed text) } = _ :=
        reach_of_passed planned
      rw [passed] at failed
      cases failed
    | some other =>
      have refused : reach .sink { rig with events := rig.events.push (.echoed text) } = _ :=
        reach_of_planned planned
      rw [refused] at failed
      cases failed
      exact gentle.shows _ _ planned
  | output =>
    rw [shown] at failed
    cases failed

theorem take_ordinary {rig : Rig} (gentle : rig.plan.Gentle) {arrival : Arrival}
    (undisturbed : arrival.isInterruption = false) {failure : Failure}
    (failed : (take arrival rig).1 = .error failure) : failure.isOrdinary = true := by
  have reads := Link.receive_reads arrival rig
  have ordinary := @Link.receive_ordinary rig gentle arrival undisturbed
  unfold take at failed
  rcases received : Link.receive arrival rig with ⟨cause | bytes, next⟩
  · rw [bind_of_error received] at failed
    cases failed
    rw [received] at ordinary
    exact ordinary rfl
  · rw [received] at reads
    rw [bind_of_ok received] at failed
    split at failed
    · cases failed
    · refine display_ordinary ?_ failed
      rw [show next = _ from reads]
      exact gentle

/-! ### The session after a read -/

theorem display_ok {rig : Rig} (passed : rig.plan.fault? .sink (rig.tally.sink + 1) = none)
    (text : List Char) : (display text rig).1 = .ok () := by
  unfold display
  rw [look_bind]
  cases rig.sink with
  | observer =>
    have shown : reach .sink { rig with events := rig.events.push (.echoed text) } = _ :=
      reach_of_passed passed
    exact congrArg Prod.fst shown
  | output => rfl

/-- Bytes are shown, and the listener of a session that goes on reads on. -/
theorem advance_bytes {rig : Rig} (passed : rig.plan.fault? .sink (rig.tally.sink + 1) = none)
    (running : rig.running = true) (held : rig.port.isHeld = true) (bytes : List UInt8) :
    (advance (.bytes bytes) rig).2 = (take (.bytes bytes) rig).2 ∧
      rig.Quiet (take (.bytes bytes) rig).2 := by
  have quiet : rig.Quiet (take (.bytes bytes) rig).2 :=
    take_leads (fun _ _ => id) (Leads.pure bytes) rig
  have reads := take_reads (.bytes bytes) rig
  have taken : (take (.bytes bytes) rig).1 = .ok () := by
    unfold take
    rw [show Link.receive (.bytes bytes) = pure bytes from rfl, pure_bind]
    split
    · rfl
    · exact display_ok passed _
  have goesOn : (take (.bytes bytes) rig).2.running = true := by
    rw [show (take (.bytes bytes) rig).2 = _ from reads]
    exact running
  have stillHeld : (take (.bytes bytes) rig).2.port.isHeld = true := by
    rw [quiet.samePort]
    exact held
  refine ⟨?_, quiet⟩
  unfold advance
  rw [attempt_bind, taken]
  dsimp only
  unfold readOn
  rw [look_bind, if_pos goesOn, if_pos stillHeld]
  rfl

/-- Bytes that arrive in a session that goes on change nothing but what they show, when the observer
of the echo takes everything. -/
theorem deliverAll_bytes {rig : Rig} (shows : ∀ count, rig.plan.fault? .sink count = none)
    (running : rig.running = true) (held : rig.port.isHeld = true) {arrivals : List Arrival}
    (bytes : ∀ arrival ∈ arrivals, ∃ bytes, arrival = .bytes bytes) :
    rig.Quiet (deliverAll arrivals rig).2 ∧ rig.Reads (deliverAll arrivals rig).2 := by
  induction arrivals generalizing rig with
  | nil => exact ⟨Std.Refl.refl rig, Std.Refl.refl rig⟩
  | cons arrival rest inductionHypothesis =>
    obtain ⟨⟨text, rfl⟩, others⟩ := List.forall_mem_cons.mp bytes
    obtain ⟨quiet, reads⟩ : rig.Quiet (deliver (.bytes text) rig).2 ∧
        rig.Reads (deliver (.bytes text) rig).2 := by
      unfold deliver
      rw [look_bind]
      split
      · obtain ⟨advanced, quiet⟩ := advance_bytes (shows _) running held text
        rw [advanced]
        exact ⟨quiet, take_reads _ rig⟩
      · exact ⟨Std.Refl.refl rig, Std.Refl.refl rig⟩
    have still : (deliver (.bytes text) rig).2.running = true := by
      rw [show (deliver (.bytes text) rig).2 = _ from reads]
      exact running
    obtain ⟨quietRest, readsRest⟩ := inductionHypothesis
      (by rw [quiet.plan]; exact shows) still (by rw [quiet.samePort]; exact held) others
    rw [deliverAll, bind_of_ok ((deliver_neverFails _).apply rig)]
    exact ⟨IsTrans.trans _ _ _ quiet quietRest, IsTrans.trans _ _ _ reads readsRest⟩

/-- A read that fails at the transport costs the link its port, whatever the listener does
afterwards. -/
theorem advance_drops {arrival : Arrival} (fault : arrival.isFault = true) (rig : Rig) :
    (advance arrival rig).2.port = .none := by
  obtain ⟨failure, failed, dropped⟩ := Link.receive_port fault rig
  have taken : take arrival rig = (.error failure, (Link.receive arrival rig).2) :=
    bind_of_error (Prod.ext failed rfl) _
  have quiet := advance_quiet arrival rig
  rw [taken] at quiet
  exact quiet.samePort.trans dropped

theorem readOn_tended {rig : Rig} (listening : rig.listener = .listening) :
    (readOn rig).2.Tended := by
  unfold readOn
  rw [look_bind]
  split
  · split
    · rename_i held
      exact fun _ => ⟨held, listening⟩
    · exact nofun
  · rename_i ended
    exact fun goesOn => absurd goesOn ended

/-- After a read without an interruption the session goes on only with a port that the listener
reads. -/
theorem advance_tended {rig : Rig} (gentle : rig.plan.Gentle) {arrival : Arrival}
    (undisturbed : arrival.isInterruption = false) (listening : rig.listener = .listening) :
    (advance arrival rig).2.Tended := by
  have reads : (take arrival rig).2.listener = .listening := by
    rw [show (take arrival rig).2 = _ from take_reads arrival rig]
    exact listening
  have ordinary := @take_ordinary rig gentle arrival undisturbed
  have tends (activity : Run Unit)
      (leads : Leads (fun rig next => rig.listener = .listening → next.Tended) activity) :
      (activity (take arrival rig).2).2.Tended := leads _ reads
  unfold advance
  rw [attempt_bind]
  refine tends _ ?_
  split
  · exact fun _ => readOn_tended
  · exact fun _ _ => nofun
  · rename_i failure _ failed
    rw [if_pos (ordinary failed)]
    refine Leads.look fun rig listens => ?_
    split
    · exact readOn_tended listens
    · exact readOn_tended listens

end Echo

namespace Link

/-- A port is closed while nobody but the listener goes on with the session; afterwards the
session is not to go on. -/
theorem closePort_tended {rig : Rig} (gentle : rig.plan.Gentle)
    (listens : rig.running = true → rig.listener = .listening) :
    (closePort rig).1 = .ok () ∧ (closePort rig).2.running = false := by
  have shut : shutPort rig = (.ok (),
      { rig with events := rig.events.push .portClosed, tally := rig.tally.bump .close }) := by
    rw [shutPort_apply]
    exact reach_of_passed (gentle.closes _)
  unfold closePort
  rw [bind_of_ok shut]
  refine ⟨Echo.deliver_neverFails _ _, ?_⟩
  unfold Echo.deliver
  rw [look_bind]
  split
  · rename_i listening
    refine Bool.eq_false_iff.mpr fun goesOn => ?_
    have gentleToo : { rig with
        events := rig.events.push .portClosed
        tally := rig.tally.bump .close }.plan.Gentle := gentle
    have held := (Echo.advance_tended gentleToo rfl listening goesOn).1
    rw [Echo.advance_drops rfl] at held
    cases held
  · rename_i deaf
    exact Bool.eq_false_iff.mpr fun goesOn => deaf (listens goesOn)

end Link

end KeyFeed
