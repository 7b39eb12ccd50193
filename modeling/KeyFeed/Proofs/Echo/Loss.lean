/-
This file says what the listener does while it attends to a session: it reads on
through bytes and through failures of other kinds, and at the first read that fails at
the transport it gives up and keeps the fault. This needs two things of the
surroundings. Closing a port may fail at the transport only, because another failure
would take the place of the fault; and nobody may interrupt the listener, because it
would end without a fault and leave later reads to nobody.
-/

import KeyFeed.Proofs.Rig.GoesOn

namespace KeyFeed

open KeyFeed.Run

/-- The read fails at the transport. -/
def Arrival.isFault : Arrival → Bool
  | bytes _ => false
  | .failure cause => cause.isTransport

/-- The read is interrupted. -/
def Arrival.isInterruption : Arrival → Bool
  | bytes _ => false
  | .failure cause => !cause.isOrdinary

/-- Closing a port fails at the transport if at all. -/
def Plan.Orderly (plan : Plan) : Prop :=
  ∀ fault ∈ plan.faults, fault.point = .close → fault.failure.isTransport = true

/-- No read is interrupted during the sleep of a count. -/
def Plan.Undisturbed (plan : Plan) (count : Nat) : Prop :=
  ∀ arrival ∈ plan.arrivals count, arrival.isInterruption = false

/-- No read fails at the transport during the sleep of a count. -/
def Plan.Delivers (plan : Plan) (count : Nat) : Prop :=
  ∀ arrival ∈ plan.arrivals count, arrival.isFault = false

theorem Plan.Orderly.isTransport {plan : Plan} (orderly : plan.Orderly) {count : Nat}
    {failure : Failure} (planned : plan.fault? .close count = some failure) :
    failure.isTransport = true := by
  obtain ⟨fault, found, rfl⟩ := Option.map_eq_some_iff.mp planned
  have same : fault.point = .close ∧ fault.count = count := by
    simpa using List.find?_some found
  exact orderly fault (List.mem_of_find?_eq_some found) same.1

/-- The listener reads the open port of a session that goes on, and shows what arrives to the
user. -/
structure Rig.Attends (rig : Rig) : Prop where
  listener : rig.listener = .listening
  running : rig.running = true
  port : rig.port.isOpen = true
  sink : rig.sink = .output
  plan : rig.plan.Orderly

/-- A fault of the link has ended the listener. -/
def Rig.Lost (rig : Rig) : Prop := ∃ fault, rig.listener = .ended (some fault)

theorem Rig.Lost.deaf {rig : Rig} (lost : rig.Lost) : rig.listener ≠ .listening := by
  obtain ⟨fault, ended⟩ := lost
  rw [ended]
  exact nofun

theorem HeldPort.isHeld_of_isOpen {port : HeldPort} (isOpen : port.isOpen = true) :
    port.isHeld = true := by
  cases port with
  | none => cases isOpen
  | held present => rfl

/-! ### A read that fails at the transport -/

namespace Link

/-- Dropping the port succeeds when closing it fails at the transport only. -/
theorem dropPort_ok {closing : Run Unit} {rig : Rig}
    (transport : ∀ failure, (closing { rig with port := .none }).1 = .error failure →
      failure.isTransport = true) : (dropPort closing rig).1 = .ok () := by
  unfold dropPort
  rw [look_bind]
  split
  · simp only [change_bind, attempt_bind]
    cases outcome : (closing { rig with port := .none }).1 with
    | ok result => rfl
    | error failure =>
      dsimp only
      rw [if_pos (transport failure outcome)]
      rfl
  · rfl

theorem shutPort_error {rig : Rig} (orderly : rig.plan.Orderly) {failure : Failure}
    (failed : (shutPort rig).1 = .error failure) : failure.isTransport = true := by
  rw [shutPort_apply] at failed
  cases planned : rig.plan.fault? .close (rig.tally.close + 1) with
  | none =>
    have passed : reach .close { rig with events := rig.events.push .portClosed } = _ :=
      reach_of_passed planned
    rw [passed] at failed
    cases failed
  | some other =>
    have refused : reach .close { rig with events := rig.events.push .portClosed } = _ :=
      reach_of_planned planned
    rw [refused] at failed
    cases failed
    exact orderly.isTransport planned

theorem receive_of_fault {rig : Rig} (orderly : rig.plan.Orderly) {failure : Failure}
    (transport : failure.isTransport = true) :
    ∃ next, receive (.failure failure) rig = (.error (.link (.reading failure.message)), next) := by
  have dropped : ∀ next : Rig, next.plan = rig.plan → (dropPort shutPort next).1 = .ok () := by
    intro next same
    refine dropPort_ok fun other failed => shutPort_error ?_ failed
    show next.plan.Orderly
    rw [same]
    exact orderly
  have ready := dropped
    { rig with events := rig.events.push (.logged .error s!"Read error: {failure.message}") } rfl
  unfold receive
  dsimp only
  rw [if_pos transport, log_bind, bind_of_ok (Prod.ext ready rfl)]
  exact ⟨_, rfl⟩

end Link

namespace Echo

/-- A read that fails at the transport ends the listener with its fault. -/
theorem advance_of_fault {rig : Rig} (orderly : rig.plan.Orderly) {arrival : Arrival}
    (fault : arrival.isFault = true) : (advance arrival rig).2.Lost := by
  cases arrival with
  | bytes bytes => cases fault
  | failure failure =>
    obtain ⟨next, failed⟩ := Link.receive_of_fault orderly fault
    have taken : take (.failure failure) rig =
        (.error (.link (.reading failure.message)), next) := bind_of_error failed _
    unfold advance
    rw [attempt_bind, taken]
    exact ⟨_, rfl⟩

/-! ### Every other read -/

theorem readOn_of_attends {rig : Rig} (attends : rig.Attends) : readOn rig = (.ok (), rig) := by
  unfold readOn
  rw [look_bind, if_pos attends.running, if_pos (HeldPort.isHeld_of_isOpen attends.port)]
  rfl

theorem display_of_output {rig : Rig} (output : rig.sink = .output) (text : List Char) :
    display text rig = record (.printed (String.ofList text)) rig := by
  unfold display
  rw [look_bind, output]

end Echo

namespace Rig.Attends

variable {rig : Rig}

theorem of_events (attends : rig.Attends) (events : Array Event) :
    { rig with events := events }.Attends := { attends with }

/-- Through every other read the listener attends on, unless the read itself reports a fault of
the link. -/
theorem advance (attends : rig.Attends) {arrival : Arrival}
    (undisturbed : arrival.isInterruption = false) (readable : arrival.isFault = false) :
    (Echo.advance arrival rig).2.Lost ∨ (Echo.advance arrival rig).2.Attends := by
  unfold Echo.advance
  rw [attempt_bind]
  cases arrival with
  | bytes bytes =>
    have shown : ∃ events, Echo.take (.bytes bytes) rig =
        (.ok (), { rig with events := events }) := by
      unfold Echo.take
      rw [show Link.receive (.bytes bytes) = pure bytes from rfl, pure_bind]
      split
      · exact ⟨rig.events, rfl⟩
      · exact ⟨_, Echo.display_of_output attends.sink _⟩
    obtain ⟨events, taken⟩ := shown
    rw [taken]
    dsimp only
    rw [Echo.readOn_of_attends (attends.of_events events)]
    exact Or.inr (attends.of_events events)
  | failure failure =>
    have ordinary : failure.isOrdinary = true := by simpa [Arrival.isInterruption] using undisturbed
    have other : failure.isTransport = false := readable
    have received : Link.receive (.failure failure) = fail failure := by
      unfold Link.receive
      dsimp only
      rw [other]
      rfl
    have taken : Echo.take (.failure failure) rig = (.error failure, rig) := by
      unfold Echo.take
      rw [received]
      rfl
    rw [taken]
    have goesOn (note : String) : ((do
        let rig ← look
        if rig.running then log .error note
        record (.backedOff Echo.pause)
        Echo.readOn : Run Unit) rig).2.Attends := by
      rw [look_bind, if_pos attends.running, log_bind]
      show (Echo.readOn { rig with
        events := (rig.events.push (.logged .error note)).push (.backedOff Echo.pause) }).2.Attends
      rw [Echo.readOn_of_attends (attends.of_events _)]
      exact attends.of_events _
    cases failure with
    | link fault => exact Or.inl ⟨fault, rfl⟩
    | interrupted message => cases ordinary
    | _ => exact Or.inr (goesOn _)

theorem deliver (attends : rig.Attends) {arrival : Arrival}
    (undisturbed : arrival.isInterruption = false) :
    (Echo.deliver arrival rig).2.Lost ∨
      ((Echo.deliver arrival rig).2.Attends ∧ arrival.isFault = false) := by
  have delivered : Echo.deliver arrival rig = Echo.advance arrival rig := by
    unfold Echo.deliver
    rw [look_bind, if_pos attends.listener]
  rw [delivered]
  cases fault : arrival.isFault with
  | true => exact Or.inl (Echo.advance_of_fault attends.plan fault)
  | false => exact (attends.advance undisturbed fault).imp_right fun still => ⟨still, rfl⟩

/-- A listener that is still there after some arrivals has met no fault among them. -/
theorem deliverAll (attends : rig.Attends) {arrivals : List Arrival}
    (undisturbed : ∀ arrival ∈ arrivals, arrival.isInterruption = false) :
    (Echo.deliverAll arrivals rig).2.Lost ∨
      ((Echo.deliverAll arrivals rig).2.Attends ∧
        ∀ arrival ∈ arrivals, arrival.isFault = false) := by
  induction arrivals generalizing rig with
  | nil => exact Or.inr ⟨attends, nofun⟩
  | cons arrival rest inductionHypothesis =>
    have undisturbedRest := List.forall_mem_cons.mp undisturbed
    rw [Echo.deliverAll, bind_of_ok ((Echo.deliver_neverFails arrival).apply rig)]
    rcases attends.deliver undisturbedRest.1 with lost | ⟨still, readable⟩
    · rw [Echo.deliverAll_of_deaf lost.deaf]
      exact Or.inl lost
    · refine (inductionHypothesis still undisturbedRest.2).imp_right ?_
      rintro ⟨last, others⟩
      exact ⟨last, List.forall_mem_cons.mpr ⟨readable, others⟩⟩

end Rig.Attends

/-! ### The last read -/

/-- The listener that is waited for still notices a read that fails at the transport. -/
theorem Echo.join_of_fault {rig : Rig} (listening : rig.listener = .listening)
    (orderly : rig.plan.Orderly) {arrival : Arrival}
    (arrives : rig.finalArrivals.head? = some arrival) (fault : arrival.isFault = true) :
    (join rig).2.Lost := by
  obtain ⟨rest, same⟩ := List.head?_eq_some_iff.mp arrives
  have orderlyToo : { rig with finalArrivals := rest }.plan.Orderly := orderly
  unfold join
  rw [look_bind, if_pos listening, same]
  exact advance_of_fault orderlyToo fault

theorem Echo.join_of_deaf {rig : Rig} (deaf : rig.listener ≠ .listening) :
    join rig = (.ok (), rig) := by
  unfold join
  rw [look_bind, if_neg deaf]
  rfl

end KeyFeed
