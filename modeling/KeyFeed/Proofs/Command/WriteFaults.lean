/-
This file says how a run ends in which a write meets a failure. A failure of the transport ends
it with the status for a fault of the link, unless closing the port brings a failure of
another kind. Such a failure, and one of another kind that the write itself meets, leaves the
program: nobody takes it for a fault of the link.
-/

import KeyFeed.Proofs.Command.Verdict
import KeyFeed.Proofs.Session.WriteFaults

namespace KeyFeed.Command

open KeyFeed.Run KeyFeed.Script KeyFeed.Session

open Rig (Writes)

variable {plan : Plan} {options : Options} {script : Option (String × List Char)}

/-! ### How a write that fails ends a run -/

/-- How a run ends in which a write meets the failure, when closing the port brings another one or
none. -/
inductive FaultEnds (failure : Failure) (closing : Option Failure) :
    Except Failure Status → Prop where
  /-- The transport fails, and closing the port brings nothing worse. -/
  | fault (transport : failure.isTransport = true)
      (alike : ∀ other ∈ closing, other.isTransport = true) :
      FaultEnds failure closing (.ok .linkFault)
  /-- The failure is none of the transport, and leaves the program. -/
  | escaped (other : failure.isTransport = false) : FaultEnds failure closing (.error failure)
  /-- Closing the port brings a failure that is none of the transport, and leaves the program. -/
  | replaced {cause : Failure} (brought : closing = some cause)
      (other : cause.isTransport = false) : FaultEnds failure closing (.error cause)

/-- The status for a fault of the link stands for failures of the transport alone. -/
theorem FaultEnds.linkFault_iff {failure : Failure} {closing : Option Failure}
    {outcome : Except Failure Status} (ends : FaultEnds failure closing outcome) :
    outcome = .ok .linkFault ↔
      failure.isTransport = true ∧ ∀ other ∈ closing, other.isTransport = true := by
  cases ends with
  | fault transport alike => exact iff_of_true rfl ⟨transport, alike⟩
  | escaped other =>
    refine iff_of_false nofun fun both => ?_
    rw [other] at both
    cases both.1
  | replaced brought other =>
    refine iff_of_false nofun fun both => ?_
    rw [both.2 _ brought] at other
    cases other

/-! ### The work -/

/-- The console is restored unless the user interrupts it. -/
def Restorable (plan : Plan) : Prop :=
  ∀ count failure, plan.fault? .consoleRestoring count = some failure → failure.isOrdinary = true

theorem say_heeds (line : String) : Heeds plan (say line) := .of_leads (record_writes _)

theorem work_heeds (restorable : Restorable plan) (options : Options)
    (script : Option (String × List Char)) : Heeds plan (work options script) := by
  have sends : Heeds plan (sendFile options script) := by
    unfold sendFile
    split
    · exact .pure ()
    · refine (say_heeds _).bind fun _ => ?_
      exact (options.sender.sendScript_heeds _ _).bind fun _ => say_heeds _
  have forwards : Heeds plan (forwardKeys options) :=
    .ite (.pure ()) ((say_heeds _).bind fun _ => interact_heeds options.sender restorable)
  exact sends.bind fun _ => forwards

/-! ### Closing the session -/

theorem closeSession_silent {point : Point} (writes : point.isWriting = true) (rig : Rig) :
    (closeSession rig).2.tally.get point = rig.tally.get point :=
  closeSession_tally (Point.ne_of_isWriting writes rfl) (Point.ne_of_isWriting writes rfl) rig

/-- Closing a session whose link has dropped its port does not fail. -/
theorem closeSession_of_dropped {rig : Rig} (dropped : rig.port = .none) :
    (closeSession rig).1 = .ok () := by
  have portless : (Echo.join { rig with running := false }).2.port = .none :=
    (Echo.join_aside { rig with running := false }).port.none dropped
  rcases outcome : (closeSession rig).1 with failure | _
  · obtain ⟨held, -⟩ := closeSession_error outcome
    rw [portless] at held
    cases held
  · rfl

/-- A failure that closing a session comes to is planned for the next time that its port is called
to close. -/
theorem closeSession_planned {rig : Rig} {failure : Failure}
    (failed : (closeSession rig).1 = .error failure) :
    rig.port.isHeld = true ∧ failure.isTransport = false ∧
      rig.plan.fault? .close (rig.tally.close + 1) = some failure := by
  obtain ⟨held, other, planned⟩ := closeSession_error failed
  have ending : rig.Writes { rig with running := false } := .of_idle rfl rfl rfl
  have joined := IsTrans.trans _ _ _ ending (Echo.join_writes { rig with running := false })
  obtain ⟨heldBefore, unclosed⟩ := joined.kept held
  rw [joined.plan, unclosed] at planned
  exact ⟨heldBefore, other, planned⟩

/-! ### The session -/

/-- No failure of the surroundings that a console or a port can bring ends a session in good
order. -/
theorem verdict_of_device {failure : Failure} (device : failure.isConsole = true) :
    verdict failure = none := by
  cases failure with
  | directive => cases device
  | link => cases device
  | consoleUnavailable => cases device
  | interrupted => cases device
  | _ => rfl

/-- A failure of the port that closes a session takes the place of what the session has come to. -/
theorem holdSession_of_unclosed {rig opened : Rig} (opens : openSession rig = (.ok (), opened))
    {failure : Failure}
    (failed : (closeSession (workOrReport options script opened).2).1 = .error failure) :
    (holdSession options script rig).1 = .error failure := by
  have closes : closeSession (workOrReport options script opened).2 = (.error failure, _) :=
    Prod.ext failed rfl
  have ended := ensuring_apply (workOrReport options script) closeSession opened
  rw [closes] at ended
  unfold holdSession
  rw [attempt_bind, opens]
  dsimp only
  rw [bind_of_error ended]

/-- What a session comes to in whose work a write has failed. -/
theorem holdSession_of_writeFault {rig opened : Rig} {failure : Failure}
    (opens : openSession rig = (.ok (), opened))
    (meets : opened.Meets failure (work options script opened).2)
    (failed : (work options script opened).1 =
      .error (Link.writeFailure failure (Link.closeFault? opened)))
    (device : failure.isConsole = true)
    (deviceToo : ∀ other ∈ Link.closeFault? opened, other.isConsole = true) :
    FaultEnds failure (Link.closeFault? opened) (holdSession options script rig).1 := by
  have reports := workOrReport_notes options script opened
  have samePort :
      (workOrReport options script opened).2.port = (work options script opened).2.port := by
    rw [reports.frame]
  cases transport : failure.isTransport with
  | true =>
    -- The link has dropped its port, so that there is nothing left to close.
    have closed : (closeSession (workOrReport options script opened).2).1 = .ok () :=
      closeSession_of_dropped (samePort.trans (meets.dropped transport))
    rw [holdSession_of_broken opens failed closed]
    rcases Link.alike_or_unlike (Link.closeFault? opened) with alike | ⟨cause, brought, unlike⟩
    · rw [Link.writeFailure_of_alike transport alike]
      exact .fault transport alike
    · rw [brought, Link.writeFailure_of_unlike transport unlike,
        verdict_of_device (deviceToo cause brought)]
      exact .replaced rfl unlike
  | false =>
    rw [Link.writeFailure_of_other transport] at failed
    rcases closed : (closeSession (workOrReport options script opened).2).1 with other | _
    · obtain ⟨held, notTransport, planned⟩ := closeSession_planned closed
      have after := meets.before (Writes.of_keyed reports.keyed)
      rw [holdSession_of_unclosed opens closed]
      rw [after.plan, after.kept held] at planned
      exact .replaced planned notTransport
    · rw [holdSession_of_broken opens failed closed, verdict_of_device device]
      exact .escaped transport

/-! ### The whole run -/

/-- Opening a session calls for a port, and for nothing else. -/
theorem openSession_tally {rig : Rig} (closed : rig.port.isOpen = false) :
    (openSession rig).2.tally = rig.tally.bump .opening := by
  cases granted : rig.plan.fault? .opening (rig.tally.opening + 1) with
  | some failure =>
    obtain ⟨final, failed, notes⟩ := openSession_of_refused closed granted
    rw [failed, notes.frame]
    rfl
  | none =>
    cases described : rig.settings.describe with
    | error refusal =>
      rw [openSession_of_undescribed closed granted described]
      rfl
    | ok short =>
      rw [openSession_of_described closed granted described]
      rfl

section Run

variable {opening : Opening} {arguments : List String} {finalArrivals : List Arrival}
  {batches : List (List Keystroke)} {point : Point} {count : Nat} {failure : Failure}

/-- A session in which the port is called for a write as often as that. -/
theorem holdSession_reaches {rig : Rig} (closed : rig.port.isOpen = false)
    (writes : point.isWriting = true) (more : rig.tally.get point < count)
    (reached : count ≤ (holdSession options script rig).2.tally.get point) :
    ∃ short, openSession rig = (.ok (), opened short rig) ∧
      count ≤ (work options script (opened short rig)).2.tally.get point := by
  have unmoved : (openSession rig).2.tally.get point = rig.tally.get point := by
    rw [openSession_tally closed]
    exact Tally.get_bump_of_ne _ (Point.ne_of_isWriting writes rfl)
  rcases opens : openSession rig with ⟨cause | _, next⟩
  · rw [opens] at unmoved
    have ends := (holdSession_of_error options script opens).tally
    rw [ends, unmoved] at reached
    exact absurd (Nat.lt_of_lt_of_le more reached) (Nat.lt_irrefl _)
  · obtain ⟨_, short, rfl⟩ := openSession_ok closed opens
    have ends := (holdSession_of_ok options script opens).tally
    have reports := (workOrReport_notes options script (opened short rig)).tally
    rw [ends, closeSession_silent writes, reports] at reached
    exact ⟨short, rfl, reached⟩

/-- A run in which a write meets a failure ends by that failure, whatever else has happened up to
then. -/
theorem run_faultEnds (restorable : Restorable plan) (writes : point.isWriting = true)
    (planned : plan.fault? point count = some failure) (positive : 0 < count)
    (reached : count ≤ (run opening arguments (start plan finalArrivals batches)).2.tally.get point)
    (device : failure.isConsole = true)
    (deviceToo : ∀ other ∈ plan.fault? .close 1, other.isConsole = true) :
    FaultEnds failure (plan.fault? .close 1)
      (run opening arguments (start plan finalArrivals batches)).1 := by
  have fresh : ({} : Tally).get point = 0 := by cases point <;> rfl
  rcases run_cases opening arguments (start plan finalArrivals batches) with
    ⟨begun, comes⟩ | ⟨notes, _⟩
  · rw [comes] at reached ⊢
    obtain ⟨planToo, closed, -⟩ := begun_ready begun
    have tally : begun.ready.tally = {} := by
      rw [begun.begins.frame]
      rfl
    have more : begun.ready.tally.get point < count := by rwa [tally, fresh]
    obtain ⟨short, opens, reached⟩ := holdSession_reaches closed writes more reached
    have bumped : (opened short begun.ready).tally = ({} : Tally).bump .opening :=
      congrArg (fun tally : Tally => tally.bump .opening) tally
    have moreToo : (opened short begun.ready).tally.get point < count := by
      rwa [bumped, Tally.get_bump_of_ne _ (Point.ne_of_isWriting writes rfl), fresh]
    have closing : Link.closeFault? (opened short begun.ready) = plan.fault? .close 1 := by
      unfold Link.closeFault?
      rw [bumped]
      exact congrArg (fun plan : Plan => plan.fault? .close 1) planToo
    have plannedToo : (opened short begun.ready).plan.fault? point count = some failure :=
      (congrArg (fun plan : Plan => plan.fault? point count) planToo).trans planned
    rcases work_heeds restorable begun.options begun.script (opened short begun.ready) planToo with
      sound | ⟨other, meets, failed⟩
    · rw [sound.passed point writes count moreToo reached] at plannedToo
      cases plannedToo
    · obtain rfl := meets.met point writes count failure moreToo reached plannedToo
      rw [← closing] at deviceToo ⊢
      exact holdSession_of_writeFault opens meets failed device deviceToo
  · rw [notes.tally] at reached
    have unreached : (start plan finalArrivals batches).tally.get point = 0 := fresh
    rw [unreached] at reached
    exact absurd (Nat.lt_of_lt_of_le positive reached) (Nat.lt_irrefl _)

end Run

/-- What becomes of a failure that a write meets; a write without one succeeds. For the link it is a
fault exactly when the transport fails, and closing the port brings nothing worse; every other
failure passes through the link, which keeps its port unless the transport has failed. A run
that gets so far, in its script or in its interactive phase, ends with the status for a fault
of the link in the same case, and is left by a failure in every other. -/
theorem writeFault_ends {failure : Failure} (device : failure.isConsole = true) :
    (∀ (rig : Rig) (bytes : List UInt8), rig.port.isHeld = true →
        (∀ other ∈ Link.closeFault? rig, other.isConsole = true) →
        (Link.writeFault? rig = none → (Link.write bytes rig).1 = .ok ()) ∧
          (Link.writeFault? rig = some failure →
            (Link.write bytes rig).1 =
                .error (Link.writeFailure failure (Link.closeFault? rig)) ∧
              (Link.write bytes rig).2.port = (if failure.isTransport then .none else rig.port) ∧
              ((∃ fault, (Link.write bytes rig).1 = .error (.link fault)) ∧
                  (Link.write bytes rig).2.port = .none ↔
                failure.isTransport = true ∧
                  ∀ other ∈ Link.closeFault? rig, other.isTransport = true))) ∧
      ∀ (opening : Opening) (arguments : List String) (plan : Plan)
        (finalArrivals : List Arrival) (batches : List (List Keystroke)) (point : Point)
        (count : Nat),
        Restorable plan → point.isWriting = true → plan.fault? point count = some failure →
        0 < count →
        count ≤ (run opening arguments (start plan finalArrivals batches)).2.tally.get point →
        (∀ other ∈ plan.fault? .close 1, other.isConsole = true) →
        FaultEnds failure (plan.fault? .close 1)
            (run opening arguments (start plan finalArrivals batches)).1 ∧
          ((run opening arguments (start plan finalArrivals batches)).1 = .ok .linkFault ↔
            failure.isTransport = true ∧
              ∀ other ∈ plan.fault? .close 1, other.isTransport = true) := by
  constructor
  · intro rig bytes held deviceToo
    refine ⟨fun sound => by rw [Link.write_of_sound held sound], fun met => ?_⟩
    obtain ⟨outcome, port⟩ := Link.write_of_fault held met bytes
    exact ⟨outcome, port, Link.write_lost_iff held met device deviceToo bytes⟩
  · intro opening arguments plan finalArrivals batches point count restorable writes planned
      positive reached deviceToo
    have ends := run_faultEnds restorable writes planned positive reached device deviceToo
    exact ⟨ends, ends.linkFault_iff⟩

/-- A port that fails while it empties its buffer: the link is lost, and the program says so. -/
theorem writeFault_ends_of_slow :
    let failure : Failure := .transportTimeout "slow"
    let plan : Plan := { faults := [⟨.flush, 1, failure⟩, ⟨.close, 1, .transport "gone"⟩] }
    let rig : Rig := { plan := plan, settings := { port := "COM3" }, port := .held true }
    let arguments := ["--no-interactive", "COM3", "9600", "8", "None", "One", "None", "keys.txt"]
    let opening : Opening := fun _ => .ok [0x41]
    rig.port.isHeld = true ∧ Link.writeFault? rig = some failure ∧ Restorable plan ∧
      plan.fault? .flush 1 = some failure ∧
      1 ≤ (run opening arguments (start plan [] [])).2.tally.get .flush ∧
      failure.isConsole = true ∧ (∀ other ∈ plan.fault? .close 1, other.isConsole = true) ∧
      (Link.write [0x41] rig).2.port = .none ∧
      (run opening arguments (start plan [] [])).1 = .ok .linkFault := by
  intro failure plan rig arguments opening
  have met : Link.writeFault? rig = some failure := by rfl
  have planned : plan.fault? .flush 1 = some failure := by rfl
  have restorable : Restorable plan := by
    intro count other due
    cases due
  have reached : 1 ≤ (run opening arguments (start plan [] [])).2.tally.get .flush := by
    decide +kernel
  have closing : plan.fault? .close 1 = some (.transport "gone") := by rfl
  have alike : ∀ other ∈ plan.fault? .close 1, other.isTransport = true := by
    intro other brought
    rw [closing] at brought
    cases brought
    rfl
  have device : ∀ other ∈ plan.fault? .close 1, other.isConsole = true := by
    intro other brought
    rw [closing] at brought
    cases brought
    rfl
  obtain ⟨links, runs⟩ := @writeFault_ends failure rfl
  refine ⟨rfl, met, restorable, planned, reached, rfl, device, ?_, ?_⟩
  · exact (((links rig [0x41] rfl device).2 met).2.2.mpr ⟨rfl, alike⟩).2
  · exact (runs opening arguments plan [] [] .flush 1 restorable rfl planned Nat.one_pos reached
      device).2.mpr ⟨rfl, alike⟩

/-- A failure of the system passes through the link, which keeps its port. -/
theorem writeFault_passes :
    ¬∀ (rig : Rig) (bytes : List UInt8) (failure : Failure), rig.port.isOpen = true →
      Link.writeFault? rig = some failure → failure.isConsole = true →
      (∀ other ∈ Link.closeFault? rig, other.isConsole = true) →
      (∃ fault, (Link.write bytes rig).1 = .error (.link fault)) ∧
        (Link.write bytes rig).2.port.isOpen = false := by
  intro always
  let plan : Plan := { faults := [⟨.write, 1, .system "gone"⟩] }
  let rig : Rig := { plan := plan, settings := { port := "COM3" }, port := .held true }
  obtain ⟨-, closed⟩ := always rig [0x41] (.system "gone") rfl rfl rfl nofun
  have stays : (Link.write [0x41] rig).2.port.isOpen = true := by rfl
  rw [stays] at closed
  cases closed

end KeyFeed.Command
