/-
This file says that a name under which an encoding is found does not fail in use. The
encoding is looked up again for each text, and finding it is all that can go wrong there: it
then gives bytes for every text. So neither a line nor a key nor a whole script ends early
for want of bytes, unless the surroundings themselves fail in that way.
-/

import KeyFeed.Proofs.Typing.OnePiece
import KeyFeed.Proofs.Typing.Settling

namespace KeyFeed

open KeyFeed.Run KeyFeed.Script

/-- The bytes of a text are not found. -/
def Failure.isNaming : Failure → Bool
  | encoding _ => true
  | blankEncoding => true
  | _ => false

variable {plan : Plan} {sort : Failure → Prop}

/-- Telling that another pass begins fails as an interruption does, or as closing the link. -/
theorem PassNotice.nextPass_failsBy (confined : plan.Confined sort) (notice : PassNotice) :
    FailsBy plan sort notice.nextPass := by
  have tells (pass : Nat) : FailsBy plan sort (notice.tell pass) := by
    cases notice with
    | silent => exact .pure ()
    | output => exact .look fun _ => .record _
    | observer stopAt closeAt =>
      refine (FailsBy.record _).bind fun _ => .ite (fun _ => .fail (confined.interrupted _)) ?_
      exact fun _ => .ite (fun _ => Link.closeLink_failsBy confined) fun _ => .pure ()
  refine FailsBy.bind (.change fun _ => rfl) fun _ => .look fun rig => ?_
  exact (FailsBy.log _ _).bind fun _ => tells rig.pass

/-- Steps fail as their surroundings do, or for the cause for which one of them stops. -/
theorem Step.performAll_failsBy_of_stops (confined : plan.Confined sort) {steps : List Step}
    (stops : ∀ failure, .stop failure ∈ steps → sort failure) :
    FailsBy plan sort (performAll steps) := by
  refine performAll_failsBy fun step member => ?_
  cases step with
  | stop failure => exact .fail (stops failure member)
  | again notice => exact PassNotice.nextPass_failsBy confined notice
  | _ => exact perform_failsBy_of_isPlain confined rfl

namespace Sender

variable {sender : Sender} {name : String} {charset : Charset} {rig : Rig} {failure : Failure}

/-- A line does not stop for want of bytes. -/
theorem isNaming_of_mem_lineSteps (named : sender.encoding = .value name)
    (known : Charset.find name = .ok charset) {raw : List Char}
    (member : .stop failure ∈ sender.lineSteps raw) : failure.isNaming = false := by
  rcases stop_of_mem_lineSteps member with ⟨text, refused⟩ | rfl | ⟨_, rfl⟩
  · rw [Session.bytes_of_known named known] at refused
    cases refused
  · rfl
  · rfl

/-- A script does not stop for want of bytes. -/
theorem isNaming_of_mem_scriptSteps (named : sender.encoding = .value name)
    (known : Charset.find name = .ok charset) {bound : Nat} {notice : PassNotice}
    {text : List Char} {again : Bool}
    (member : .stop failure ∈ sender.scriptSteps bound notice text again) :
    failure.isNaming = false := by
  have ofText : .stop failure ∈ sender.textSteps text → failure.isNaming = false := by
    intro member
    obtain ⟨piece, _, ofLine⟩ := List.mem_flatMap.mp member
    exact isNaming_of_mem_lineSteps named known ofLine
  unfold scriptSteps at member
  split at member
  · rw [passSteps_eq] at member
    rcases List.mem_append.mp member with inRounds | last
    · rcases List.mem_append.mp (mem_round_of_mem_rounds inRounds) with inText | impossible
      · exact ofText inText
      · cases List.mem_singleton.mp impossible
    · cases List.mem_singleton.mp last
      rfl
  · exact ofText member

/-- Where nothing in the surroundings fails for want of bytes, the sender does not either. -/
theorem unnaming_confined (unplanned : ∀ fault ∈ rig.plan.faults, fault.failure.isNaming = false) :
    rig.plan.Confined fun failure => failure.isNaming = false :=
  .of_faults (fun _ => rfl) (fun _ => rfl) unplanned

theorem sendLine_isNaming (named : sender.encoding = .value name)
    (known : Charset.find name = .ok charset)
    (unplanned : ∀ fault ∈ rig.plan.faults, fault.failure.isNaming = false) {raw : List Char}
    (failed : (sender.sendLine raw rig).1 = .error failure) : failure.isNaming = false :=
  (Step.performAll_failsBy_of_stops (unnaming_confined unplanned)
    (fun _ => isNaming_of_mem_lineSteps named known) rig rfl).2 _ (sendLine_error failed)

theorem sendKey_isNaming (named : sender.encoding = .value name)
    (known : Charset.find name = .ok charset)
    (unplanned : ∀ fault ∈ rig.plan.faults, fault.failure.isNaming = false) {key : Key}
    (failed : (sender.sendKey key rig).1 = .error failure) : failure.isNaming = false := by
  rw [sendKey_eq named known] at failed
  exact (Link.write_failsBy (unnaming_confined unplanned) _ rig rfl).2 _ failed

theorem sendScript_isNaming (named : sender.encoding = .value name)
    (known : Charset.find name = .ok charset)
    (unplanned : ∀ fault ∈ rig.plan.faults, fault.failure.isNaming = false) {notice : PassNotice}
    {text : List Char} {again : Bool}
    (failed : (sender.sendScript notice text again rig).1 = .error failure) :
    failure.isNaming = false := by
  rw [sendScript_apply] at failed
  exact (Step.performAll_failsBy_of_stops (unnaming_confined unplanned)
    (fun _ => isNaming_of_mem_scriptSteps named known) (ready text again rig) rfl).2 _ failed

end Sender

end KeyFeed
