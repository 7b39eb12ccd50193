/-
This file says that what the adapter gets of a script can be taken apart again. The byte
that ends a line is written for a directive and for nothing else: a carriage return of the
script is dropped before anything is typed, and in the encodings meant here no other
character holds that byte, nor does what stands for one that cannot be encoded. So the byte
occurs once for each directive that fires, and between two of them lie just the lines that
were typed since.

This is said of every script that comes to its end, whatever else happens meanwhile: one
that does has met no fault of its own, and is not repeated.
-/

import KeyFeed.Proofs.Charset.LineEnd
import KeyFeed.Proofs.Typing.Endless
import KeyFeed.Proofs.Typing.Thriving

namespace KeyFeed

open KeyFeed.Run KeyFeed.Script

open Charset (framing lineEnd)

/-! ### Lines and blocks -/

namespace Script

/-- A directive fires in the line. -/
def fires (raw : List Char) : Bool :=
  match scan (clean raw) with
  | .ok (some _) => true
  | _ => false

/-- Lines in blocks. Each block ends with a line in which a directive fires, but for the last one,
which holds the lines after it. -/
def blocks : List (List Char) → List (List (List Char))
  | [] => [[]]
  | line :: rest =>
    if fires line then [line] :: blocks rest else (blocks rest).modifyHead (line :: ·)

/-- The bytes of a line as it is typed. -/
def typedBytes (charset : Charset) (raw : List Char) : List UInt8 :=
  charset.encode (typed (clean raw))

/-- The bytes of a line, with the one that ends it when a directive fires. -/
def lineBytes (charset : Charset) (raw : List Char) : List UInt8 :=
  typedBytes charset raw ++ if fires raw then [lineEnd] else []

variable {charset : Charset}

theorem lineEnd_not_mem_typedBytes (frames : charset ∈ framing) (raw : List Char) :
    lineEnd ∉ typedBytes charset raw := by
  refine Charset.lineEnd_not_mem_encode frames fun inside => ?_
  unfold typed at inside
  split at inside
  · cases inside
  · exact not_mem_clean raw inside

/-- The byte that ends a line occurs once for each line in which a directive fires. -/
theorem count_lineBytes (frames : charset ∈ framing) (lines : List (List Char)) :
    (lines.flatMap (lineBytes charset)).count lineEnd = lines.countP fires := by
  induction lines with
  | nil => rfl
  | cons line rest inductionHypothesis =>
    have none : (typedBytes charset line).count lineEnd = 0 :=
      List.count_eq_zero.mpr (lineEnd_not_mem_typedBytes frames line)
    rw [List.flatMap_cons, List.count_append, inductionHypothesis, lineBytes, List.count_append,
      none, List.countP_cons]
    cases fires line with
    | true => simp [Nat.add_comm]
    | false => simp

/-- What stands in front of the first separator belongs to the first piece. -/
theorem splitOn_append_of_not_mem {front : List UInt8} (absent : lineEnd ∉ front)
    (back : List UInt8) :
    (front ++ back).splitOn lineEnd = (back.splitOn lineEnd).modifyHead (front ++ ·) := by
  induction front with
  | nil => exact (congrFun List.modifyHead_id _).symm
  | cons byte rest inductionHypothesis =>
    rw [List.mem_cons, not_or] at absent
    have other : (byte == lineEnd) = false := by simpa using Ne.symm absent.1
    rw [List.cons_append, List.splitOn_cons_eq_if_modifyHead, other,
      inductionHypothesis absent.2, List.modifyHead_modifyHead]
    rfl

/-- Cut at the byte that ends a line, the bytes of lines are those of the blocks, one after the
other. -/
theorem splitOn_lineBytes (frames : charset ∈ framing) (lines : List (List Char)) :
    (lines.flatMap (lineBytes charset)).splitOn lineEnd =
      (blocks lines).map fun block => block.flatMap (typedBytes charset) := by
  induction lines with
  | nil => rfl
  | cons line rest inductionHypothesis =>
    have absent := lineEnd_not_mem_typedBytes frames line
    rw [List.flatMap_cons, lineBytes, blocks]
    cases fires line with
    | true =>
      rw [if_pos rfl, if_pos rfl, List.append_assoc, List.singleton_append,
        List.splitOn_append_cons_self_of_not_mem absent, inductionHypothesis, List.map_cons,
        List.flatMap_singleton]
    | false =>
      rw [if_neg nofun, if_neg nofun, List.append_nil, splitOn_append_of_not_mem absent,
        inductionHypothesis]
      cases blocks rest with
      | nil => rfl
      | cons block others => simp

end Script

/-! ### The bytes of steps -/

/-- The bytes that the port takes in an event. -/
def Event.bytes : Event → List UInt8
  | wrote bytes => bytes
  | _ => []

/-- All bytes that the port takes in events, in their order. -/
def Event.stream (events : List Event) : List UInt8 := events.flatMap Event.bytes

/-- The bytes that the port takes in a step. -/
def Step.bytes : Step → List UInt8
  | write bytes => bytes
  | _ => []

namespace Step

/-- Steps that end well are all performed. -/
theorem stream_trace {steps : List Step} (well : outcome steps = .ok ()) :
    Event.stream (trace steps) = steps.flatMap bytes := by
  induction steps with
  | nil => rfl
  | cons step rest inductionHypothesis =>
    cases step with
    | stop failure => cases well
    | write bytes =>
      have others := inductionHypothesis well
      exact congrArg (bytes ++ ·) others
    | sleep duration => exact inductionHypothesis well
    | note message => exact inductionHypothesis well
    | again notice => exact inductionHypothesis well

end Step

namespace Sender

variable {sender : Sender} {name : String} {charset : Charset}

theorem charSteps_bytes (named : sender.encoding = .value name)
    (known : Charset.find name = .ok charset) (char : Char) :
    (sender.charSteps char).flatMap Step.bytes = charset.encode [char] := by
  have found : sender.bytes [char] = .ok (charset.encode [char]) := by simp [bytes, named, known]
  have silent : sender.pauseStep.bytes = [] := by
    unfold pauseStep
    split <;> rfl
  rw [charSteps, found, List.flatMap_cons, List.flatMap_singleton, silent]
  exact List.append_nil _

theorem scanSteps_bytes (sender : Sender) (raw : List Char) :
    (sender.scanSteps (clean raw)).flatMap Step.bytes = if fires raw then [lineEnd] else [] := by
  have silent (seconds : Int) : (sender.settleSteps seconds).flatMap Step.bytes = [] := by
    unfold settleSteps
    split <;> rfl
  unfold scanSteps fires
  cases scan (clean raw) with
  | error refusal => rfl
  | ok found =>
    cases found with
    | none => rfl
    | some directive =>
      change (directiveSteps sender (clean raw) directive).flatMap Step.bytes = [lineEnd]
      unfold directiveSteps
      split
      · rw [List.flatMap_cons, List.flatMap_cons, silent]
        rfl
      · rfl

/-- The bytes that the port takes for a line. -/
theorem lineSteps_bytes (named : sender.encoding = .value name)
    (known : Charset.find name = .ok charset) (frames : charset ∈ framing) (raw : List Char) :
    (sender.lineSteps raw).flatMap Step.bytes = lineBytes charset raw := by
  have chars := funext (charSteps_bytes named known)
  rw [lineSteps, List.flatMap_append, scanSteps_bytes, lineBytes, List.flatMap_assoc, chars]
  refine congrArg (· ++ _) ?_
  simp only [typedBytes, Charset.encode_of_framing frames, List.flatMap_singleton]

theorem textSteps_bytes (named : sender.encoding = .value name)
    (known : Charset.find name = .ok charset) (frames : charset ∈ framing) (text : List Char) :
    (sender.textSteps text).flatMap Step.bytes = (pieces text).flatMap (lineBytes charset) := by
  rw [textSteps, List.flatMap_assoc]
  exact congrArg (fun line => List.flatMap line (pieces text))
    (funext (lineSteps_bytes named known frames))

/-! ### Scripts -/

/-- A script that comes to its end is sent once. -/
theorem sendScript_returned {notice : PassNotice} {text : List Char} {again : Bool}
    {rig next : Rig} (returned : sender.sendScript notice text again rig = (.ok (), next)) :
    Step.outcome (sender.textSteps text) = .ok () ∧
      Event.only Event.isWriter next.events =
        Event.only Event.isWriter rig.events ++ Step.trace (sender.textSteps text) := by
  rw [sendScript_apply, scriptSteps] at returned
  split at returned
  · rw [passSteps_eq, Step.performAll_append] at returned
    obtain ⟨_, middle, _, stopped⟩ := bind_eq_ok_iff.mp returned
    cases stopped
  · have notes := ready_notes text again rig
    obtain ⟨well, left⟩ := Step.performAll_ok (fun _ => isUnobserved_of_mem_textSteps) returned
    rw [notes.keyed.only_of_foreign fun event => Event.isWriter_of_isText] at left
    exact ⟨well, left⟩

/-- When sending a script comes to its end, the port has taken the byte that ends a line as often
as there are lines in which a directive fires. Cut at this byte, all that it has taken is just
what was typed of the lines up to each of them, and of the lines after the last one. -/
theorem sendScript_framed (named : sender.encoding = .value name)
    (known : Charset.find name = .ok charset) (frames : charset ∈ framing) {notice : PassNotice}
    {text : List Char} {again : Bool} {rig next : Rig}
    (returned : sender.sendScript notice text again rig = (.ok (), next)) :
    ∃ sent, Event.only Event.isWriter next.events =
        Event.only Event.isWriter rig.events ++ sent ∧
      (Event.stream sent).count lineEnd = (pieces text).countP fires ∧
      (Event.stream sent).splitOn lineEnd =
        (blocks (pieces text)).map fun block => block.flatMap (typedBytes charset) := by
  obtain ⟨well, left⟩ := sendScript_returned returned
  have stream : Event.stream (Step.trace (sender.textSteps text)) =
      (pieces text).flatMap (lineBytes charset) := by
    rw [Step.stream_trace well, textSteps_bytes named known frames]
  refine ⟨_, left, ?_, ?_⟩
  · rw [stream, count_lineBytes frames]
  · rw [stream, splitOn_lineBytes frames]

/-- A line with a return in it, a comment with a delay, and a line that begins with a directive. -/
theorem sendScript_framed_of_comment :
    let rig : Rig := { plan := {}, settings := { port := "COM3" }, port := .held true }
    let sender : Sender := { encoding := .value "iso8859-15" }
    let sent := sender.sendScript .silent "€\r→\r\n;c~Z2\n~I€\nb".toList false rig
    Charset.find "iso8859-15" = .ok (.page .latin9) ∧ .page .latin9 ∈ framing ∧
      sent.1 = .ok () ∧
      (Event.stream (Event.only Event.isWriter sent.2.events)).splitOn lineEnd =
        [[0xA4, 0x3F], [0x7E, 0x49, 0xA4], [0x62]] := by
  intro rig sender sent
  have known : Charset.find "iso8859-15" = .ok (.page .latin9) := by rfl
  have frames : .page .latin9 ∈ framing := by decide
  have calm : rig.Calm := ⟨rfl, nofun, rfl, rfl⟩
  have returned : sent.1 = .ok () := (sendScript_calm sender calm .silent _).1.trans rfl
  obtain ⟨taken, left, _, cut⟩ := sendScript_framed rfl known frames (Prod.ext returned rfl)
  refine ⟨known, frames, returned, ?_⟩
  have shape : blocks (pieces "€\r→\r\n;c~Z2\n~I€\nb".toList) =
      [["€\r→\r".toList, ";c~Z2".toList], ["~I€".toList], [['b']]] := by
    decide +kernel
  have bytes {raw : List Char} (kept : List Char) (same : Script.typed (clean raw) = kept) :
      typedBytes (.page .latin9) raw = kept.flatMap (Charset.pageBytes .latin9) := by
    rw [typedBytes, same]
    exact Charset.encode_of_framing frames kept
  rw [left]
  refine cut.trans ?_
  rw [shape]
  simp only [List.map_cons, List.map_nil, List.flatMap_cons, List.flatMap_nil]
  rw [bytes ['€', '→'] (by decide +kernel), bytes [] (by decide +kernel),
    bytes ['~', 'I', '€'] (by decide +kernel), bytes ['b'] (by decide +kernel)]
  simp only [List.flatMap_cons, List.flatMap_nil, Charset.pageBytes, CodePage.byte?,
    CodePage.slots, CodePage.layout, String.toList_append, -String.reduceToList]
  repeat rewrite [String.toList_ofList]
  decide +kernel

end Sender

end KeyFeed
