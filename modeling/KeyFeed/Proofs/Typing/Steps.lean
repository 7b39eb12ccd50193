/-
This file writes a script out as the steps that sending it takes: the bytes that are
written, the pauses, the records for the log, and the failure that ends it early if
there is one. The steps are a list that depends on the sender and the text alone, and
sending performs them one after the other. So a fact about every list of steps, which
takes one induction over the list, is a fact about every script, and the characters of
a line, the lines and the passes need no induction of their own.

The lines are those of the text cut at every separator. The piece after the last
separator is a line only when it holds something or is the only piece.
-/

import KeyFeed.Typing.Passes

namespace KeyFeed

open KeyFeed.Run KeyFeed.Script

/-! ### The lines of a text -/

namespace Script

/-- The pieces of a text between its separators, without an empty last one unless it is the only
one. -/
def pieces (text : List Char) : List (List Char) :=
  let parts := text.splitOn lineSeparator
  if parts.getLast? = some [] ∧ 1 < parts.length then parts.dropLast else parts

/-- Cutting a text at every separator cuts it at the first one, and the rest likewise. -/
theorem splitOn_lineSeparator (text : List Char) :
    text.splitOn lineSeparator =
      if lineSeparator ∈ text then
        (splitLine text).1 :: (splitLine text).2.splitOn lineSeparator
      else [text] := by
  induction text with
  | nil => rfl
  | cons char rest inductionHypothesis =>
    have cut : (char :: rest).splitOn lineSeparator =
        if char == lineSeparator then [] :: rest.splitOn lineSeparator
        else (rest.splitOn lineSeparator).modifyHead (List.cons char) :=
      List.splitOnP_cons_eq_if_modifyHead char rest
    rw [cut]
    by_cases separator : char = lineSeparator
    · simp [splitLine, separator]
    · rw [if_neg (by simpa using separator), inductionHypothesis]
      have same : lineSeparator ∈ char :: rest ↔ lineSeparator ∈ rest := by
        simp [Ne.symm separator]
      simp only [same, splitLine, if_neg separator]
      split <;> rfl

/-- Nothing is left after a line without a separator. -/
theorem splitLine_of_not_mem {text : List Char} (absent : lineSeparator ∉ text) :
    splitLine text = (text, []) := by
  induction text with
  | nil => rfl
  | cons char rest inductionHypothesis =>
    rw [List.mem_cons, not_or] at absent
    rw [splitLine, if_neg (Ne.symm absent.1), inductionHypothesis absent.2]

/-- The first piece is the first line, and the other pieces are those of what is left after it,
if anything is. -/
theorem pieces_eq (text : List Char) :
    pieces text =
      (splitLine text).1 ::
        if (splitLine text).2 = [] then [] else pieces (splitLine text).2 := by
  unfold pieces
  rw [splitOn_lineSeparator text]
  by_cases member : lineSeparator ∈ text
  · rw [if_pos member]
    generalize (splitLine text).2 = rest
    by_cases empty : rest = []
    · subst empty
      rfl
    · have more : rest.splitOn lineSeparator ≠ [] := List.splitOnP_ne_nil _ _
      have single : (rest.splitOn lineSeparator).getLast? = some [] →
          1 < (rest.splitOn lineSeparator).length := by
        intro last
        by_cases inside : lineSeparator ∈ rest
        · rw [splitOn_lineSeparator rest, if_pos inside, List.length_cons]
          exact Nat.lt_add_of_pos_left
            (List.length_pos_iff.mpr (List.splitOnP_ne_nil (· == lineSeparator) _))
        · rw [splitOn_lineSeparator rest, if_neg inside] at last
          exact absurd (by simpa using last) empty
      rw [if_neg empty]
      dsimp only
      rw [List.getLast?_cons_of_ne_nil more]
      have long : 1 < ((splitLine text).1 :: rest.splitOn lineSeparator).length := by
        rw [List.length_cons]
        exact Nat.lt_add_of_pos_left (List.length_pos_iff.mpr more)
      by_cases last : (rest.splitOn lineSeparator).getLast? = some []
      · rw [if_pos ⟨last, long⟩, if_pos ⟨last, single last⟩, List.dropLast_cons_of_ne_nil more]
      · rw [if_neg (fun both => last both.1), if_neg (fun both => last both.1)]
  · rw [if_neg member, splitLine_of_not_mem member]
    simp

/-- The next line of a buffer is the first piece of what is left in it. -/
theorem Buffer.pieces_remaining (buffer : Buffer) :
    pieces buffer.remaining =
      buffer.nextLine.1 ::
        if buffer.nextLine.2.remaining = [] then [] else pieces buffer.nextLine.2.remaining :=
  pieces_eq buffer.remaining

end Script

/-! ### Steps -/

/-- One step of sending a script. -/
inductive Step where
  /-- Bytes are written. -/
  | write (bytes : List UInt8)
  /-- The sender sleeps. -/
  | sleep (duration : Float)
  /-- A record goes to the debug log. -/
  | note (message : String)
  /-- Another pass over the script begins. -/
  | again (notice : PassNotice)
  /-- Sending ends early. -/
  | stop (failure : Failure)

namespace Step

/-- Performs a step. -/
def perform : Step → Run Unit
  | write bytes => Link.write bytes
  | sleep duration => Clock.sleep duration
  | note message => log .debug message
  | again notice => notice.nextPass
  | stop failure => fail failure

/-- Performs steps one after the other. -/
def performAll : List Step → Run Unit
  | [] => pure ()
  | step :: rest => do
    step.perform
    performAll rest

theorem performAll_append (front back : List Step) :
    performAll (front ++ back) = performAll front >>= fun _ => performAll back := by
  induction front with
  | nil => exact (pure_bind () fun _ => performAll back).symm
  | cons step rest inductionHypothesis =>
    rw [List.cons_append, performAll, performAll, inductionHypothesis, bind_assoc]

theorem performAll_singleton (step : Step) : performAll [step] = step.perform :=
  bind_pure step.perform

theorem performAll_cons (step : Step) (rest : List Step) :
    performAll (step :: rest) = step.perform >>= fun _ => performAll rest := rfl

end Step

/-! ### The steps of a script -/

namespace Sender

open Step

/-- The pause after a character. -/
def pauseStep (sender : Sender) : Step :=
  match sender.pacing.perCharacter with
  | .value duration => .sleep duration
  | .blank => .stop .blankPause

/-- The steps for a character: its bytes and a pause. -/
def charSteps (sender : Sender) (char : Char) : List Step :=
  match sender.bytes [char] with
  | .error failure => [.stop failure]
  | .ok bytes => [.write bytes, sender.pauseStep]

/-- The steps for the pause of the adapter. -/
def settleSteps (sender : Sender) (seconds : Int) : List Step :=
  match Clock.settleTime? sender.pacing seconds with
  | none => [.stop .durationTooLong]
  | some duration => [.note (Clock.settleNote duration), .sleep duration]

/-- The steps for a directive that fires in a line. -/
def directiveSteps (sender : Sender) (line : List Char) (directive : Directive) : List Step :=
  .note (directiveNote line directive) :: .write terminator ::
    if directive.needsSettle then sender.settleSteps directive.seconds else []

/-- The steps for what is found when a line is searched for its directive. -/
def scanSteps (sender : Sender) (line : List Char) : List Step :=
  match scan line with
  | .error refusal => [.stop (.directive refusal)]
  | .ok none => []
  | .ok (some directive) => sender.directiveSteps line directive

/-- The steps for a line: its characters, unless it is a comment, and then its directive. -/
def lineSteps (sender : Sender) (raw : List Char) : List Step :=
  (typed (clean raw)).flatMap sender.charSteps ++ sender.scanSteps (clean raw)

/-- The steps for a text, line by line. -/
def textSteps (sender : Sender) (text : List Char) : List Step :=
  (pieces text).flatMap sender.lineSteps

/-- The steps for a text that is sent so many times. -/
def passSteps (sender : Sender) (notice : PassNotice) (text : List Char) : (bound : Nat) → List Step
  | 0 => [.stop .unfinished]
  | bound + 1 => sender.textSteps text ++ .again notice :: passSteps sender notice text bound

/-- The steps for a script, once or repeatedly. -/
def scriptSteps (sender : Sender) (bound : Nat) (notice : PassNotice) (text : List Char)
    (again : Bool) : List Step :=
  if again && !text.isEmpty then sender.passSteps notice text bound else sender.textSteps text

/-- The steps of a line make one pass only. -/
theorem again_not_mem_lineSteps (sender : Sender) (raw : List Char) (notice : PassNotice) :
    Step.again notice ∉ sender.lineSteps raw := by
  intro member
  rcases List.mem_append.mp member with typed | scanned
  · obtain ⟨char, _, ofChar⟩ := List.mem_flatMap.mp typed
    unfold charSteps pauseStep at ofChar
    split at ofChar
    · simp at ofChar
    · split at ofChar <;> simp at ofChar
  · unfold scanSteps directiveSteps settleSteps at scanned
    split at scanned
    · simp at scanned
    · simp at scanned
    · split at scanned
      · split at scanned <;> simp at scanned
      · simp at scanned

/-- The steps of a text make one pass only. -/
theorem again_not_mem_textSteps (sender : Sender) (text : List Char) (notice : PassNotice) :
    Step.again notice ∉ sender.textSteps text := by
  intro member
  obtain ⟨piece, _, ofLine⟩ := List.mem_flatMap.mp member
  exact sender.again_not_mem_lineSteps piece notice ofLine

/-! ### Sending performs the steps -/

theorem pause_eq_perform (sender : Sender) :
    Clock.pause sender.pacing.perCharacter = sender.pauseStep.perform := by
  unfold pauseStep Clock.pause
  cases sender.pacing.perCharacter <;> rfl

theorem settle_eq_performAll (sender : Sender) (seconds : Int) :
    Clock.settle sender.pacing seconds = performAll (sender.settleSteps seconds) := by
  unfold settleSteps Clock.settle
  cases Clock.settleTime? sender.pacing seconds with
  | none => rfl
  | some duration =>
    show _ = (log .debug (Clock.settleNote duration) >>= fun _ => performAll [.sleep duration])
    rw [performAll_singleton]
    rfl

theorem typeCharacters_eq_performAll (sender : Sender) (text : List Char) :
    sender.typeCharacters text = performAll (text.flatMap sender.charSteps) := by
  induction text with
  | nil => rfl
  | cons char rest inductionHypothesis =>
    rw [List.flatMap_cons, performAll_append, ← inductionHypothesis, typeCharacters]
    unfold encode charSteps
    cases sender.bytes [char] with
    | error failure => rfl
    | ok bytes =>
      show (Link.write bytes >>= fun _ => Clock.pause sender.pacing.perCharacter >>= fun _ =>
        sender.typeCharacters rest) = _
      rw [performAll_cons, performAll_singleton, pause_eq_perform, bind_assoc]
      rfl

theorem obey_eq_performAll (sender : Sender) (line : List Char) (directive : Directive) :
    (log .debug (directiveNote line directive) >>= fun _ => sender.obey directive) =
      performAll (sender.directiveSteps line directive) := by
  unfold directiveSteps obey
  rw [performAll_cons, performAll_cons]
  split
  · rw [settle_eq_performAll]
    rfl
  · rfl

/-- Sending a line performs its steps. -/
theorem sendLine_bind (sender : Sender) (raw : List Char) (next : Run Unit) :
    (sender.sendLine raw >>= fun _ => next) =
      performAll (sender.lineSteps raw) >>= fun _ => next := by
  unfold sendLine lineSteps scanSteps
  rw [performAll_append]
  simp only [typeCharacters_eq_performAll, bind_assoc]
  refine congrArg (performAll ((typed (clean raw)).flatMap sender.charSteps) >>= ·) ?_
  funext _
  cases scan (clean raw) with
  | error refusal => rfl
  | ok found =>
    cases found with
    | none => rfl
    | some directive =>
      rw [orFail_ok, pure_bind, ← obey_eq_performAll]
      simp only [bind_assoc, pure_bind]

/-- Sending the lines that are left performs their steps. -/
theorem sendLines_eq_performAll (sender : Sender) (buffer : Buffer) :
    sender.sendLines buffer = performAll (sender.textSteps buffer.remaining) := by
  have shorter : ∀ size : Nat, ∀ buffer : Buffer, buffer.remaining.length < size →
      sender.sendLines buffer = performAll (sender.textSteps buffer.remaining) := by
    intro size
    induction size with
    | zero => intro _ impossible; exact absurd impossible (Nat.not_lt_zero _)
    | succ size inductionHypothesis =>
      intro buffer bounded
      rw [sendLines, sendLine_bind, textSteps, buffer.pieces_remaining, List.flatMap_cons,
        performAll_append]
      refine congrArg (performAll (sender.lineSteps buffer.nextLine.1) >>= ·) ?_
      funext _
      by_cases done : buffer.nextLine.2.remaining = []
      · rw [dif_pos done, if_pos done]
        rfl
      · have nonempty : buffer.remaining ≠ [] := by
          intro empty
          exact done (by simp [Buffer.nextLine, empty, splitLine])
        have less : buffer.nextLine.2.remaining.length < buffer.remaining.length :=
          splitLine_rest_length_lt nonempty
        rw [dif_neg done, if_neg done, inductionHypothesis buffer.nextLine.2 (by omega)]
        rfl
  exact shorter (buffer.remaining.length + 1) buffer (Nat.lt_succ_self _)

theorem sendPasses_eq_performAll (sender : Sender) (notice : PassNotice) (text : List Char)
    (buffer : Buffer) (whole : buffer.whole = text) (fresh : buffer.remaining = text)
    (bound : Nat) :
    sender.sendPasses notice buffer bound = performAll (sender.passSteps notice text bound) := by
  induction bound generalizing buffer with
  | zero => rfl
  | succ bound inductionHypothesis =>
    rw [sendPasses, passSteps, performAll_append, performAll_cons, sendLines_eq_performAll, fresh,
      inductionHypothesis buffer.reload whole whole]
    rfl

/-- The state in which the first step of a script is made. -/
def ready (text : List Char) (again : Bool) (rig : Rig) : Rig :=
  { rig with
    pass := 1
    events :=
      if again && text.isEmpty then
        rig.events.push (.logged .warning "Script is empty, ignoring repeat")
      else rig.events }

/-- Sending a script performs its steps. -/
theorem sendWithin_apply (sender : Sender) (bound : Nat) (notice : PassNotice) (text : List Char)
    (again : Bool) (rig : Rig) :
    sender.sendWithin bound notice text again rig =
      performAll (sender.scriptSteps bound notice text again) (ready text again rig) := by
  unfold sendWithin scriptSteps
  rw [sendLines_eq_performAll,
    sendPasses_eq_performAll sender notice text (Buffer.ofText text) rfl rfl]
  cases again <;> cases text <;> rfl

theorem sendScript_apply (sender : Sender) (notice : PassNotice) (text : List Char) (again : Bool)
    (rig : Rig) :
    sender.sendScript notice text again rig =
      performAll (sender.scriptSteps (passBound rig.plan notice) notice text again)
        (ready text again rig) :=
  sender.sendWithin_apply (passBound rig.plan notice) notice text again rig

/-- A script that is sent once gives no notice of its passes. -/
theorem sendScript_once (sender : Sender) (notice : PassNotice) (text : List Char) (rig : Rig) :
    sender.sendScript notice text false rig =
      performAll (sender.textSteps text) { rig with pass := 1 } :=
  sender.sendScript_apply notice text false rig

end Sender

end KeyFeed
