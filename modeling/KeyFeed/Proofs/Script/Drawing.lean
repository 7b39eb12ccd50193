/-
This file says what a buffer keeps while lines are drawn from it and the script is
reloaded, in any order. Beside the buffer stand the lines that it gave since it was last
full, each while something was left. These lines and what is left make up the whole
script: every line has a separator behind it, except for a last one that the script ends
without. So no line gets lost, and none is given twice.
-/

import KeyFeed.Proofs.Typing.Steps
import Mathlib.Data.List.Basic

namespace KeyFeed.Script

/-! ### One line -/

theorem not_mem_splitLine (text : List Char) : lineSeparator ∉ (splitLine text).1 := by
  induction text with
  | nil => exact List.not_mem_nil
  | cons char rest inductionHypothesis =>
    unfold splitLine
    split
    · exact List.not_mem_nil
    · rename_i other
      rw [List.mem_cons, not_or]
      exact ⟨Ne.symm other, inductionHypothesis⟩

/-- A line that ends at a separator, the separator and what is left are the whole text. -/
theorem splitLine_of_mem {text : List Char} (member : lineSeparator ∈ text) :
    text = (splitLine text).1 ++ lineSeparator :: (splitLine text).2 := by
  induction text with
  | nil => cases member
  | cons char rest inductionHypothesis =>
    unfold splitLine
    by_cases separator : char = lineSeparator
    · rw [if_pos separator, separator]
      rfl
    · have later : lineSeparator ∈ rest :=
        (List.mem_cons.mp member).resolve_left (Ne.symm separator)
      rw [if_neg separator]
      exact congrArg (List.cons char) (inductionHypothesis later)

/-- The lines one after the other, each with its separator. -/
def ended (lines : List (List Char)) : List Char := lines.flatMap (· ++ [lineSeparator])

theorem ended_concat (lines : List (List Char)) (line : List Char) :
    ended (lines ++ [line]) = ended lines ++ (line ++ [lineSeparator]) := by
  simp [ended]

/-- The lines with separators between them: the last one has none behind it. -/
theorem intercalate_concat (lines : List (List Char)) (line : List Char) :
    [lineSeparator].intercalate (lines ++ [line]) = ended lines ++ line := by
  induction lines with
  | nil => simp [ended]
  | cons first rest inductionHypothesis =>
    rw [List.cons_append, List.intercalate_cons_of_ne_nil (by simp), inductionHypothesis]
    simp [ended]

theorem getLast?_ended {lines : List (List Char)} (drawn : ended lines ≠ []) :
    (ended lines).getLast? = some lineSeparator := by
  rcases List.eq_nil_or_concat lines with rfl | ⟨front, line, rfl⟩
  · exact absurd rfl drawn
  · rw [List.concat_eq_append, ended_concat, ← List.append_assoc]
    exact List.getLast?_concat

/-! ### Drawing from a buffer -/

namespace Buffer

theorem exhausted_iff (buffer : Buffer) : buffer.exhausted = true ↔ buffer.remaining = [] :=
  List.isEmpty_iff

/-- An exhausted buffer gives the empty line and stays as it is. -/
theorem nextLine_of_exhausted {buffer : Buffer} (exhausted : buffer.exhausted = true) :
    buffer.nextLine = ([], buffer) := by
  obtain ⟨whole, remaining⟩ := buffer
  obtain rfl : remaining = [] := (exhausted_iff _).mp exhausted
  rfl

theorem nextLine_length_lt {buffer : Buffer} (left : buffer.exhausted = false) :
    buffer.nextLine.2.remaining.length < buffer.remaining.length := by
  refine splitLine_rest_length_lt fun empty => ?_
  rw [(exhausted_iff buffer).mpr empty] at left
  cases left

end Buffer

/-- What can be asked of a buffer. -/
inductive Request where
  | nextLine
  | reload
  deriving Repr, DecidableEq

/-- A buffer, with the lines that it gave since it was last full, each while something was
left. -/
structure Drawn where
  buffer : Buffer
  lines : List (List Char)
  deriving Repr, DecidableEq

namespace Drawn

/-- Nothing was drawn from the buffer of a script. -/
def ofText (text : List Char) : Drawn := ⟨.ofText text, []⟩

/-- The next line is drawn. The line that an exhausted buffer gives does not count. -/
def nextLine (drawn : Drawn) : Drawn where
  buffer := drawn.buffer.nextLine.2
  lines := if drawn.buffer.exhausted then drawn.lines else drawn.lines ++ [drawn.buffer.nextLine.1]

/-- The buffer after a request, and the lines drawn. -/
def after (drawn : Drawn) : Request → Drawn
  | .nextLine => drawn.nextLine
  | .reload => ⟨drawn.buffer.reload, []⟩

/-- The buffer after requests, and the lines drawn. -/
def afterAll (drawn : Drawn) (requests : List Request) : Drawn := requests.foldl after drawn

/-- The lines drawn and what is left make up the whole text. -/
structure Accounts (text : List Char) (drawn : Drawn) : Prop where
  whole : drawn.buffer.whole = text
  /-- Each line is a line. -/
  lines : ∀ line ∈ drawn.lines, lineSeparator ∉ line
  /-- Every line has its separator, or the last one has none because the text ends with it. -/
  parts : text = ended drawn.lines ++ drawn.buffer.remaining ∨
    drawn.buffer.exhausted = true ∧ text.getLast? ≠ some lineSeparator ∧
      text = [lineSeparator].intercalate drawn.lines

namespace Accounts

variable {text : List Char} {drawn : Drawn}

theorem ofText (text : List Char) : Accounts text (Drawn.ofText text) :=
  ⟨rfl, List.forall_mem_nil _, Or.inl rfl⟩

theorem reload (accounts : Accounts text drawn) : Accounts text (drawn.after .reload) where
  whole := accounts.whole
  lines := List.forall_mem_nil _
  parts := Or.inl accounts.whole.symm

/-- While something is left, every line drawn has its separator. -/
theorem parts_of_left (accounts : Accounts text drawn) (left : drawn.buffer.exhausted = false) :
    text = ended drawn.lines ++ drawn.buffer.remaining := by
  rcases accounts.parts with separated | ⟨exhausted, _⟩
  · exact separated
  · rw [left] at exhausted
    cases exhausted

theorem nextLine (accounts : Accounts text drawn) : Accounts text (drawn.after .nextLine) := by
  cases left : drawn.buffer.exhausted with
  | true =>
    have same : drawn.after .nextLine = drawn := by
      show Drawn.nextLine drawn = drawn
      rw [Drawn.nextLine, Buffer.nextLine_of_exhausted left, if_pos left]
    rw [same]
    exact accounts
  | false =>
    have whole := accounts.parts_of_left left
    have drawnLines : (drawn.after .nextLine).lines = drawn.lines ++ [drawn.buffer.nextLine.1] :=
      if_neg (by rw [left]; exact Bool.false_ne_true)
    refine ⟨accounts.whole, ?_, ?_⟩
    · rw [drawnLines]
      exact List.forall_mem_append.mpr ⟨accounts.lines,
        List.forall_mem_singleton.mpr (not_mem_splitLine drawn.buffer.remaining)⟩
    · rw [drawnLines]
      by_cases member : lineSeparator ∈ drawn.buffer.remaining
      · refine Or.inl ?_
        rw [ended_concat, List.append_assoc, List.append_assoc]
        exact whole.trans (congrArg _ (splitLine_of_mem member))
      · -- The last line has no separator, and the text ends with it.
        have cut : splitLine drawn.buffer.remaining = (drawn.buffer.remaining, []) :=
          splitLine_of_not_mem member
        have line : drawn.buffer.nextLine.1 = drawn.buffer.remaining := congrArg Prod.fst cut
        have nothing : drawn.buffer.nextLine.2.remaining = [] := congrArg Prod.snd cut
        refine Or.inr ⟨(Buffer.exhausted_iff _).mpr nothing, fun last => member ?_, ?_⟩
        · have something : drawn.buffer.remaining ≠ [] := fun empty => by
            rw [(Buffer.exhausted_iff _).mpr empty] at left
            cases left
          rw [whole, List.getLast?_append_of_ne_nil _ something] at last
          exact List.mem_of_getLast? last
        · rw [line, intercalate_concat]
          exact whole

theorem after (accounts : Accounts text drawn) (request : Request) :
    Accounts text (drawn.after request) := by
  cases request with
  | nextLine => exact accounts.nextLine
  | reload => exact accounts.reload

theorem afterAll (accounts : Accounts text drawn) (requests : List Request) :
    Accounts text (drawn.afterAll requests) := by
  induction requests generalizing drawn with
  | nil => exact accounts
  | cons request rest inductionHypothesis => exact inductionHypothesis (accounts.after request)

/-- What is left begins at the start of the text, behind a separator, or at the end. -/
theorem suffix (accounts : Accounts text drawn) :
    ∃ front, text = front ++ drawn.buffer.remaining ∧
      (front = [] ∨ front.getLast? = some lineSeparator ∨ drawn.buffer.remaining = []) := by
  rcases accounts.parts with separated | ⟨exhausted, _⟩
  · refine ⟨ended drawn.lines, separated, ?_⟩
    by_cases first : ended drawn.lines = []
    · exact Or.inl first
    · exact Or.inr (Or.inl (getLast?_ended first))
  · have nothing := (Buffer.exhausted_iff _).mp exhausted
    exact ⟨text, by rw [nothing, List.append_nil], Or.inr (Or.inr nothing)⟩

end Accounts

end Drawn

/-- Whatever is asked of the buffer of a text, and in whatever order: it keeps the whole text; what
is left is the end of it from its start, from behind a separator, or from its very end; the lines
drawn since it was last full and what is left make up the text; and while something is left the
next line shortens it, while an exhausted buffer gives the empty line and stays as it is. -/
theorem drawn_accounts (text : List Char) (requests : List Request) :
    let drawn := (Drawn.ofText text).afterAll requests
    let buffer := drawn.buffer
    buffer.whole = text ∧
      (∃ front, text = front ++ buffer.remaining ∧
        (front = [] ∨ front.getLast? = some lineSeparator ∨ buffer.remaining = [])) ∧
      (∀ line ∈ drawn.lines, lineSeparator ∉ line) ∧
      (text = drawn.lines.flatMap (· ++ [lineSeparator]) ++ buffer.remaining ∨
        buffer.exhausted = true ∧ text.getLast? ≠ some lineSeparator ∧
          text = [lineSeparator].intercalate drawn.lines) ∧
      (buffer.exhausted = false →
        buffer.nextLine.2.remaining.length < buffer.remaining.length) ∧
      (buffer.exhausted = true → buffer.nextLine = ([], buffer)) := by
  intro drawn buffer
  have accounts : Drawn.Accounts text drawn := (Drawn.Accounts.ofText text).afterAll requests
  exact ⟨accounts.whole, accounts.suffix, accounts.lines, accounts.parts,
    Buffer.nextLine_length_lt, Buffer.nextLine_of_exhausted⟩

end KeyFeed.Script
