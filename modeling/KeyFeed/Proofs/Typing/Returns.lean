/-
This file says that carriage returns in a script make no difference to what is sent. They
are dropped from every line, and dropping them from the whole text before it is cut into
lines comes to the same: a return is no separator, so it moves no cut. A line that holds
nothing but returns takes no steps, nor does an empty line, so it does not matter either
that returns after the last separator make one more line of the text.
-/

import KeyFeed.Proofs.Typing.Steps

namespace KeyFeed

open KeyFeed.Run KeyFeed.Script

/-! ### Lines without returns -/

namespace Script

theorem clean_cons_return (rest : List Char) : clean ('\r' :: rest) = clean rest := by
  simp [clean]

theorem clean_cons_of_ne {char : Char} (other : char ≠ '\r') (rest : List Char) :
    clean (char :: rest) = char :: clean rest := by
  simp [clean, other]

/-- A text without its returns has the same lines as before, each without its own. -/
theorem splitOn_clean (text : List Char) :
    (clean text).splitOn lineSeparator = (text.splitOn lineSeparator).map clean := by
  induction text with
  | nil => rfl
  | cons char rest inductionHypothesis =>
    rw [List.splitOn_cons_eq_if_modifyHead]
    by_cases isReturn : char = '\r'
    · subst isReturn
      rw [clean_cons_return, inductionHypothesis, if_neg (by decide)]
      cases rest.splitOn lineSeparator with
      | nil => rfl
      | cons line lines =>
        rw [List.modifyHead_cons, List.map_cons, List.map_cons, clean_cons_return]
    · rw [clean_cons_of_ne isReturn, List.splitOn_cons_eq_if_modifyHead, inductionHypothesis]
      by_cases separates : (char == lineSeparator) = true
      · rw [if_pos separates, if_pos separates]
        rfl
      · rw [if_neg separates, if_neg separates]
        cases rest.splitOn lineSeparator with
        | nil => rfl
        | cons line lines =>
          rw [List.modifyHead_cons, List.map_cons, List.map_cons, List.modifyHead_cons,
            clean_cons_of_ne isReturn]

end Script

/-! ### The steps of a text -/

namespace Sender

variable (sender : Sender)

theorem lineSteps_clean (raw : List Char) :
    sender.lineSteps (clean raw) = sender.lineSteps raw := by
  rw [lineSteps, clean_clean, lineSteps]

theorem lineSteps_nil : sender.lineSteps [] = [] := rfl

/-- The steps of a text are those of all its lines: an empty last line, which is none of the
pieces, would take no step. -/
theorem textSteps_eq_flatMap (text : List Char) :
    sender.textSteps text = (text.splitOn lineSeparator).flatMap sender.lineSteps := by
  unfold textSteps pieces
  dsimp only
  split
  · rename_i empty
    obtain ⟨front, shape⟩ := List.getLast?_eq_some_iff.mp empty.1
    rw [shape, List.dropLast_concat, List.flatMap_append, List.flatMap_singleton, lineSteps_nil,
      List.append_nil]
  · rfl

/-- A text takes the same steps without its returns. -/
theorem textSteps_clean (text : List Char) :
    sender.textSteps (clean text) = sender.textSteps text := by
  have lines : sender.lineSteps ∘ clean = sender.lineSteps := funext sender.lineSteps_clean
  rw [textSteps_eq_flatMap, textSteps_eq_flatMap, splitOn_clean, List.flatMap_map]
  exact congrArg (fun steps => List.flatMap steps (text.splitOn lineSeparator)) lines

/-- A script that is sent once comes to the same without its returns. -/
theorem sendScript_clean (notice : PassNotice) (text : List Char) :
    sender.sendScript notice (clean text) false = sender.sendScript notice text false := by
  funext rig
  rw [sendScript_apply, sendScript_apply]
  show Step.performAll (sender.textSteps (clean text)) { rig with pass := 1 } =
    Step.performAll (sender.textSteps text) { rig with pass := 1 }
  rw [textSteps_clean]

end Sender

end KeyFeed
