/-
This file holds the part of a script that is still to be sent. Taking a line
shortens the rest by the line and its separator, and reloading restores the whole
script, which is kept beside it.
-/

namespace KeyFeed.Script

/-- The character between two lines. -/
def lineSeparator : Char := '\n'

/-- The text up to the first separator, and the text after it. Without a separator the first
part is the whole text. -/
def splitLine : List Char → List Char × List Char
  | [] => ([], [])
  | char :: rest =>
    if char = lineSeparator then ([], rest)
    else
      let split := splitLine rest
      (char :: split.1, split.2)

/-- A script and the part of it that is left. -/
structure Buffer where
  whole : List Char
  remaining : List Char
  deriving Repr, DecidableEq

namespace Buffer

/-- The buffer of a script of which nothing is sent. -/
def ofText (text : List Char) : Buffer := ⟨text, text⟩

/-- Nothing is left. -/
def exhausted (buffer : Buffer) : Bool := buffer.remaining.isEmpty

/-- The next line without its separator, and the buffer after it. -/
def nextLine (buffer : Buffer) : List Char × Buffer :=
  let split := splitLine buffer.remaining
  (split.1, { buffer with remaining := split.2 })

/-- The buffer with the whole script left again. -/
def reload (buffer : Buffer) : Buffer := { buffer with remaining := buffer.whole }

end Buffer

theorem splitLine_rest_length_le (text : List Char) : (splitLine text).2.length ≤ text.length := by
  induction text with
  | nil => exact Nat.le_refl _
  | cons char rest inductionHypothesis =>
    unfold splitLine
    split
    · simp
    · simp only [List.length_cons]
      omega

/-- What is left after a line of a text that is not empty is shorter than the text. -/
theorem splitLine_rest_length_lt {text : List Char} (nonempty : text ≠ []) :
    (splitLine text).2.length < text.length := by
  cases text with
  | nil => exact absurd rfl nonempty
  | cons char rest =>
    unfold splitLine
    split
    · simp
    · have shorter := splitLine_rest_length_le rest
      simp only [List.length_cons]
      omega

end KeyFeed.Script
