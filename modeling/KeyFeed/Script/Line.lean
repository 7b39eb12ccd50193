/-
This file cleans the lines of a script. A script may come from a system that ends
its lines with a carriage return, and edited scripts carry returns inside lines
too, so every return is dropped. A line whose first character is a semicolon is a
comment.
-/

namespace KeyFeed.Script

/-- The character that begins a comment. -/
def commentMark : Char := ';'

/-- A line without its carriage returns. -/
def clean (line : List Char) : List Char := line.filter (· ≠ '\r')

/-- The first character of the line is the comment mark. -/
def isComment (line : List Char) : Bool := line.head? == some commentMark

/-- The characters of a clean line that are typed: none of a comment, else all. -/
def typed (line : List Char) : List Char := if isComment line then [] else line

theorem not_mem_clean (line : List Char) : '\r' ∉ clean line := by
  simp [clean]

/-- Cleaning changes nothing in a line that has no carriage return. -/
theorem clean_of_not_mem {line : List Char} (absent : '\r' ∉ line) : clean line = line := by
  simp only [clean, List.filter_eq_self]
  intro char member
  simp only [decide_eq_true_eq]
  rintro rfl
  exact absent member

theorem clean_clean (line : List Char) : clean (clean line) = clean line :=
  clean_of_not_mem (not_mem_clean line)

end KeyFeed.Script
