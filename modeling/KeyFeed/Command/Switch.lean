/-
This file says what an argument of the command line is: a value, or one of the
switches. A switch may be shortened as long as it stays the only one that begins
so, and its value may follow an equals sign.
-/

import KeyFeed.Text.Character

namespace KeyFeed.Command

open KeyFeed.Text

/-- A switch of the command line. -/
inductive Switch where
  | help
  | charDelay
  | readTimeout
  | encoding
  | noInteractive
  | verbose
  deriving Repr, DecidableEq

namespace Switch

/-- The spellings of all switches, in the order of the help text. -/
def spellings : List (String × Switch) :=
  [("-h", help), ("--help", help), ("--char-delay", charDelay), ("--read-timeout", readTimeout),
    ("--encoding", encoding), ("--no-interactive", noInteractive), ("-v", verbose),
    ("--verbose", verbose)]

/-- A switch with all its spellings, as messages name it. -/
def title (switch : Switch) : String :=
  "/".intercalate ((spellings.filter (·.2 = switch)).map (·.1))

/-- The switch wants a value. -/
def takesValue : Switch → Bool
  | charDelay => true
  | readTimeout => true
  | encoding => true
  | _ => false

/-- The switch that is spelled so. -/
def ofSpelling? (spelling : List Char) : Option Switch := spellings.lookup (String.ofList spelling)

/-- The switches with their spellings that begin so. -/
def beginning (start : List Char) : List (String × Switch) :=
  spellings.filter fun entry => start.isPrefixOf entry.1.toList

end Switch

/-- An argument, classified. -/
inductive Argument where
  /-- A value. -/
  | value (text : String)
  /-- The mark after which all arguments are values. -/
  | separator
  /-- A switch. Attached to it may be a text, which counts as its value or, for a short
  spelling, as more short switches. -/
  | switch (switch : Switch) (isShort : Bool) (attached : Option (List Char))
  /-- It looks like a switch and is none. -/
  | unknown (text : String)
  deriving Repr, DecidableEq

/-- An argument that may be meant as more than one switch. -/
structure Ambiguity where
  text : String
  spellings : List String
  deriving Repr, DecidableEq

namespace Argument

/-- The mark after which all arguments are values. -/
def separatorText : String := "--"

/-- Digits alone, at least one. -/
def isDigits (text : List Char) : Bool := !text.isEmpty && text.all isDecimalDigit

/-- A minus sign and a number, with or without digits before a point; one line feed may end
the text. -/
def looksNegative (text : List Char) : Bool :=
  let line := if text.getLast? = some '\n' then text.dropLast else text
  match line with
  | '-' :: number =>
    let whole := number.takeWhile isDecimalDigit
    match number.drop whole.length with
    | [] => isDigits number
    | '.' :: places => isDigits places
    | _ => false
  | _ => false

/-- The parts of a text before and after the first equals sign. -/
def splitEquals : List Char → Option (List Char × List Char)
  | [] => none
  | char :: rest =>
    if char = '=' then some ([], rest)
    else (splitEquals rest).map fun parts => (char :: parts.1, parts.2)

/-- The second character is a minus sign too. -/
def isLong (spelling : List Char) : Bool := spelling[1]? = some '-'

/-- The ways to read a text as a switch that is shortened or has something attached. -/
def readings (text : List Char) : List (String × Argument) :=
  if isLong text then
    let parts := splitEquals text
    let start := (parts.map (·.1)).getD text
    (Switch.beginning start).map fun entry =>
      (entry.1, .switch entry.2 false (parts.map (·.2)))
  else match Switch.ofSpelling? (text.take 2) with
    | none => []
    | some found => [(String.ofList (text.take 2), .switch found true (some (text.drop 2)))]

/-- An exact spelling, alone or with a value after the equals sign. -/
def spelledOut? (text : List Char) : Option Argument :=
  match Switch.ofSpelling? text with
  | some found => some (.switch found (!isLong text) none)
  | none => do
    let (spelling, attached) ← splitEquals text
    let found ← Switch.ofSpelling? spelling
    return .switch found (!isLong spelling) (some attached)

/-- Classifies a text before any separator. -/
def classify (text : String) : Except Ambiguity Argument :=
  let chars := text.toList
  if chars.head? ≠ some '-' ∨ chars.length = 1 then .ok (.value text)
  else match spelledOut? chars with
    | some argument => .ok argument
    | none =>
      match readings chars with
      | [(_, argument)] => .ok argument
      | [] =>
        if looksNegative chars ∨ ' ' ∈ chars then .ok (.value text) else .ok (.unknown text)
      | several => .error ⟨text, several.map (·.1)⟩

/-- Classifies all arguments. -/
def classifyAll : List String → Except Ambiguity (List Argument)
  | [] => .ok []
  | text :: rest =>
    if text = separatorText then .ok (.separator :: rest.map .value)
    else do
      let argument ← classify text
      return argument :: (← classifyAll rest)

end Argument

end KeyFeed.Command
