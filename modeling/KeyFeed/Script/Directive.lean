/-
This file finds the directive of a script line. The immediate marker may stand
anywhere in a line and wins over the delay marker; after the first delay marker
the rest of the line must be a whole number of seconds of at most one day.
-/

import KeyFeed.Number.Whole

namespace KeyFeed.Script

open KeyFeed.Text KeyFeed.Number

/-- What a directive asks for. -/
inductive DirectiveKind where
  /-- Send the terminator. -/
  | immediate
  /-- Send the terminator and wait for the adapter. -/
  | delay
  deriving Repr, DecidableEq

/-- A directive of a script line. Only a delay uses the seconds. -/
structure Directive where
  kind : DirectiveKind
  seconds : Int
  deriving Repr, DecidableEq

/-- The word for a kind. -/
def DirectiveKind.word : DirectiveKind → String
  | .immediate => "immediate"
  | .delay => "delay"

/-- The word for a kind in a message, in capitals. -/
def DirectiveKind.title : DirectiveKind → String
  | .immediate => "IMMEDIATE"
  | .delay => "DELAY"

/-- The kind that a word stands for. -/
def DirectiveKind.ofWord? (word : String) : Option DirectiveKind :=
  [DirectiveKind.immediate, .delay].find? (·.word == word)

/-- A word stands for the kind whose word it is, and for no other. -/
theorem DirectiveKind.ofWord?_eq_some_iff {word : String} {kind : DirectiveKind} :
    DirectiveKind.ofWord? word = some kind ↔ kind.word = word := by
  constructor
  · intro found
    have matched : (kind.word == word) = true :=
      List.find?_some (p := fun kind : DirectiveKind => kind.word == word) found
    exact beq_iff_eq.mp matched
  · rintro rfl
    cases kind <;> rfl

/-- A word that no kind has stands for none. -/
theorem DirectiveKind.ofWord?_eq_none_iff {word : String} :
    DirectiveKind.ofWord? word = none ↔ ∀ kind : DirectiveKind, kind.word ≠ word := by
  rw [Option.eq_none_iff_forall_ne_some]
  exact forall_congr' fun kind => not_congr ofWord?_eq_some_iff

/-- The message about a word that stands for no kind. -/
def unknownKind (word : String) : String :=
  String.ofList (quoted word.toList) ++ " is not a valid DirectiveKind"

/-- The message shows a printable word as it stands. -/
theorem unknownKind_of_printable {word : String}
    (plain : ∀ char ∈ word.toList, char ≠ '\'' ∧ char ≠ '\\' ∧ isPrintable char = true) :
    unknownKind word =
      String.ofList ('\'' :: word.toList ++ ['\'']) ++ " is not a valid DirectiveKind" := by
  rw [unknownKind, quoted_of_printable plain]

namespace Directive

/-- The directive that only sends the terminator. -/
def immediate : Directive := ⟨.immediate, 0⟩

/-- The directive that waits for so many seconds. -/
def delay (seconds : Int) : Directive := ⟨.delay, seconds⟩

/-- The adapter pauses after the directive, so sending has to pause as well. -/
def needsSettle (directive : Directive) : Bool :=
  directive.kind = .delay ∧ 0 < directive.seconds

end Directive

/-- What is wrong with the parameter of a delay. -/
inductive DelayFlaw where
  /-- It is not a signed run of digits. -/
  | notSeconds (parameter : List Char)
  /-- It looks like a number but is not read as one. -/
  | unreadable (refusal : WholeRefusal)
  /-- It asks for more than the limit. -/
  | tooLong (seconds : Int)
  deriving Repr, DecidableEq

/-- A refused delay, with the whole line it stands in when that is known. -/
structure DirectiveRefusal where
  flaw : DelayFlaw
  line : Option (List Char)
  deriving Repr, DecidableEq

/-- The longest delay in seconds, one day. -/
def longestDelay : Nat := 24 * 60 * 60

/-- The message of a refusal. -/
def DirectiveRefusal.message (refusal : DirectiveRefusal) : String :=
  match refusal.flaw with
  | .notSeconds parameter =>
    "~Z must be followed by a number of seconds, got " ++ String.ofList (quoted parameter)
  | .unreadable reason => "~Z delay is not a usable number: " ++ reason.message
  | .tooLong seconds => s!"~Z delay of {seconds} seconds exceeds the {longestDelay} second limit"

/-- A signed run of ASCII digits with blanks around it. -/
def looksLikeSeconds (parameter : List Char) : Bool :=
  let digits := (splitSign (trim isBlank parameter)).2
  !digits.isEmpty && digits.all isAsciiDigit

/-- Reads the parameter of a delay. -/
def readDelay (parameter : List Char) (line : Option (List Char)) : Except DirectiveRefusal Int :=
  if looksLikeSeconds parameter then
    match readWhole parameter with
    | .error reason => .error ⟨.unreadable reason, line⟩
    | .ok seconds =>
      if (longestDelay : Int) < seconds then .error ⟨.tooLong seconds, line⟩ else .ok seconds
  else .error ⟨.notSeconds parameter, line⟩

/-- The marker of an immediate line. -/
def immediateMarker : List Char := ['~', 'I']

/-- The marker of a delay. -/
def delayMarker : List Char := ['~', 'Z']

/-- What follows the first occurrence of a marker in a text. -/
def after? (marker : List Char) : List Char → Option (List Char)
  | [] => none
  | char :: rest =>
    if marker.isPrefixOf (char :: rest) then some ((char :: rest).drop marker.length)
    else after? marker rest

/-- Finds the directive of a clean line. -/
def scan (line : List Char) : Except DirectiveRefusal (Option Directive) :=
  if (after? immediateMarker line).isSome then .ok (some .immediate)
  else match after? delayMarker line with
    | none => .ok none
    | some parameter => (readDelay parameter (some line)).map (some <| .delay ·)

theorem readDelay_le {parameter : List Char} {line : Option (List Char)} {seconds : Int}
    (accepted : readDelay parameter line = .ok seconds) : seconds ≤ longestDelay := by
  unfold readDelay at accepted
  split at accepted
  · split at accepted
    · cases accepted
    · split at accepted
      · cases accepted
      · rename_i short
        cases accepted
        omega
  · cases accepted

end KeyFeed.Script
