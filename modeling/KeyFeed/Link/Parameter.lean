/-
This file reads the names of the framing and flow control settings. Blanks around
a name and the case of its letters do not matter.
-/

import KeyFeed.Link.StopBits
import KeyFeed.Number.Whole

namespace KeyFeed.Link

open KeyFeed.Text KeyFeed.Number

/-- The parity bit of a character. -/
inductive Parity where
  | none
  | odd
  | even
  | mark
  | space
  deriving Repr, DecidableEq

/-- The letter of a parity. -/
def Parity.letter : Parity → String
  | none => "N"
  | odd => "O"
  | even => "E"
  | mark => "M"
  | space => "S"

/-- The flow control of a link. -/
structure Handshake where
  software : Bool
  hardware : Bool
  deriving Repr, DecidableEq

/-- Why a setting is refused, with the text that was given for it. -/
inductive ParameterRefusal where
  | unknownParity (name : String)
  | unknownStopBits (name : String)
  | unknownHandshake (name : String)
  | dataBitsNotWhole (text : String)
  | dataBitsOutOfRange
  deriving Repr, DecidableEq

/-- The message of a refusal. -/
def ParameterRefusal.message : ParameterRefusal → String
  | unknownParity name => s!"unknown parity '{name}'"
  | unknownStopBits name => s!"unknown stop bits '{name}'"
  | unknownHandshake name => s!"unknown handshake '{name}'"
  | dataBitsNotWhole text => s!"data bits must be a number, got '{text}'"
  | dataBitsOutOfRange => "data bits must be one of 5, 6, 7, 8"

/-- The form in which names are compared. -/
def plainName (name : String) : String :=
  String.ofList ((trim isBlank name.toList).map lowerToAscii)

/-- Looks a name up, or refuses it. -/
def named {Value : Type} (table : List (String × Value)) (refusal : String → ParameterRefusal)
    (name : String) : Except ParameterRefusal Value :=
  match table.lookup (plainName name) with
  | some value => .ok value
  | Option.none => .error (refusal name)

/-- Reads the name of a parity. -/
def readParity : String → Except ParameterRefusal Parity :=
  named [("none", .none), ("odd", .odd), ("even", .even), ("mark", .mark), ("space", .space)]
    .unknownParity

/-- Reads the name or the number of stop bits. -/
def readStopBits : String → Except ParameterRefusal StopBits :=
  named [("one", .one), ("1", .one), ("onepointfive", .onePointFive), ("1.5", .onePointFive),
    ("two", .two), ("2", .two)] .unknownStopBits

/-- Reads the name of a handshake. -/
def readHandshake : String → Except ParameterRefusal Handshake :=
  named [("none", ⟨false, false⟩), ("xonxoff", ⟨true, false⟩), ("requesttosend", ⟨false, true⟩),
    ("requesttosendxonxoff", ⟨true, true⟩)] .unknownHandshake

/-- Reads the count of data bits. -/
def readDataBits (text : String) : Except ParameterRefusal Nat :=
  match readWhole text.toList with
  | .error _ => .error (.dataBitsNotWhole text)
  | .ok value =>
    if 5 ≤ value ∧ value ≤ 8 then .ok value.toNat else .error .dataBitsOutOfRange

end KeyFeed.Link
