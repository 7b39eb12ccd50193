/-
This file reads UTF-8. A lead byte fixes how many bytes follow it and in which
ranges they lie, which rules out overlong forms, surrogates and codes beyond the
last one. The first byte that does not fit ends the reading with a report of the
bytes that did.
-/

import KeyFeed.Charset.Encode
import KeyFeed.Text.Quoted

namespace KeyFeed.Utf8

/-- What is wrong where a reading ends early. -/
inductive Flaw where
  | invalidStart
  | invalidContinuation
  | unexpectedEnd
  deriving Repr, DecidableEq

/-- A flaw, with the position and the bytes of the longest part of a sequence that is valid. A
byte that starts no sequence is reported itself. -/
structure Report where
  flaw : Flaw
  position : Nat
  lead : UInt8
  length : Nat
  deriving Repr, DecidableEq

/-- The name of a flaw. -/
def Flaw.reason : Flaw → String
  | .invalidStart => "invalid start byte"
  | .invalidContinuation => "invalid continuation byte"
  | .unexpectedEnd => "unexpected end of data"

/-- The message of a report: one byte is shown, several are given by their positions. -/
def Report.message (report : Report) : String :=
  if report.length = 1 then
    let shown := String.ofList (Text.hexDigits 2 report.lead.toNat)
    s!"'utf-8' codec can't decode byte 0x{shown} in position {report.position}: " ++
      report.flaw.reason
  else
    let last := report.position + report.length - 1
    s!"'utf-8' codec can't decode bytes in position {report.position}-{last}: " ++
      report.flaw.reason

/-- The range of a byte that continues a sequence. -/
def anyContinuation : Nat × Nat := (0x80, 0xBF)

/-- The ranges of the bytes that follow a lead byte; nothing for a byte that starts no
sequence. -/
def following (lead : Nat) : Option (List (Nat × Nat)) :=
  if lead < 0x80 then some []
  else if lead < 0xC2 then none
  else if lead < 0xE0 then some [anyContinuation]
  else if lead = 0xE0 then some [(0xA0, 0xBF), anyContinuation]
  else if lead = 0xED then some [(0x80, 0x9F), anyContinuation]
  else if lead < 0xF0 then some [anyContinuation, anyContinuation]
  else if lead = 0xF0 then some [(0x90, 0xBF), anyContinuation, anyContinuation]
  else if lead < 0xF4 then some [anyContinuation, anyContinuation, anyContinuation]
  else if lead = 0xF4 then some [(0x80, 0x8F), anyContinuation, anyContinuation]
  else none

/-- The bits that a lead byte gives to the code, by the count of the bytes that follow it. -/
def leadBits (lead : Nat) : (count : Nat) → Nat
  | 0 => lead
  | 1 => lead % 32
  | 2 => lead % 16
  | _ => lead % 8

/-- How the bytes after a lead byte were read. -/
inductive Sequence where
  /-- All of them fit, and the sequence has this code. -/
  | complete (code : Nat)
  /-- A byte does not fit after so many that do. -/
  | broken (flaw : Flaw) (fitting : Nat)
  deriving Repr, DecidableEq

/-- Reads the bytes that continue a sequence into the code. -/
def follow : (ranges : List (Nat × Nat)) → (code fitting : Nat) → List UInt8 → Sequence
  | [], code, _, _ => .complete code
  | _ :: _, _, fitting, [] => .broken .unexpectedEnd fitting
  | range :: ranges, code, fitting, byte :: rest =>
    if range.1 ≤ byte.toNat ∧ byte.toNat ≤ range.2 then
      follow ranges (64 * code + byte.toNat % 64) (fitting + 1) rest
    else .broken .invalidContinuation fitting

/-- Reads a text from the bytes that start at a position. -/
def decodeFrom (position : Nat) (bytes : List UInt8) : Except Report (List Char) :=
  match bytes with
  | [] => .ok []
  | lead :: rest =>
    match following lead.toNat with
    | none => .error ⟨.invalidStart, position, lead, 1⟩
    | some ranges =>
      match follow ranges (leadBits lead.toNat ranges.length) 1 rest with
      | .broken flaw fitting => .error ⟨flaw, position, lead, fitting⟩
      | .complete code =>
        (decodeFrom (position + 1 + ranges.length) (rest.drop ranges.length)).map
          (Char.ofNat code :: ·)
termination_by bytes.length
decreasing_by simp only [List.length_drop, List.length_cons]; omega

/-- Reads a text from all the bytes. -/
def decode (bytes : List UInt8) : Except Report (List Char) := decodeFrom 0 bytes

/-- The bytes of a text. -/
def encode (text : List Char) : List UInt8 := Charset.utf8.encode text

/-- The byte order mark. -/
def mark : List UInt8 := Charset.utf8Bytes 0xFEFF

/-- Reads a text that may begin with a byte order mark, which is dropped once. Bytes that are
only the beginning of a mark are read as nothing. -/
def decodeMarked (bytes : List UInt8) : Except Report (List Char) :=
  if bytes.length < mark.length ∧ bytes.isPrefixOf mark then .ok []
  else if mark.isPrefixOf bytes then decode (bytes.drop mark.length)
  else decode bytes

end KeyFeed.Utf8
