/-
This file types lines and keys. The characters of a line that is no comment are
written one at a time with a pause after each; the directive of the line, also of
a comment, adds the terminator, and a delay adds the pause of the adapter.
-/

import KeyFeed.Clock
import KeyFeed.Link.Connection
import KeyFeed.Script.Line

namespace KeyFeed

open KeyFeed.Run KeyFeed.Script KeyFeed.Text

/-- How text is sent: the name of its encoding, and the pauses. -/
structure Sender where
  encoding : Given String := .value "ascii"
  pacing : Pacing := {}
  deriving Repr

namespace Sender

/-- The byte that ends a line at the adapter. -/
def terminator : List UInt8 := [0x0D]

/-- The bytes of a text, or why there are none. The encoding is looked up each time. -/
def bytes (sender : Sender) (text : List Char) : Except Failure (List UInt8) :=
  match sender.encoding with
  | .value name =>
    match Charset.find name with
    | .error refusal => .error (.encoding refusal)
    | .ok charset => .ok (charset.encode text)
  | .blank => .error .blankEncoding

/-- Finds the bytes of a text. -/
def encode (sender : Sender) (text : List Char) : Run (List UInt8) := resume (sender.bytes text)

/-- Writes a key without a pause. -/
def sendKey (sender : Sender) (key : Key) : Run Unit := do
  Link.write (← sender.encode key)

/-- Writes characters one at a time, with a pause after each. -/
def typeCharacters (sender : Sender) : List Char → Run Unit
  | [] => pure ()
  | char :: rest => do
    Link.write (← sender.encode [char])
    Clock.pause sender.pacing.perCharacter
    typeCharacters sender rest

/-- Does what a directive asks for: sends the terminator, and waits if the adapter pauses. -/
def obey (sender : Sender) (directive : Directive) : Run Unit := do
  Link.write terminator
  if directive.needsSettle then Clock.settle sender.pacing directive.seconds

/-- The record of a directive that fires in a line. -/
def directiveNote (line : List Char) (directive : Directive) : String :=
  s!"Directive {directive.kind.title} in {String.ofList (quoted line)}"

/-- Sends a line of a script. The result is the directive that fired. -/
def sendLine (sender : Sender) (raw : List Char) : Run (Option Directive) := do
  let line := clean raw
  sender.typeCharacters (typed line)
  match ← orFail (fun refusal => .directive refusal) (scan line) with
  | none => return none
  | some directive => do
    log .debug (directiveNote line directive)
    sender.obey directive
    return some directive

end Sender

end KeyFeed
