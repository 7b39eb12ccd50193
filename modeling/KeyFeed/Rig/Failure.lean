/-
This file holds the causes for which an activity ends early. Some come from the
surroundings: the port, the console, the clock and the user. The others arise in
the program, and each keeps what its message needs.
-/

import KeyFeed.Charset.Name
import KeyFeed.Link.Settings
import KeyFeed.Script.Directive
import KeyFeed.Script.Source
import KeyFeed.Text.Template

namespace KeyFeed

open KeyFeed.Script KeyFeed.Text

/-- Why a link that was open cannot be used. -/
inductive LinkFault where
  /-- There is no port any more. -/
  | notOpen (port : String)
  /-- Writing failed for the reason. -/
  | writing (reason : String)
  /-- Reading failed for the reason. -/
  | reading (reason : String)
  /-- Somebody else reports a fault of the link. -/
  | reported (message : String)
  deriving Repr, DecidableEq

/-- The message of a fault. -/
def LinkFault.message : LinkFault → String
  | notOpen port => s!"{port} is not open"
  | writing reason => s!"write failed: {reason}"
  | reading reason => s!"read failed: {reason}"
  | reported message => message

/-- A cause for which an activity ends early. -/
inductive Failure where
  /-- The transport fails. -/
  | transport (message : String)
  /-- The transport takes too long. -/
  | transportTimeout (message : String)
  /-- A call to the system fails. -/
  | system (message : String)
  /-- The terminal refuses a setting. -/
  | terminal (message : String)
  /-- The surroundings refuse a value. -/
  | value (message : String)
  /-- Something else goes wrong in the surroundings. -/
  | other (message : String)
  /-- The user interrupts the program. -/
  | interrupted (message : String)
  /-- The link cannot be used any more. -/
  | link (fault : LinkFault)
  /-- The port cannot be opened. -/
  | linkUnavailable (reason port : String)
  /-- The script cannot be loaded. -/
  | source (refusal : SourceRefusal)
  /-- The directive of a line is refused. -/
  | directive (refusal : DirectiveRefusal)
  /-- The console cannot be used. -/
  | consoleUnavailable (reason : String)
  /-- The encoding of the sent text is refused. -/
  | encoding (refusal : EncodingRefusal)
  /-- The encoding of the sent text is a blank. -/
  | blankEncoding
  /-- The handshake is a blank, which does not say what to do with either flow control. -/
  | blankHandshake
  /-- The length of a pause is a blank. -/
  | blankPause
  /-- The count of stop bits cannot be shown in short. -/
  | stopBits (refusal : Link.StopBitsRefusal)
  /-- A duration is beyond the largest floating-point number. -/
  | durationTooLong
  /-- The help text cannot be filled in. -/
  | template (flaw : TemplateFlaw)
  /-- The bound on a loop that need not end was used up. -/
  | unfinished
  deriving Repr, DecidableEq

namespace Failure

/-- The message of a failure. -/
def message : Failure → String
  | transport message => message
  | transportTimeout message => message
  | system message => message
  | terminal message => message
  | value message => message
  | other message => message
  | interrupted message => message
  | link fault => fault.message
  | linkUnavailable reason _ => reason
  | source refusal => refusal.message
  | directive refusal => refusal.message
  | consoleUnavailable reason =>
    s!"interactive mode needs a console ({reason}); use --no-interactive"
  | encoding refusal => refusal.message
  | blankEncoding => "encode() argument 'encoding' must be str, not list"
  | blankHandshake => "not enough values to unpack (expected 2, got 0)"
  | blankPause => "'list' object cannot be interpreted as an integer"
  | stopBits refusal => refusal.message
  | durationTooLong => "int too large to convert to float"
  | template flaw => flaw.message
  | unfinished => "the bound is used up"

/-- The transport fails, in time or not. -/
def isTransport : Failure → Bool
  | transport _ => true
  | transportTimeout _ => true
  | _ => false

/-- A call to the system fails; the transport belongs to the system. -/
def isSystem : Failure → Bool
  | system _ => true
  | failure => failure.isTransport

/-- The failure is one by which a console is found unusable. -/
def isConsole : Failure → Bool
  | terminal _ => true
  | failure => failure.isSystem

/-- The failure is one by which a port is found unavailable. -/
def isRefusedOpening : Failure → Bool
  | value _ => true
  | failure => failure.isTransport

/-- The failure is not an interruption by the user. -/
def isOrdinary : Failure → Bool
  | interrupted _ => false
  | _ => true

end Failure

end KeyFeed
