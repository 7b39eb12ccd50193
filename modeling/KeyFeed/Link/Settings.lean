/-
This file holds the settings of the serial link: the port, the framing of a
character, flow control and the two time limits. A short form of them goes into
the log, and a full form into the debug log.
-/

import KeyFeed.Link.StopBits
import KeyFeed.Text.Quoted

namespace KeyFeed.Link

open KeyFeed.Number KeyFeed.Text

/-- The time limit for a read, in seconds, unless another one is asked for. -/
def standardReadTimeout : Float := 0.5

/-- The settings that a port is opened with. The parity is its letter, and the time limits are in
seconds; without a limit a read or a write waits as long as it takes. -/
structure Settings where
  port : String
  baud : Given Int := .value 9600
  dataBits : Given Int := .value 8
  parity : Given String := .value "N"
  stopBits : Given BitCount := .value (.whole 1)
  softwareFlow : Bool := false
  hardwareFlow : Bool := false
  readTimeout : Given (Option Float) := .value (some standardReadTimeout)
  writeTimeout : Option Float := some 0.5
  deriving Repr, BEq

namespace Settings

/-- The port, the speed and the framing in short. -/
def describe (settings : Settings) : Except StopBitsRefusal String :=
  (shortStopBits settings.stopBits).map fun stopBits =>
    s!"{settings.port} {settings.baud.text toString} {settings.dataBits.text toString}" ++
      settings.parity.text id ++ stopBits

/-- The word for a truth value in the full form. -/
def truthText (value : Bool) : String := if value then "True" else "False"

/-- A time limit in the full form. -/
def limitText : Option Float → String
  | none => "None"
  | some seconds => shortestText seconds

/-- A text in the full form. -/
def quotedText (text : String) : String := String.ofList (quoted text.toList)

/-- All settings by name. -/
def full (settings : Settings) : String :=
  "LinkSettings(" ++
    ", ".intercalate [
      "port=" ++ quotedText settings.port,
      "baudrate=" ++ settings.baud.text toString,
      "bytesize=" ++ settings.dataBits.text toString,
      "parity=" ++ settings.parity.text quotedText,
      "stopbits=" ++ settings.stopBits.text BitCount.text,
      "xonxoff=" ++ truthText settings.softwareFlow,
      "rtscts=" ++ truthText settings.hardwareFlow,
      "read_timeout=" ++ settings.readTimeout.text limitText,
      "write_timeout=" ++ limitText settings.writeTimeout] ++
    ")"

end Settings

end KeyFeed.Link
