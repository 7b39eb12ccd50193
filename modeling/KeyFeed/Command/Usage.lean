/-
This file holds the texts of the command line: the usage lines, the help text with
the ports of the machine, and usage errors. When the end of the help text names
the program by a percent field, that end is a template and is filled in.
-/

import KeyFeed.Command.Arguments
import KeyFeed.Link.PortList
import KeyFeed.Text.Template

namespace KeyFeed.Command

open KeyFeed.Text

/-- The name of the program. -/
def programName : String := "keyat"

/-- The usage lines. -/
def usage : String :=
  "usage: keyat [-h] [--char-delay MS] [--read-timeout MS] [--encoding ENCODING]\n" ++
  "             [--no-interactive] [-v]\n" ++
  "             port baud data_bits parity stop_bits handshake [file] [repeat]\n"

/-- The text after the usage lines on a usage error. -/
def UsageError.report (error : UsageError) : String :=
  usage ++ s!"{programName}: error: {error.message}\n"

/-- The help text between the usage lines and its end. -/
def description : List String :=
  ["",
    "Paced script sender and terminal for the L3 KeyAT RS-232 to PS/2 keyboard adapter.",
    "",
    "positional arguments:",
    "  port                 serial port (COM3, /dev/ttyUSB0) or pyserial URL",
    "  baud                 baud rate",
    "  data_bits            data bits (5-8)",
    "  parity               parity name",
    "  stop_bits            stop bits name",
    "  handshake            handshake name",
    "  file                 script file to send before interactive mode",
    "  repeat               any value (e.g. REPEAT) repeats the file forever",
    "",
    "options:",
    "  -h, --help           show this help message and exit",
    "  --char-delay MS      pause after each script character (default 42)",
    "  --read-timeout MS    echo read timeout (default 500)",
    "  --encoding ENCODING  encoding for sent text; unencodable characters become",
    "                       '?' (default ascii)",
    "  --no-interactive     exit after sending the file instead of forwarding",
    "                       keystrokes",
    "  -v, --verbose        debug logging",
    ""]

/-- The lines for the ports at the end of the help text. -/
def portLines (ports : List Link.PortInfo) : List String :=
  if ports.isEmpty then ["   (none found)"] else ports.map fun info => "   " ++ info.describe

/-- The end of the help text, as it is before a template is filled in. -/
def closing (ports : List Link.PortInfo) : List String :=
  ["example: COM3 9600 8 None 1 None sample.txt REPEAT", "", "Available ports:"] ++
    portLines ports ++
    ["",
      "Baud: 300, 600, 1200, 2400, 4800, 9600, 19200, 38400, 57600, etc.",
      "DataBits: 8 or 7",
      "Parity: None, Odd, Even, Mark, Space",
      "StopBits: One, OnePointFive, Two",
      "Handshake: None, XOnXOff, RequestToSend, RequestToSendXOnXOff",
      "",
      "Script directives:",
      "   ~I      send CR after the line (immediate mode)",
      "   ~Z<n>   send CR, then wait n+1 seconds while the adapter sleeps",
      "   ;...    comment line, not typed (directives still apply)"]

/-- The field that makes the end of the help text a template. -/
def programField : List Char := "%(prog)".toList

/-- The entries that the template may name. -/
def programEntries : Entries := [("prog".toList, programName.toList)]

/-- A text filled in if it names the program, and else as it is. -/
def fillIn (text : List Char) : Except TemplateFlaw (List Char) :=
  if Link.contains programField text then fillTemplate programEntries text else .ok text

/-- Line feeds in front of a text, at most two of those that are there. -/
def capFeeds : (feeds : Nat) → List Char → List Char
  | _, [] => []
  | feeds, char :: rest =>
    if char = '\n' then
      if feeds < 2 then char :: capFeeds (feeds + 1) rest else capFeeds feeds rest
    else char :: capFeeds 0 rest

/-- The text without line feeds at its ends and with at most one empty line in a row, ended by a
line feed. -/
def tidy (text : List Char) : List Char := trim (· = '\n') (capFeeds 0 text) ++ ['\n']

/-- The help text. -/
def help (ports : List Link.PortInfo) : Except TemplateFlaw String :=
  (fillIn ("\n".intercalate (closing ports)).toList).map fun filled =>
    String.ofList (tidy (usage.toList ++ ("\n".intercalate description).toList ++
      ['\n'] ++ filled))

end KeyFeed.Command
