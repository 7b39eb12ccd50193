/-
This file holds what the command line asks for, and reads the single values. A
value is read when it is met, so of two bad ones the first is reported. A blank is
taken as it is, except where a place takes a text: there it is as good as nothing.
-/

import KeyFeed.Charset.Name
import KeyFeed.Command.Switch
import KeyFeed.Link.Parameter
import KeyFeed.Link.Settings
import KeyFeed.Number.Real
import KeyFeed.Typing.Sender

namespace KeyFeed.Command

open KeyFeed.Link KeyFeed.Number KeyFeed.Text

/-- The places of the values that belong to no switch, in their order. -/
inductive Slot where
  | port
  | baud
  | dataBits
  | parity
  | stopBits
  | handshake
  | file
  | again
  deriving Repr, DecidableEq

namespace Slot

/-- All places in their order. -/
def all : List Slot := [port, baud, dataBits, parity, stopBits, handshake, file, again]

/-- The name of a place in messages. -/
def name : Slot → String
  | port => "port"
  | baud => "baud"
  | dataBits => "data_bits"
  | parity => "parity"
  | stopBits => "stop_bits"
  | handshake => "handshake"
  | file => "file"
  | again => "repeat"

/-- A value has to be given for the place. -/
def isRequired (slot : Slot) : Bool := slot ≠ file && slot ≠ again

end Slot

/-- Why a value is refused. -/
inductive ValueRefusal where
  | notWhole (refusal : WholeRefusal)
  | notPositive (number : Int)
  | parameter (refusal : ParameterRefusal)
  | notReal (text : String)
  | negative (text : String)
  | encoding (refusal : EncodingRefusal)
  /-- There is no value. -/
  | absent
  /-- The switch takes no value, and has one. -/
  | ignored (text : List Char)
  deriving Repr, DecidableEq

/-- The message of a refusal. -/
def ValueRefusal.message : ValueRefusal → String
  | notWhole refusal => refusal.message
  | notPositive number => s!"must be positive, got {number}"
  | parameter refusal => refusal.message
  | notReal text => realRefusal text.toList
  | negative text => s!"must not be negative, got {text}"
  | encoding refusal => refusal.message
  | absent => "expected one argument"
  | ignored text => "ignored explicit argument " ++ String.ofList (quoted text)

/-- Reads a baud rate. -/
def readBaud (text : String) : Except ValueRefusal Int :=
  match readWhole text.toList with
  | .error refusal => .error (.notWhole refusal)
  | .ok number => if 0 < number then .ok number else .error (.notPositive number)

/-- Reads a time in milliseconds as seconds. Only a negative number is refused. -/
def readMilliseconds (text : String) : Except ValueRefusal Float :=
  match readReal? text.toList with
  | none => .error (.notReal text)
  | some number => if number < 0 then .error (.negative text) else .ok (number / 1000)

/-- Reads the name of an encoding, which stays as it is given. -/
def readEncoding (name : String) : Except ValueRefusal String :=
  match Charset.find name with
  | .error refusal => .error (.encoding refusal)
  | .ok _ => .ok name

/-- What the command line asks for, with what is not given yet left out. -/
structure Draft where
  port : Option String := none
  baud : Option (Given Int) := none
  dataBits : Option (Given Nat) := none
  parity : Option (Given Parity) := none
  stopBits : Option (Given StopBits) := none
  handshake : Option (Given Handshake) := none
  file : Option String := none
  again : Option String := none
  charDelay : Given Float := ({} : Pacing).perCharacter
  readTimeout : Given Float := .value standardReadTimeout
  encoding : Given String := ({} : Sender).encoding
  noInteractive : Bool := false
  verbose : Bool := false

namespace Draft

/-- Takes what is given for a place. -/
def fill (draft : Draft) (slot : Slot) (given : Given String) : Except ValueRefusal Draft :=
  match slot with
  | .port => .ok { draft with port := given.value? }
  | .baud => (given.read readBaud).map fun baud => { draft with baud := some baud }
  | .dataBits => ((given.read readDataBits).mapError .parameter).map fun count =>
      { draft with dataBits := some count }
  | .parity => ((given.read readParity).mapError .parameter).map fun parity =>
      { draft with parity := some parity }
  | .stopBits => ((given.read readStopBits).mapError .parameter).map fun stopBits =>
      { draft with stopBits := some stopBits }
  | .handshake => ((given.read readHandshake).mapError .parameter).map fun handshake =>
      { draft with handshake := some handshake }
  | .file => .ok { draft with file := given.value? }
  | .again => .ok { draft with again := given.value? }

/-- Takes what is given for a switch that wants a value. -/
def turn (draft : Draft) (switch : Switch) (given : Given String) : Except ValueRefusal Draft :=
  match switch with
  | .charDelay =>
    (given.read readMilliseconds).map fun seconds => { draft with charDelay := seconds }
  | .readTimeout =>
    (given.read readMilliseconds).map fun seconds => { draft with readTimeout := seconds }
  | .encoding => (given.read readEncoding).map fun name => { draft with encoding := name }
  | _ => .ok draft

/-- Takes a switch without a value. -/
def turnOn (draft : Draft) (switch : Switch) : Draft :=
  match switch with
  | .noInteractive => { draft with noInteractive := true }
  | .verbose => { draft with verbose := true }
  | _ => draft

end Draft

/-- What the command line asks for. -/
structure Options where
  port : String
  baud : Given Int
  dataBits : Given Nat
  parity : Given Parity
  stopBits : Given StopBits
  handshake : Given Handshake
  readTimeout : Given Float
  sender : Sender
  file : Option String
  again : Option String
  noInteractive : Bool
  verbose : Bool
  deriving Repr

/-- The options of a draft to which nothing that has to be given is missing. -/
def Draft.complete? (draft : Draft) : Option Options := do
  return {
    port := ← draft.port
    baud := ← draft.baud
    dataBits := ← draft.dataBits
    parity := ← draft.parity
    stopBits := ← draft.stopBits
    handshake := ← draft.handshake
    readTimeout := draft.readTimeout
    sender := { encoding := draft.encoding, pacing := { perCharacter := draft.charDelay } }
    file := draft.file
    again := draft.again
    noInteractive := draft.noInteractive
    verbose := draft.verbose }

/-- The settings of the link. There are none when the handshake is a blank. -/
def Options.settings? (options : Options) : Option Settings :=
  options.handshake.value?.map fun handshake => {
    port := options.port
    baud := options.baud
    dataBits := options.dataBits.map Int.ofNat
    parity := options.parity.map Parity.letter
    stopBits := options.stopBits.map StopBits.count
    softwareFlow := handshake.software
    hardwareFlow := handshake.hardware
    readTimeout := options.readTimeout.map some }

end KeyFeed.Command
