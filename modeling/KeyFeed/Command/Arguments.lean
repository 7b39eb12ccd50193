/-
This file reads a command line. A run of values fills the places that are still
empty; once the required ones are filled, the optional ones are closed as well,
so that a value after a later switch belongs to nothing. Arguments that belong to
nothing are reported at the end, and the first bad value at once. The separator in
the place of a value is a blank, unless the separator proper stands before it.
-/

import KeyFeed.Command.Options

namespace KeyFeed.Command

/-- Why a command line is refused. -/
inductive UsageError where
  | ambiguous (ambiguity : Ambiguity)
  /-- The value for a place or of a switch is bad. -/
  | badValue (name : String) (refusal : ValueRefusal)
  /-- Nothing is given for the named places. -/
  | missing (names : List String)
  /-- The texts belong to nothing. -/
  | unrecognized (texts : List String)
  deriving Repr, DecidableEq

/-- The message of a refusal. -/
def UsageError.message : UsageError → String
  | ambiguous ambiguity =>
    s!"ambiguous option: {ambiguity.text} could match " ++ ", ".intercalate ambiguity.spellings
  | badValue name refusal => s!"argument {name}: {refusal.message}"
  | missing names => "the following arguments are required: " ++ ", ".intercalate names
  | unrecognized texts => "unrecognized arguments: " ++ " ".intercalate texts

/-- Why reading a command line ends before its end. -/
inductive Stop where
  /-- The help text is wanted. -/
  | help
  | refused (error : UsageError)
  deriving Repr, DecidableEq

/-- What the argument before means for the next one. -/
inductive Expectation where
  | nothing
  /-- The argument before has filled a place. A separator that follows belongs to it. -/
  | afterFilled
  /-- The argument before is a separator, which belongs to the value that follows. -/
  | afterSeparator
  /-- The switch before wants its value. -/
  | valueOf (switch : Switch)
  deriving Repr, DecidableEq

/-- A command line of which a part is read: what it asks for so far, the places that are still
open, the texts that belong to nothing, and what is expected next. -/
structure Reading where
  draft : Draft
  slots : List Slot
  extras : List String
  expects : Expectation

/-- The short switches that follow one of them in the same argument. -/
def bundled (switch : Switch) : List Char → Except Stop (List Switch)
  | [] => .ok [switch]
  | char :: rest =>
    match Switch.ofSpelling? ['-', char] with
    | none => .error (.refused (.badValue switch.title (.ignored (char :: rest))))
    | some next => (bundled next rest).map (switch :: ·)

/-- The switches of an argument whose first one takes no value. -/
def switches (switch : Switch) (isShort : Bool) : Option (List Char) → Except Stop (List Switch)
  | none => .ok [switch]
  | some attached =>
    if isShort && !attached.isEmpty then bundled switch attached
    else .error (.refused (.badValue switch.title (.ignored attached)))

namespace Reading

/-- Nothing is read yet. -/
def fresh : Reading := ⟨{}, Slot.all, [], .nothing⟩

/-- What a text in the place of a value gives. The argument parser is the one of release 3.11.2,
which drops a separator also where it is attached to a switch; later releases hand it over. -/
def given (text : String) (separated : Bool) : Given String :=
  if text = Argument.separatorText ∧ !separated then .blank else .value text

/-- Takes a value for the next place, or sets it aside. -/
def takeValue (reading : Reading) (text : String) (separated : Bool) : Except Stop Reading :=
  match reading.slots with
  | [] =>
    let extras := if separated then [Argument.separatorText, text] else [text]
    .ok { reading with extras := reading.extras ++ extras, expects := .nothing }
  | slot :: slots =>
    match reading.draft.fill slot (given text separated) with
    | .error refusal => .error (.refused (.badValue slot.name refusal))
    | .ok draft =>
      .ok { reading with draft := draft, slots := slots, expects := .afterFilled }

/-- A run of values ends. Once no required place is left, the optional ones are closed. -/
def endRun (reading : Reading) : Reading :=
  { reading with
    slots := if reading.slots.any Slot.isRequired then reading.slots else []
    expects := .nothing }

/-- Takes a switch that needs no value. -/
def turnOn (reading : Reading) (switch : Switch) : Except Stop Reading :=
  if switch = .help then .error .help
  else .ok { reading with draft := reading.draft.turnOn switch }

/-- Takes a switch and its value. -/
def turn (reading : Reading) (switch : Switch) (text : String) : Except Stop Reading :=
  match reading.draft.turn switch (given text false) with
  | .error refusal => .error (.refused (.badValue switch.title refusal))
  | .ok draft => .ok { reading with draft := draft, expects := .nothing }

/-- Takes one more argument. -/
def step (reading : Reading) (argument : Argument) : Except Stop Reading :=
  match reading.expects, argument with
  | .valueOf switch, .value text => reading.turn switch text
  | .valueOf switch, _ => .error (.refused (.badValue switch.title .absent))
  | .afterSeparator, .value text => reading.takeValue text true
  | _, .value text => reading.takeValue text false
  | .afterFilled, .separator => .ok { reading with expects := .nothing }
  | _, .separator => .ok { reading with expects := .afterSeparator }
  | _, .unknown text =>
    let ended := reading.endRun
    .ok { ended with extras := ended.extras ++ [text] }
  | _, .switch switch isShort attached =>
    let ended := reading.endRun
    if switch.takesValue then
      match attached with
      | some text => ended.turn switch (String.ofList text)
      | none => .ok { ended with expects := .valueOf switch }
    else (switches switch isShort attached).bind fun all => all.foldlM turnOn ended

/-- The texts that belong to nothing when no argument is left. -/
def leftOver (reading : Reading) : List String :=
  if reading.expects = .afterSeparator then reading.extras ++ [Argument.separatorText]
  else reading.extras

/-- The names of the required places that are still open. -/
def missing (reading : Reading) : List String :=
  (reading.slots.filter Slot.isRequired).map Slot.name

/-- The options when no argument is left. -/
def finish (reading : Reading) : Except Stop Options :=
  match reading.expects with
  | .valueOf switch => .error (.refused (.badValue switch.title .absent))
  | _ =>
    match reading.draft.complete?, reading.leftOver with
    | none, _ => .error (.refused (.missing reading.missing))
    | some options, [] => .ok options
    | some _, texts => .error (.refused (.unrecognized texts))

end Reading

/-- Reads a command line. -/
def readArguments (arguments : List String) : Except Stop Options :=
  match Argument.classifyAll arguments with
  | .error ambiguity => .error (.refused (.ambiguous ambiguity))
  | .ok classified => (classified.foldlM Reading.step Reading.fresh).bind Reading.finish

end KeyFeed.Command
