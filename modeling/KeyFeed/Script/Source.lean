/-
This file loads a script: the file at a path is opened and its bytes are read as
UTF-8. A path with a NUL character is refused before anything is opened.
-/

import KeyFeed.Charset.Utf8

namespace KeyFeed.Script

open KeyFeed.Text

/-- Why a path leads to no file. -/
inductive OpenRefusal where
  | missing
  | throughFile
  | isFolder
  | nameTooLong
  deriving Repr, DecidableEq

namespace OpenRefusal

/-- The number of a refusal. -/
def number : OpenRefusal → Nat
  | missing => 2
  | throughFile => 20
  | isFolder => 21
  | nameTooLong => 36

/-- The text of a refusal. -/
def text : OpenRefusal → String
  | missing => "No such file or directory"
  | throughFile => "Not a directory"
  | isFolder => "Is a directory"
  | nameTooLong => "File name too long"

end OpenRefusal

/-- What is wrong with a script that cannot be loaded. -/
inductive SourceFlaw where
  /-- The path leads to no file. -/
  | unopened (refusal : OpenRefusal)
  /-- The bytes are not UTF-8. -/
  | malformed (report : Utf8.Report)
  deriving Repr, DecidableEq

/-- Why a script is not loaded. -/
inductive SourceRefusal where
  /-- The path holds a NUL character. -/
  | nulInPath
  /-- The file at the path cannot be opened or read. -/
  | unreadable (path : String) (flaw : SourceFlaw)
  deriving Repr, DecidableEq

/-- The message of a refusal. -/
def SourceRefusal.message : SourceRefusal → String
  | .nulInPath => "embedded null byte"
  | .unreadable path (.unopened refusal) =>
    s!"[Errno {refusal.number}] {refusal.text}: " ++ String.ofList (quoted path.toList)
  | .unreadable _ (.malformed report) => report.message

/-- What opening a path gives: the bytes of the file, or a refusal. -/
abbrev Opening := String → Except OpenRefusal (List UInt8)

/-- Loads the script at a path. -/
def loadScript (opening : Opening) (path : String) : Except SourceRefusal (List Char) :=
  if '\x00' ∈ path.toList then .error .nulInPath
  else match opening path with
    | .error refusal => .error (.unreadable path (.unopened refusal))
    | .ok bytes =>
      match Utf8.decodeMarked bytes with
      | .error report => .error (.unreadable path (.malformed report))
      | .ok text => .ok text

end KeyFeed.Script
