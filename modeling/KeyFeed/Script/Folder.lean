/-
This file opens the files of a folder. A path is walked name by name: an empty
name and a point stay in place, two points go up, and whatever lies outside the
folder counts as missing.
-/

import KeyFeed.Script.Source

namespace KeyFeed.Script

/-- A folder: the bytes of its files and the folders in it, by their paths. -/
structure Folder where
  files : List (String × List UInt8)
  folders : List String
  deriving Repr

/-- The names of a path, which slashes separate. -/
def pathNames : List Char → List (List Char)
  | [] => [[]]
  | char :: rest =>
    if char = '/' then [] :: pathNames rest
    else match pathNames rest with
      | [] => [[char]]
      | name :: names => (char :: name) :: names

/-- The longest path in bytes. -/
def longestPath : Nat := 4095

/-- The longest name in bytes. -/
def longestName : Nat := 255

/-- Where a walk along a path stands. -/
inductive Spot where
  /-- In the folder or in a folder below it, by its names from the last one on. -/
  | inside (reversed : List (List Char))
  /-- Somewhere outside the folder. -/
  | outside
  /-- At a file. -/
  | file (bytes : List UInt8)
  deriving Repr, DecidableEq

namespace Folder

/-- What stands at the path of the names. -/
def spot? (folder : Folder) (reversed : List (List Char)) : Option Spot :=
  let path := String.ofList (['/'].intercalate reversed.reverse)
  match folder.files.lookup path with
  | some bytes => some (.file bytes)
  | none => if path ∈ folder.folders then some (.inside reversed) else none

/-- One name further. -/
def enter (folder : Folder) (name : List Char) : Spot → Except OpenRefusal Spot
  | .file _ => .error .throughFile
  | .outside =>
    if name ∈ [[], ['.'], ['.', '.']] then .ok .outside
    else if longestName < (Utf8.encode name).length then .error .nameTooLong
    else .error .missing
  | .inside reversed =>
    if name ∈ [[], ['.']] then .ok (.inside reversed)
    else if name = ['.', '.'] then
      match reversed with
      | [] => .ok .outside
      | _ :: above => .ok (.inside above)
    else if longestName < (Utf8.encode name).length then .error .nameTooLong
    else match folder.spot? (name :: reversed) with
      | some spot => .ok spot
      | none => .error .missing

/-- The bytes of the file at a path. -/
def opening (folder : Folder) : Opening := fun path => do
  let path := path.toList
  if path.isEmpty then throw .missing
  if longestPath < (Utf8.encode path).length then throw .nameTooLong
  let start := if path.head? = some '/' then .outside else .inside []
  match ← (pathNames path).foldlM (fun spot name => folder.enter name spot) start with
  | .file bytes => return bytes
  | _ => throw .isFolder

end Folder

end KeyFeed.Script
