/-
This file fills percent templates. A field begins with a percent sign and may name
an entry in brackets; flags, a width, a precision and a size letter come before
the letter that says how the value is written. A field without a name takes the
value of the field before it, and the first one takes the whole mapping, so only
one such field can be filled. A filled text is kept in parts, so that the padding
of a wide field takes no room before the whole template is known to be sound.
-/

import KeyFeed.Text.Quoted

namespace KeyFeed.Text

/-- Why a template is not filled. -/
inductive TemplateFlaw where
  /-- A name in brackets does not end. -/
  | openName
  /-- The template ends inside a field. -/
  | openField
  /-- The letter of a field is none. The index counts from the start of the template. -/
  | unknownLetter (letter : Char) (index : Nat)
  /-- The width of a field is not a machine number. -/
  | widthTooBig
  /-- The precision of a field is not a machine number. -/
  | precisionTooBig
  /-- The mapping has no such entry. -/
  | noEntry (name : List Char)
  /-- A field has no value left to take. -/
  | noValue
  /-- A width or a precision is to be taken from the values. -/
  | starred
  /-- A letter for whole numbers meets a value of the kind. -/
  | notNumber (letter : Char) (kind : String)
  /-- A letter for real numbers meets a value of the kind. -/
  | notReal (kind : String)
  /-- The letter for characters meets another value. -/
  | notCharacter
  /-- The filled text would be too long to build. -/
  | noRoom
  deriving Repr, DecidableEq

/-- The message of a flaw. A letter that is not printable ASCII is shown as a question mark. -/
def TemplateFlaw.message : TemplateFlaw → String
  | .openName => "incomplete format key"
  | .openField => "incomplete format"
  | .unknownLetter letter index =>
    let shown := if 31 ≤ letter.toNat ∧ letter.toNat ≤ 126 then letter else '?'
    let code := String.ofList <| (Nat.toDigits 16 letter.toNat)
    s!"unsupported format character '{shown}' (0x{code}) at index {index}"
  | .widthTooBig => "width too big"
  | .precisionTooBig => "precision too big"
  | .noEntry name => String.ofList (quoted name)
  | .noValue => "not enough arguments for format string"
  | .starred => "* wants int"
  | .notNumber letter kind =>
    let wanted := if letter ∈ ['o', 'x', 'X'] then "an integer" else "a real number"
    s!"%{letter} format: {wanted} is required, not {kind}"
  | .notReal kind => s!"must be real number, not {kind}"
  | .notCharacter => "%c requires int or char"
  | .noRoom => ""

/-- The entries that the names of a template stand for. -/
abbrev Entries := List (List Char × List Char)

/-- A value that a field can take. -/
inductive TemplateValue where
  /-- The text of an entry. -/
  | entry (text : List Char)
  /-- The whole mapping. -/
  | mapping
  deriving Repr, DecidableEq

namespace TemplateValue

/-- The name of a value's kind in a message. -/
def kind : TemplateValue → String
  | entry _ => "str"
  | mapping => "dict"

/-- A value as it is quoted. -/
def shown (entries : Entries) : TemplateValue → List Char
  | entry text => quoted text
  | mapping =>
    let items := entries.map fun item => quoted item.1 ++ ": ".toList ++ quoted item.2
    '{' :: ", ".toList.intercalate items ++ ['}']

/-- A value as it is written. -/
def plain (entries : Entries) : TemplateValue → List Char
  | entry text => text
  | mapping => shown entries mapping

end TemplateValue

/-- A text with escapes for every character beyond ASCII. -/
def escapeBeyondAscii (text : List Char) : List Char :=
  text.flatMap fun char => if char.toNat < 0x80 then [char] else escapeCode char.toNat

/-- A part of a filled text. -/
inductive Part where
  | text (chars : List Char)
  | spaces (count : Nat)
  deriving Repr, DecidableEq

namespace Part

/-- The characters of a part. -/
def chars : Part → List Char
  | text chars => chars
  | spaces count => List.replicate count ' '

/-- The count of characters of a part. -/
def length : Part → Nat
  | text chars => chars.length
  | spaces count => count

end Part

/-- What a field says before its letter. -/
structure Field where
  leftJustified : Bool
  width : Nat
  precision : Option Nat
  deriving Repr, DecidableEq

namespace Field

/-- The field that says nothing. -/
def bare : Field := ⟨false, 0, none⟩

/-- The text in the field: cut to the precision, then padded with spaces to the width. -/
def fit (field : Field) (text : List Char) : List Part :=
  let cut := match field.precision with
    | none => text
    | some count => text.take count
  let padding := Part.spaces (field.width - cut.length)
  if field.leftJustified then [.text cut, padding] else [padding, .text cut]

/-- A width with one more digit. -/
def widen (field : Field) (digit : Nat) : Except TemplateFlaw Field :=
  if (1 <<< 63 - 1 - digit) / 10 < field.width then .error .widthTooBig
  else .ok { field with width := 10 * field.width + digit }

/-- A precision with one more digit. -/
def refine (field : Field) (digit : Nat) : Except TemplateFlaw Field :=
  let precision := field.precision.getD 0
  if (1 <<< 31 - 1 - digit) / 10 < precision then .error .precisionTooBig
  else .ok { field with precision := some (10 * precision + digit) }

/-- Writes a value into the field in the way that the letter says. -/
def convert (field : Field) (entries : Entries) (value : TemplateValue) (letter : Char)
    (index : Nat) : Except TemplateFlaw (List Part) :=
  if letter = 's' then .ok (field.fit (value.plain entries))
  else if letter = 'r' then .ok (field.fit (value.shown entries))
  else if letter = 'a' then .ok (field.fit (escapeBeyondAscii (value.shown entries)))
  else if letter ∈ ['d', 'i', 'u', 'o', 'x', 'X'] then .error (.notNumber letter value.kind)
  else if letter ∈ ['e', 'E', 'f', 'F', 'g', 'G'] then .error (.notReal value.kind)
  else if letter = 'c' then
    match value with
    | .entry [char] => .ok (field.fit [char])
    | _ => .error .notCharacter
  else .error (.unknownLetter letter index)

end Field

/-- Where in a template a character stands. -/
inductive Place where
  /-- Outside a field. -/
  | plain
  /-- Just after a percent sign. -/
  | opened
  /-- In a name, with the count of open brackets and the name so far, backwards. -/
  | name (depth : Nat) (reversed : List Char)
  /-- Where a flag may stand. -/
  | flags (field : Field)
  /-- After a digit of the width. -/
  | width (field : Field)
  /-- Just after the point. -/
  | point (field : Field)
  /-- After a digit of the precision. -/
  | precision (field : Field)
  /-- After the size letter. -/
  | size (field : Field)
  deriving Repr, DecidableEq

/-- The state of a filling: the place, the value that the next field takes, the parts of the
filled text, backwards, and the count of characters for which there is room left. -/
structure Filling where
  place : Place
  value : Option TemplateValue
  parts : List Part
  room : Nat
  deriving Repr, DecidableEq

namespace Filling

/-- The count of characters for which there is room in all. -/
def wholeRoom : Nat := 1 <<< 34

/-- Nothing is filled yet. The first field without a name takes the whole mapping. -/
def fresh : Filling := ⟨.plain, some .mapping, [], wholeRoom⟩

/-- Adds a part to the filled text. -/
def add (state : Filling) (part : Part) : Except TemplateFlaw Filling :=
  if state.room < part.length then .error .noRoom
  else .ok { state with parts := part :: state.parts, room := state.room - part.length }

/-- The value of an ASCII digit. -/
def digit? (char : Char) : Option Nat :=
  if '0' ≤ char ∧ char ≤ '9' then some (char.toNat - 0x30) else none

/-- Takes the letter of a field. -/
def letter (state : Filling) (entries : Entries) (field : Field) (char : Char) (index : Nat) :
    Except TemplateFlaw Filling :=
  match state.value with
  | none => .error .noValue
  | some value =>
    (field.convert entries value char index).bind fun parts =>
      parts.foldlM add { state with place := .plain, value := none }

/-- Takes a size letter or the letter of the field. -/
def sizeOrLetter (state : Filling) (entries : Entries) (field : Field) (char : Char)
    (index : Nat) : Except TemplateFlaw Filling :=
  if char ∈ ['h', 'l', 'L'] then .ok { state with place := .size field }
  else state.letter entries field char index

/-- A star asks for a number among the values, and there is none. -/
def star (state : Filling) : TemplateFlaw :=
  if state.value.isSome then .starred else .noValue

/-- Takes the point or what may follow the width. -/
def pointOrLater (state : Filling) (entries : Entries) (field : Field) (char : Char)
    (index : Nat) : Except TemplateFlaw Filling :=
  if char = '.' then .ok { state with place := .point { field with precision := some 0 } }
  else state.sizeOrLetter entries field char index

/-- Takes a flag or what may follow the flags. -/
def flagOrLater (state : Filling) (entries : Entries) (field : Field) (char : Char)
    (index : Nat) : Except TemplateFlaw Filling :=
  if char = '-' then .ok { state with place := .flags { field with leftJustified := true } }
  else if char ∈ ['+', ' ', '#', '0'] then .ok { state with place := .flags field }
  else if char = '*' then .error state.star
  else match digit? char with
    | some digit => (field.widen digit).map fun wider => { state with place := .width wider }
    | none => state.pointOrLater entries field char index

/-- Takes one character of a template. -/
def step (state : Filling) (entries : Entries) (char : Char) (index : Nat) :
    Except TemplateFlaw Filling :=
  match state.place with
  | .plain =>
    if char = '%' then .ok { state with place := .opened }
    else state.add (.text [char])
  | .opened =>
    if char = '%' then { state with place := .plain }.add (.text [char])
    else if char = '(' then .ok { state with place := .name 1 [] }
    else state.flagOrLater entries .bare char index
  | .name depth reversed =>
    if char = ')' then
      if depth = 1 then
        match entries.lookup reversed.reverse with
        | none => .error (.noEntry reversed.reverse)
        | some text => .ok { state with place := .flags .bare, value := some (.entry text) }
      else .ok { state with place := .name (depth - 1) (char :: reversed) }
    else
      let deeper := if char = '(' then depth + 1 else depth
      .ok { state with place := .name deeper (char :: reversed) }
  | .flags field => state.flagOrLater entries field char index
  | .width field =>
    match digit? char with
    | some digit => (field.widen digit).map fun wider => { state with place := .width wider }
    | none => state.pointOrLater entries field char index
  | .point field =>
    if char = '*' then .error state.star
    else match digit? char with
      | some digit =>
        (field.refine digit).map fun finer => { state with place := .precision finer }
      | none => state.sizeOrLetter entries field char index
  | .precision field =>
    match digit? char with
    | some digit => (field.refine digit).map fun finer => { state with place := .precision finer }
    | none => state.sizeOrLetter entries field char index
  | .size field => state.letter entries field char index

/-- The filled text at the end of a template. -/
def finish (state : Filling) : Except TemplateFlaw (List Char) :=
  match state.place with
  | .plain => .ok (state.parts.reverse.flatMap Part.chars)
  | .name _ _ => .error .openName
  | _ => .error .openField

/-- Takes the rest of a template, whose first character has the index. -/
def advance (entries : Entries) : Filling → Nat → List Char → Except TemplateFlaw (List Char)
  | state, _, [] => state.finish
  | state, index, char :: rest =>
    (state.step entries char index).bind fun next => advance entries next (index + 1) rest

end Filling

/-- Fills a template with the entries. -/
def fillTemplate (entries : Entries) (template : List Char) : Except TemplateFlaw (List Char) :=
  Filling.advance entries .fresh 0 template

end KeyFeed.Text
