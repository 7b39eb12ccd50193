/-
This file holds the encodings in which the bytes of a character depend on the
characters beside it. Some have one code for a pair of characters, and some announce
by a sequence of bytes from which set the next characters are, until another one is
announced or the text ends.
-/

import KeyFeed.Charset.Chinese
import KeyFeed.Charset.Japanese
import KeyFeed.Charset.Korean
import KeyFeed.Charset.Taiwanese

namespace KeyFeed

/-- The pieces of a text: one for each character, but for pairs that have a piece together. -/
def joinPairs {Piece : Type} (single : Char → Piece) (pair? : Char → Char → Option Piece) :
    List Char → List Piece
  | [] => []
  | [char] => [single char]
  | first :: second :: rest =>
    match pair? first second with
    | some piece => piece :: joinPairs single pair? rest
    | none => single first :: joinPairs single pair? (second :: rest)

/-! ### Pairs -/

/-- An encoding with codes for some pairs of characters. -/
inductive PairSet where
  | shiftJis (edition : Japanese.Edition)
  | unix (edition : Japanese.Edition)
  | hongKong
  deriving Repr, DecidableEq

namespace PairSet

/-- The bytes of a character by itself, if it has some. -/
def code? (set : PairSet) (char : Char) : Option (List UInt8) :=
  match set with
  | shiftJis edition => Japanese.shiftJis213? edition char
  | unix edition =>
    if char.toNat < 0x80 then some [char.toNat.toUInt8] else Japanese.unix213? edition char
  | hongKong => if char.toNat < 0x80 then some [char.toNat.toUInt8] else Taiwanese.hongKong? char

/-- The bytes of a pair, if it has some. -/
def pair? (set : PairSet) (first second : Char) : Option (List UInt8) :=
  match set with
  | shiftJis _ => (Japanese.pair? first second).map Japanese.shiftCode
  | unix _ => (Japanese.pair? first second).map twoHighBytes
  | hongKong => (Taiwanese.pair? first second).map twoBytes

/-- The bytes of a text. -/
def encode (set : PairSet) (text : List Char) : List UInt8 :=
  (joinPairs (fun char => (set.code? char).getD [0x3F]) set.pair? text).flatten

end PairSet

/-! ### Shifts -/

/-- A set of characters that is announced: the sequence that does so, and the codes. -/
structure Mode where
  opening : List UInt8
  code? : Char → Option (List UInt8)

/-- Bytes in a mode; there is no opening for ASCII. -/
structure ModePiece where
  opening : List UInt8 := []
  bytes : List UInt8

/-- The seven bits of a set with two bytes a character. -/
def Mode.ofBlocks (opening : List UInt8) (blocks : List Block) : Mode :=
  ⟨opening, fun char => (Block.code? blocks char).map twoBytes⟩

/-- How an encoding announces its modes: the modes in the order in which they are tried, what goes
in front of the first one, how ASCII is announced, and the codes of pairs. -/
structure Shifts where
  header : List UInt8 := []
  modes : List Mode
  closing : List UInt8
  plain : Char → List UInt8 := fun char => [char.toNat.toUInt8]
  pair? : Char → Char → Option ModePiece := fun _ _ => none

namespace Shifts

/-- The piece of a character, which is a question mark if no mode has it. -/
def piece (shifts : Shifts) (char : Char) : ModePiece :=
  if char.toNat < 0x80 then { bytes := shifts.plain char }
  else
    (shifts.modes.findSome? fun mode =>
      (mode.code? char).map fun bytes => { opening := mode.opening, bytes := bytes }).getD
        { bytes := [0x3F] }

/-- The bytes of pieces, in the mode that is open. -/
def join (shifts : Shifts) : (begun : Bool) → (current : List UInt8) → List ModePiece → List UInt8
  | _, current, [] => if current = [] then [] else shifts.closing
  | begun, current, piece :: rest =>
    let shift :=
      if piece.opening = current then []
      else if piece.opening = [] then shifts.closing
      else (if begun then [] else shifts.header) ++ piece.opening
    shift ++ piece.bytes ++ join shifts (begun || piece.opening ≠ []) piece.opening rest

/-- The bytes of a text. -/
def encode (shifts : Shifts) (text : List Char) : List UInt8 :=
  shifts.join false [] (joinPairs shifts.piece shifts.pair? text)

end Shifts

/-- The versions of the encoding that announces its sets by escape sequences. -/
inductive Iso2022 where
  | korean
  | japanese
  | japanese1
  | japanese2
  | japanese3
  | japanese2004
  | japaneseExtended
  deriving Repr, DecidableEq

namespace Iso2022

/-- The escape character. -/
def escape : UInt8 := 0x1B

/-- The announcement of ASCII. -/
def toAscii : List UInt8 := [escape, 0x28, 0x42]

/-- The announcement of a set with two bytes a character. -/
def toWide (final : UInt8) : List UInt8 := [escape, 0x24, 0x28, final]

def jis208 : Mode := .ofBlocks [escape, 0x24, 0x42] Japanese.jis208

def jis212 : Mode := .ofBlocks (toWide 0x44) Japanese.jis212

def ks1001 : Mode := .ofBlocks (toWide 0x43) (Korean.syllables ++ Korean.others)

def gb2312 : Mode := .ofBlocks (toWide 0x41) Chinese.gb2312

/-- The set of Roman letters, of which two characters are used. -/
def roman : Mode :=
  ⟨[escape, 0x28, 0x4A], fun char => (Japanese.roman? char).map fun byte => [byte]⟩

/-- The set of half-width katakana, with the upper bit cleared. -/
def katakana : Mode :=
  ⟨[escape, 0x28, 0x49],
    fun char => (Japanese.katakana? char).map fun byte => [(byte - 0x80).toUInt8]⟩

/-- The announcement of the first plane of JIS X 0213. -/
def toFirstPlane : Japanese.Edition → List UInt8
  | .first => toWide 0x4F
  | .second => toWide 0x51

/-- The two planes of JIS X 0213. The full-width tilde of the first one is not written. -/
def planes (edition : Japanese.Edition) : List Mode :=
  [⟨toFirstPlane edition, fun char =>
      if char = '\uff5e' then none else (Japanese.firstPlane? edition char).map twoBytes⟩,
    ⟨toWide 0x50, fun char => (Japanese.secondPlane? edition char).map twoBytes⟩]

/-- The shifts of Japanese with JIS X 0213. -/
def shifts213 (edition : Japanese.Edition) : Shifts where
  modes := jis208 :: planes edition
  closing := toAscii
  pair? first second :=
    (Japanese.pair? first second).map fun code => ⟨toFirstPlane edition, twoBytes code⟩

/-- The shifts of a version. -/
def shifts : Iso2022 → Shifts
  | korean =>
    { header := [escape, 0x24, 0x29, 0x43]
      modes := [.ofBlocks [0x0E] (Korean.syllables ++ Korean.others)]
      closing := [0x0F] }
  | japanese => { modes := [jis208, roman], closing := toAscii }
  | japanese1 => { modes := [jis208, jis212, roman], closing := toAscii }
  | japanese2 => { modes := [jis208, jis212, ks1001, gb2312, roman], closing := toAscii }
  | japanese3 => shifts213 .first
  | japanese2004 => shifts213 .second
  | japaneseExtended => { modes := [jis208, jis212, roman, katakana], closing := toAscii }

end Iso2022

/-- The shifts of HZ, which writes the tilde twice. -/
def hzShifts : Shifts where
  modes := [.ofBlocks [0x7E, 0x7B] Chinese.gb2312]
  closing := [0x7E, 0x7D]
  plain char := if char = '~' then [0x7E, 0x7E] else [char.toNat.toUInt8]

end KeyFeed
