/-
This file turns typed text into the bytes on the wire. Most encodings write each
character by itself, the code of a question mark where they have none for it, and
some put a byte order mark in front of every piece they write. In the others the
bytes of a character depend on the characters beside it.
-/

import KeyFeed.Charset.Escape
import KeyFeed.Charset.Shift

namespace KeyFeed

/-! ### Codes of several bytes -/

/-- An East Asian encoding that writes each character by itself. All of them extend ASCII. -/
inductive WideSet where
  | shiftJis
  | windowsJapanese
  | unixJapanese
  | gb2312
  | gbk
  | gb18030
  | big5
  | windowsTaiwanese
  | unixKorean
  | windowsKorean
  | combinedKorean
  deriving Repr, DecidableEq

namespace WideSet

/-- The bytes of a character beyond ASCII, if it has some. -/
def beyond? (set : WideSet) (char : Char) : Option (List UInt8) :=
  match set with
  | shiftJis => Japanese.shiftJis? char
  | windowsJapanese => Japanese.windows? char
  | unixJapanese => Japanese.unix? char
  | gb2312 => Chinese.gb2312? char
  | gbk => Chinese.gbk? char
  | gb18030 => some (Chinese.gb18030 char)
  | big5 => Taiwanese.big5? char
  | windowsTaiwanese => Taiwanese.windows? char
  | unixKorean => Korean.unix? char
  | windowsKorean => Korean.windows? char
  | combinedKorean => Korean.combined? char

/-- The bytes of a character, if it has some. -/
def code? (set : WideSet) (char : Char) : Option (List UInt8) :=
  if char.toNat < 0x80 then some [char.toNat.toUInt8] else set.beyond? char

end WideSet

/-! ### Encodings -/

/-- An encoding for sent text. -/
inductive Charset where
  | ascii
  | latin1
  | utf8
  /-- UTF-8 with a byte order mark in front of every piece. -/
  | utf8Marked
  /-- UTF-16, low byte first, with a byte order mark in front of every piece. -/
  | utf16Marked
  | utf16Little
  | utf16Big
  /-- UTF-32, low byte first, with a byte order mark in front of every piece. -/
  | utf32Marked
  | utf32Little
  | utf32Big
  | page (page : CodePage)
  | wide (set : WideSet)
  /-- ASCII with escapes. -/
  | escaped
  /-- The first 256 characters with escapes. -/
  | rawEscaped
  | utf7
  | punycode
  | pairs (set : PairSet)
  | hz
  | iso2022 (version : Iso2022)
  deriving Repr, DecidableEq

namespace Charset

/-- What stands for a character that an encoding does not have. -/
def replacement : UInt8 := 0x3F

/-- The bytes of a code in UTF-8: one below 128, two below 2048, three below 65536, else four. -/
def utf8Bytes (code : Nat) : List UInt8 :=
  if code < 0x80 then [code.toUInt8]
  else if code < 0x800 then [(0xC0 + code / 64).toUInt8, (0x80 + code % 64).toUInt8]
  else if code < 0x10000 then
    [(0xE0 + code / 4096).toUInt8, (0x80 + code / 64 % 64).toUInt8, (0x80 + code % 64).toUInt8]
  else
    [(0xF0 + code / 262144).toUInt8, (0x80 + code / 4096 % 64).toUInt8,
      (0x80 + code / 64 % 64).toUInt8, (0x80 + code % 64).toUInt8]

/-- The 16-bit units of a code: itself, or a pair of surrogates from 65536 on. -/
def utf16Units (code : Nat) : List Nat :=
  if code < 0x10000 then [code]
  else [0xD800 + (code - 0x10000) / 1024, 0xDC00 + (code - 0x10000) % 1024]

/-- The two bytes of a unit, the low one first. -/
def littleUnit (unit : Nat) : List UInt8 := [(unit % 256).toUInt8, (unit / 256).toUInt8]

/-- The four bytes of a code, the low one first. -/
def littleWord (code : Nat) : List UInt8 :=
  [(code % 256).toUInt8, (code / 256 % 256).toUInt8, (code / 65536).toUInt8, 0]

/-- The byte of a character of a single-byte encoding, or the replacement. -/
def single (byte? : Option UInt8) : List UInt8 := [byte?.getD replacement]

/-- The bytes of a character on a page. A character that the page lacks is written as the question
mark, which has another byte on some pages. -/
def pageBytes (page : CodePage) (char : Char) : List UInt8 :=
  single ((page.byte? char).or (page.byte? '?'))

/-- The byte order mark that goes in front of every piece, if the encoding has one. -/
def mark : Charset → List UInt8
  | utf8Marked => utf8Bytes 0xFEFF
  | utf16Marked => littleUnit 0xFEFF
  | utf32Marked => littleWord 0xFEFF
  | _ => []

/-- In the encoding the bytes of a character depend on the characters beside it. -/
def isContextual : Charset → Bool
  | utf7 | punycode | pairs _ | hz | iso2022 _ => true
  | _ => false

/-- The bytes of one character. -/
def encodeChar (charset : Charset) (char : Char) : List UInt8 :=
  let code := char.toNat
  match charset with
  | ascii => single (if code < 0x80 then some code.toUInt8 else none)
  | latin1 => single (if code < 0x100 then some code.toUInt8 else none)
  | utf8 | utf8Marked => utf8Bytes code
  | utf16Marked | utf16Little => (utf16Units code).flatMap littleUnit
  | utf16Big => (utf16Units code).flatMap fun unit => (littleUnit unit).reverse
  | utf32Marked | utf32Little => littleWord code
  | utf32Big => (littleWord code).reverse
  | page codePage => pageBytes codePage char
  | wide set => (set.code? char).getD [replacement]
  | escaped => escapedBytes char
  | rawEscaped => rawEscapedBytes char
  | utf7 => Utf7.encode [char]
  | punycode => Punycode.encode [char]
  | pairs set => set.encode [char]
  | hz => hzShifts.encode [char]
  | iso2022 version => version.shifts.encode [char]

/-- The bytes of a text that is sent as one piece. -/
def encode (charset : Charset) (text : List Char) : List UInt8 :=
  match charset with
  | utf7 => Utf7.encode text
  | punycode => Punycode.encode text
  | pairs set => set.encode text
  | hz => hzShifts.encode text
  | iso2022 version => version.shifts.encode text
  | _ => charset.mark ++ text.flatMap charset.encodeChar

/-- But for the mark, the bytes of a text are those of its characters when they do not depend on
one another. -/
theorem encode_of_not_isContextual {charset : Charset} (plain : charset.isContextual = false)
    (text : List Char) : charset.encode text = charset.mark ++ text.flatMap charset.encodeChar := by
  cases charset with
  | utf7 | punycode | pairs _ | hz | iso2022 _ => cases plain
  | _ => rfl

/-- But for the mark, a single character has the same bytes as a text. -/
theorem encode_singleton (charset : Charset) (char : Char) :
    charset.encode [char] = charset.mark ++ charset.encodeChar char := by
  cases charset with
  | utf7 | punycode | pairs _ | hz | iso2022 _ => rfl
  | _ => rw [encode_of_not_isContextual rfl, List.flatMap_singleton]

end Charset

end KeyFeed
