/-
This file says which characters an encoding does not have, of the encodings that write each
character by itself. The question mark is written for all of them, and no other character is
written as it is: on a page each byte belongs to one character, and beyond ASCII a single byte
of an East Asian encoding is none of ASCII.
-/

import KeyFeed.Proofs.Charset.Wide

namespace KeyFeed

open Utf8 (toNat_toUInt8)

open Charset (replacement)

/-! ### Codes of characters -/

/-- What is said of bytes holds of those that a character has, if it has some. -/
def Always (holds : List UInt8 → Prop) (bytes? : Option (List UInt8)) : Prop :=
  ∀ bytes ∈ bytes?, holds bytes

namespace Always

variable {holds : List UInt8 → Prop} {bytes? other? : Option (List UInt8)} {Code : Type}

theorem none : Always holds none := nofun

theorem some {bytes : List UInt8} (this : holds bytes) : Always holds (some bytes) := by
  rintro _ ⟨⟩
  exact this

theorem or (always : Always holds bytes?) (alwaysToo : Always holds other?) :
    Always holds (bytes?.or other?) := by
  intro bytes found
  rcases Option.or_eq_some_iff.mp found with here | ⟨_, there⟩
  · exact always bytes here
  · exact alwaysToo bytes there

theorem map {code? : Option Code} {written : Code → List UInt8}
    (each : ∀ code, holds (written code)) : Always holds (code?.map written) := by
  intro bytes found
  obtain ⟨code, _, rfl⟩ := Option.map_eq_some_iff.mp found
  exact each code

end Always

/-! ### East Asian codes -/

namespace WideSet

/-- The bytes of a character, if it has some, are not those of the question mark alone. -/
def Distinct : Option (List UInt8) → Prop := Always (· ≠ [replacement])

/-- More bytes than one are distinct. -/
theorem of_two {first second : UInt8} {rest : List UInt8} :
    first :: second :: rest ≠ [replacement] := by simp

theorem singleton_ne {number : Nat} (small : number < 0x100) (other : number ≠ 0x3F) :
    [number.toUInt8] ≠ [replacement] :=
  fun same => @Utf8.toUInt8_ne number replacement small other (List.singleton_inj.mp same)

theorem roman_distinct (char : Char) :
    Distinct ((Japanese.roman? char).map fun byte => [byte]) := by
  unfold Japanese.roman?
  split
  · exact .some (by decide)
  split
  · exact .some (by decide)
  · exact .none

theorem katakana_distinct (char : Char) :
    Distinct ((Japanese.katakana? char).map fun byte => [byte.toUInt8]) := by
  unfold Japanese.katakana?
  split
  · exact .some (singleton_ne (by omega) (by omega))
  · exact .none

theorem windows_distinct (char : Char) : Distinct (Japanese.windows? char) := by
  unfold Japanese.windows?
  split
  · exact .some (by decide)
  split
  · exact .some (by decide)
  split
  · exact .some (singleton_ne (by omega) (by omega))
  split
  · exact .some of_two
  · exact (katakana_distinct char).or (.map fun _ => of_two)

theorem gbk_distinct (char : Char) : Distinct (Chinese.gbk? char) := by
  have added (number : Nat) : Chinese.addedIdeograph number ≠ [replacement] := by
    unfold Chinese.addedIdeograph
    dsimp only
    split <;> exact of_two
  unfold Chinese.gbk?
  split
  · exact .none
  · refine .or (.map fun _ => of_two) (.or (.map fun _ => of_two) ?_)
    split
    · exact .some (added _)
    · exact .none

theorem gb18030_distinct (char : Char) : Distinct (some (Chinese.gb18030 char)) := by
  have found : Distinct ((Chinese.gbk? char).or ((Chinese.inRuns? char).map twoBytes)) :=
    (gbk_distinct char).or (.map fun _ => of_two)
  unfold Chinese.gb18030
  cases code : (Chinese.gbk? char).or ((Chinese.inRuns? char).map twoBytes) with
  | none => exact .some of_two
  | some bytes => exact .some (found bytes code)

theorem windowsKorean_distinct (char : Char) : Distinct (Korean.windows? char) := by
  refine .or (.map fun _ => of_two) (.map fun syllable => ?_)
  unfold Korean.windowsAdded
  dsimp only
  split <;> exact of_two

theorem combined_distinct (char : Char) : Distinct (Korean.combined? char) := by
  unfold Korean.combined?
  split
  · exact .map fun _ => of_two
  · exact .or (.map fun _ => of_two) (.map fun _ => of_two)

/-- Beyond ASCII no character is written as the question mark. -/
theorem beyond_distinct (set : WideSet) (char : Char) : Distinct (set.beyond? char) := by
  cases set with
  | shiftJis => exact (roman_distinct char).or ((katakana_distinct char).or (.map fun _ => of_two))
  | windowsJapanese => exact windows_distinct char
  | unixJapanese =>
    exact (roman_distinct char).or <|
      .or (.map fun _ => of_two) <| .or (.map fun _ => of_two) (.map fun _ => of_two)
  | gb2312 => exact .map fun _ => of_two
  | gbk => exact gbk_distinct char
  | gb18030 => exact gb18030_distinct char
  | big5 => exact .map fun _ => of_two
  | windowsTaiwanese => exact .or (.map fun _ => of_two) (.map fun _ => of_two)
  | unixKorean => exact .or (.map fun _ => of_two) (.map fun _ => of_two)
  | windowsKorean => exact windowsKorean_distinct char
  | combinedKorean => exact combined_distinct char

end WideSet

namespace Charset

/-! ### Characters that an encoding does not have -/

/-- The encoding, one that writes each character by itself, does not have the character. -/
def Lacks : Charset → Char → Prop
  | ascii, char => 0x80 ≤ char.toNat
  | latin1, char => 0x100 ≤ char.toNat
  | page codePage, char => codePage.byte? char = none
  | wide set, char => set.code? char = none
  | _, _ => False

variable {char : Char}

theorem toUInt8_eq_replacement_iff {number : Nat} (small : number < 0x100) :
    number.toUInt8 = replacement ↔ number = 0x3F := by
  rw [← UInt8.toNat_inj, toNat_toUInt8 small]
  rfl

/-- A character that is its own byte up to a limit. -/
theorem direct_eq_mark_iff {limit : Nat} (above : 0x3F < limit) (small : limit ≤ 0x100) :
    single (if char.toNat < limit then some char.toNat.toUInt8 else none) = [replacement] ↔
      limit ≤ char.toNat ∨ char = '?' := by
  have mark : char = '?' ↔ char.toNat = 0x3F := Char.toNat_inj.symm
  rw [mark]
  split
  · rename_i below
    have same := @toUInt8_eq_replacement_iff char.toNat (by omega)
    simp [single, same, Nat.not_le_of_lt below]
  · rename_i beyond
    simp [single, Nat.le_of_not_lt beyond]

/-- On a page no other character has the byte of the question mark. -/
theorem page_eq_mark_iff (codePage : CodePage) :
    pageBytes codePage char = pageBytes codePage '?' ↔
      codePage.byte? char = none ∨ char = '?' := by
  obtain ⟨mark, own⟩ := Option.isSome_iff_exists.mp codePage.mark_isSome
  unfold pageBytes
  rw [own, Option.or_self]
  cases found : codePage.byte? char with
  | none => simp [single]
  | some byte =>
    have unique : byte = mark ↔ char = '?' := by
      refine ⟨fun same => CodePage.byte?_unique (same ▸ found) own, ?_⟩
      rintro rfl
      exact Option.some.inj (found.symm.trans own)
    simp [single, unique]

theorem wide_eq_mark_iff (set : WideSet) :
    (set.code? char).getD [replacement] = [replacement] ↔ set.code? char = none ∨ char = '?' := by
  have mark : char = '?' ↔ char.toNat = 0x3F := Char.toNat_inj.symm
  unfold WideSet.code?
  split
  · rename_i below
    have same := @toUInt8_eq_replacement_iff char.toNat (by omega)
    simp [same, mark]
  · rename_i beyond
    have other : ¬char = '?' := fun same => beyond (mark.mp same ▸ by decide)
    cases found : set.beyond? char with
    | none => simp
    | some bytes => simp [other, set.beyond_distinct char bytes found]

/-- In an encoding of Unicode no two characters are written alike. -/
theorem encodeChar_unique {charset : Charset} (unicode : charset ∈ plainUnicode) {other : Char}
    (same : charset.encodeChar char = charset.encodeChar other) : char = other := by
  have whole : charset.encode [char] = charset.encode [other] := by
    rw [encode_singleton, encode_singleton, same]
  have back := (decode?_encode unicode [char]).symm.trans
    ((congrArg charset.decode? whole).trans (decode?_encode unicode [other]))
  simpa using back

/-- A single byte below 256 is the question mark for that character alone. -/
theorem eq_mark_of_byte (small : char.toNat < 0x100)
    (same : [char.toNat.toUInt8] = [replacement]) : char = '?' :=
  Char.toNat_inj.mp ((toUInt8_eq_replacement_iff small).mp (List.singleton_inj.mp same))

/-- An escape is longer than a question mark. -/
theorem asciiBytes_escapeCode_ne (code : Nat) :
    asciiBytes (Text.escapeCode code) ≠ [replacement] := by
  unfold Text.escapeCode
  split
  · simp [asciiBytes]
  split <;> simp [asciiBytes]

theorem eq_mark_of_escaped (same : escapedBytes char = [replacement]) : char = '?' := by
  unfold escapedBytes at same
  split at same
  · cases same
  split at same
  · cases same
  split at same
  · cases same
  split at same
  · cases same
  split at same
  · exact eq_mark_of_byte (by omega) same
  · exact absurd same (asciiBytes_escapeCode_ne _)

theorem eq_mark_of_rawEscaped (same : rawEscapedBytes char = [replacement]) : char = '?' := by
  unfold rawEscapedBytes at same
  split at same
  · exact eq_mark_of_byte (by assumption) same
  · exact absurd same (asciiBytes_escapeCode_ne _)

/-- The characters that an encoding does not have are those that it writes as the question mark, but
for the question mark itself. -/
theorem lacks_iff {charset : Charset} (alone : charset.isContextual = false) (char : Char) :
    charset.Lacks char ↔ charset.encodeChar char = charset.encodeChar '?' ∧ char ≠ '?' := by
  have among {lacks : Prop} {charset : Charset}
      (written : charset.encodeChar char = charset.encodeChar '?' ↔ lacks ∨ char = '?')
      (other : lacks → char ≠ '?') :
      lacks ↔ charset.encodeChar char = charset.encodeChar '?' ∧ char ≠ '?' :=
    ⟨fun holds => ⟨written.mpr (Or.inl holds), other holds⟩,
      fun ⟨same, kept⟩ => (written.mp same).resolve_right kept⟩
  have never {charset : Charset}
      (unique : charset.encodeChar char = charset.encodeChar '?' → char = '?') :
      False ↔ charset.encodeChar char = charset.encodeChar '?' ∧ char ≠ '?' :=
    iff_of_false id fun ⟨same, other⟩ => other (unique same)
  cases charset with
  | ascii =>
    refine @among _ ascii (direct_eq_mark_iff (by decide) (by decide)) ?_
    rintro (lacks : 0x80 ≤ char.toNat) rfl
    exact absurd lacks (by decide)
  | latin1 =>
    refine @among _ latin1 (direct_eq_mark_iff (by decide) (by decide)) ?_
    rintro (lacks : 0x100 ≤ char.toNat) rfl
    exact absurd lacks (by decide)
  | utf8 | utf16Little | utf16Big | utf32Little | utf32Big =>
    exact never (encodeChar_unique (by decide))
  | utf8Marked => exact never (@encodeChar_unique char utf8 (by decide) '?')
  | utf16Marked => exact never (@encodeChar_unique char utf16Little (by decide) '?')
  | utf32Marked => exact never (@encodeChar_unique char utf32Little (by decide) '?')
  | page codePage =>
    refine @among _ (page codePage) (page_eq_mark_iff codePage) ?_
    rintro (lacks : codePage.byte? char = none) rfl
    exact absurd codePage.mark_isSome (by simp [lacks])
  | wide set =>
    refine @among _ (wide set) (wide_eq_mark_iff set) ?_
    rintro lacks rfl
    cases lacks
  | escaped => exact never eq_mark_of_escaped
  | rawEscaped => exact never eq_mark_of_rawEscaped
  | utf7 | punycode | pairs _ | hz | iso2022 _ => cases alone

end Charset

end KeyFeed
