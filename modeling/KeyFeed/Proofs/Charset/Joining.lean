/-
This file says which encodings write a text as the texts of its characters one after the other:
those that write each character by itself, unless they put a mark in front. For every other one
there is a text of two characters whose bytes are not those of the two. A run of digits or a
shift goes on from the first to the second, or the two have a code together.
-/

import KeyFeed.Proofs.Charset.Lacking

namespace KeyFeed

/-! ### Tables -/

/-- A block begins with the first character of its first row. -/
theorem Block.code?_of_head {block : Block} {blocks : List Block} {row : String}
    {rows : List String} {char : Char} (proper : char ≠ CodePage.hole)
    (first : block.rows = row :: rows) (begins : row.toList.head? = some char) :
    Block.code? (block :: blocks) char = some block.start := by
  obtain ⟨others, shape⟩ := List.head?_eq_some_iff.mp begins
  unfold Block.code?
  rw [if_neg proper, List.findSome?_cons, first, Block.find?, shape, List.findIdx?_cons]
  simp

/-- The first character of KS X 1001 with two bytes. -/
def firstSyllable : Char := '가'

/-- The first character of the other sets of that kind, a wide blank. -/
def wideBlank : Char := '\u3000'

-- a literal is the list of its characters, which the kernel takes apart faster

theorem jis208_wideBlank : Block.code? Japanese.jis208 wideBlank = some 0x2121 := by
  refine Block.code?_of_head (by decide) rfl ?_
  rw [String.toList_append, String.toList_ofList]
  rfl

theorem gb2312_wideBlank : Block.code? Chinese.gb2312 wideBlank = some 0x2121 := by
  refine Block.code?_of_head (by decide) rfl ?_
  rw [String.toList_append, String.toList_ofList]
  rfl

theorem ks1001_firstSyllable :
    Block.code? (Korean.syllables ++ Korean.others) firstSyllable = some 0x3021 := by
  refine Block.code?_of_head (by decide) rfl ?_
  rw [String.toList_append, String.toList_ofList]
  rfl

/-! ### Pairs -/

namespace PairSet

open Charset (replacement)

/-- The bytes of a character, if it has some, are two at least. -/
def Long : Option (List UInt8) → Prop := Always (2 ≤ ·.length)

/-- Single bytes are those of ASCII, of two more characters, and of half-width katakana. -/
theorem code?_long (set : PairSet) {char : Char} (beyond : 0x80 ≤ char.toNat)
    (roman : Japanese.roman? char = none) (katakana : Japanese.katakana? char = none) :
    Long (set.code? char) := by
  have two {code? : Option Nat} {written : Nat → List UInt8}
      (long : ∀ code, 2 ≤ (written code).length) : Long (code?.map written) := .map long
  have short : ¬char.toNat < 0x80 := by omega
  cases set with
  | shiftJis edition =>
    show Long (Japanese.shiftJis213? edition char)
    unfold Japanese.shiftJis213?
    rw [roman, katakana, if_neg short]
    split
    · exact .some (Nat.le_refl 2)
    split
    · exact .some (Nat.le_refl 2)
    split
    · exact .none
    · exact .or .none (.or .none (.or (two fun _ => Nat.le_refl 2) (two fun _ => Nat.le_refl 2)))
  | unix edition =>
    refine (congrArg Long (if_neg short)).mpr (.or (two fun _ => Nat.le_refl 2) ?_)
    refine .or (two fun _ => Nat.le_refl 2) ?_
    split
    · exact .none
    · exact two fun _ => Nat.le_succ 2
  | hongKong =>
    exact (congrArg Long (if_neg short)).mpr
      (.or (two fun _ => Nat.le_refl 2) (two fun _ => Nat.le_refl 2))

/-- Two bytes of which the first is no question mark are not put together from the bytes of two
characters that have two each, or none. -/
theorem append_ne {first? second? : Option (List UInt8)} (long : Long first?)
    (longToo : Long second?) {high low : UInt8} (other : high ≠ replacement) :
    first?.getD [replacement] ++ second?.getD [replacement] ≠ [high, low] := by
  have nonempty : 1 ≤ (second?.getD [replacement]).length := by
    cases found : second? with
    | none => exact Nat.le_refl 1
    | some bytes => exact Nat.le_of_succ_le (longToo bytes found)
  intro same
  cases found : first? with
  | none =>
    rw [found] at same
    exact other (List.cons.inj same).1.symm
  | some bytes =>
    have two : 2 ≤ bytes.length := long bytes found
    have length := congrArg List.length same
    rw [found, Option.getD_some, List.length_append, List.length_cons, List.length_singleton]
      at length
    omega

/-- The characters of a pair that has a code. -/
def joined : PairSet → Char × Char
  | shiftJis _ | unix _ => ('か', '\u309a')
  | hongKong => ('Ê', '\u0304')

/-- The pair is not written as its characters are. -/
theorem encode_joined_ne (set : PairSet) :
    set.encode [set.joined.1] ++ set.encode [set.joined.2] ≠
      set.encode [set.joined.1, set.joined.2] := by
  have single (char : Char) : set.encode [char] = (set.code? char).getD [replacement] :=
    List.append_nil _
  obtain ⟨long, longToo⟩ : Long (set.code? set.joined.1) ∧ Long (set.code? set.joined.2) := by
    cases set <;> exact
      ⟨code?_long _ (Nat.le_of_ble_eq_true rfl) rfl rfl,
        code?_long _ (Nat.le_of_ble_eq_true rfl) rfl rfl⟩
  rw [single, single]
  cases set with
  | shiftJis edition => exact append_ne long longToo (show (0x82 : UInt8) ≠ replacement by decide)
  | unix edition => exact append_ne long longToo (show (0xA4 : UInt8) ≠ replacement by decide)
  | hongKong => exact append_ne long longToo (show (0x88 : UInt8) ≠ replacement by decide)

end PairSet

/-! ### Shifts -/

namespace Shifts

variable {shifts : Shifts} {char : Char}

/-- A character that the first mode has is a piece of that mode. -/
theorem piece_of_first {opening : List UInt8} {blocks : List Block} {modes : List Mode}
    {code : Nat} (first : shifts.modes = .ofBlocks opening blocks :: modes)
    (beyond : ¬char.toNat < 0x80) (found : Block.code? blocks char = some code) :
    shifts.piece char = { opening := opening, bytes := twoBytes code } := by
  unfold piece
  rw [if_neg beyond, first, List.findSome?_cons]
  unfold Mode.ofBlocks
  dsimp only
  rw [found]
  rfl

/-- Two characters of a mode are not shifted one by one. -/
theorem encode_twice_ne (opens : (shifts.piece char).opening ≠ [])
    (alone : shifts.pair? char char = none) :
    shifts.encode [char] ++ shifts.encode [char] ≠ shifts.encode [char, char] := by
  have closed : (shifts.piece char).opening.length ≠ 0 := by simpa using opens
  intro same
  have length := congrArg List.length same
  simp [encode, joinPairs, alone, join, opens] at length
  omega

end Shifts

/-! ### Texts -/

namespace Charset

/-- In an encoding without a mark, one that writes each character by itself writes a text so. -/
theorem flatten_encode {charset : Charset} (alone : charset.isContextual = false)
    (unmarked : charset.mark = []) (text : List Char) :
    (text.map fun char => charset.encode [char]).flatten = charset.encode text := by
  simp only [encode_of_not_isContextual alone, unmarked, List.nil_append, List.flatMap_singleton]
  exact List.flatMap_def.symm

/-- A text that is written otherwise than its characters, where there is one. -/
def joined : Charset → List Char
  | utf7 => ['é', 'é']
  | punycode => ['a', 'a']
  | pairs set => [set.joined.1, set.joined.2]
  | iso2022 .korean => [firstSyllable, firstSyllable]
  | _ => [wideBlank, wideBlank]

theorem joined_ne {charset : Charset} (contextual : charset.isContextual = true) :
    (charset.joined.map fun char => charset.encode [char]).flatten ≠
      charset.encode charset.joined := by
  have twice {shifts : Shifts} {char : Char} {opening : List UInt8} {blocks : List Block}
      {modes : List Mode} {code : Nat} (first : shifts.modes = .ofBlocks opening blocks :: modes)
      (beyond : ¬char.toNat < 0x80) (found : Block.code? blocks char = some code)
      (opens : opening ≠ []) (alone : shifts.pair? char char = none) :
      ([char, char].map fun char => shifts.encode [char]).flatten ≠ shifts.encode [char, char] := by
    have piece := shifts.piece_of_first first beyond found
    simpa using shifts.encode_twice_ne (by rw [piece]; exact opens) alone
  cases charset with
  | utf7 | punycode =>
    -- the texts differ in their length already
    exact fun same => absurd (congrArg List.length same) (by decide +kernel)
  | pairs set =>
    show [set.encode [set.joined.1], set.encode [set.joined.2]].flatten ≠
      set.encode [set.joined.1, set.joined.2]
    simpa using set.encode_joined_ne
  | hz => exact @twice hzShifts _ _ _ _ _ rfl (by decide) gb2312_wideBlank (by decide) rfl
  | iso2022 version =>
    have japanese {version : Iso2022} {modes : List Mode}
        (first : version.shifts.modes = Iso2022.jis208 :: modes)
        (alone : version.shifts.pair? wideBlank wideBlank = none) :=
      twice first (by decide) jis208_wideBlank (by decide) alone
    cases version with
    | korean =>
      exact @twice Iso2022.korean.shifts _ _ _ _ _ rfl (by decide) ks1001_firstSyllable
        (by decide) rfl
    | japanese => exact @japanese .japanese _ rfl rfl
    | japanese1 => exact @japanese .japanese1 _ rfl rfl
    | japanese2 => exact @japanese .japanese2 _ rfl rfl
    | japanese3 => exact @japanese .japanese3 _ rfl rfl
    | japanese2004 => exact @japanese .japanese2004 _ rfl rfl
    | japaneseExtended => exact @japanese .japaneseExtended _ rfl rfl
  | _ => cases contextual

end Charset

end KeyFeed
