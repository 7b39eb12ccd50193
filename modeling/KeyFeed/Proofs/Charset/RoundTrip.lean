/-
This file says that reading UTF-8 undoes writing it. The bytes of a character lie in the
ranges that its lead byte allows: that the code is written in the shortest form and is no
surrogate is just what the narrower ranges ask for. So whatever follows, the character is
read off the front, and a text is read off its bytes one character after the other.

A byte order mark in front is dropped once. Bytes that begin with a mark are those of a
text that begins with one, so a text that does not is read as it was written.
-/

import KeyFeed.Charset.Utf8

namespace KeyFeed.Utf8

open Charset (utf8Bytes)

/-! ### One sequence -/

theorem toNat_toUInt8 {number : Nat} (small : number < 256) : number.toUInt8.toNat = number :=
  UInt8.toNat_ofNat_of_lt' small

theorem toUInt8_ne {number : Nat} {byte : UInt8} (small : number < 256)
    (other : number ≠ byte.toNat) : number.toUInt8 ≠ byte := by
  rintro rfl
  exact other (toNat_toUInt8 small).symm

/-- All bytes of a longer sequence are 128 at least, so a byte below that is only in the character
of its own code. -/
theorem not_mem_utf8Bytes {byte : UInt8} (low : byte.toNat < 0x80) {code : Nat}
    (bounded : code < 0x110000) (other : code ≠ byte.toNat) : byte ∉ utf8Bytes code := by
  have high {number : Nat} (least : 0x80 ≤ number) (most : number < 256) :
      number.toUInt8 ≠ byte := toUInt8_ne most (by omega)
  have each : ∀ written ∈ utf8Bytes code, written ≠ byte := by
    unfold utf8Bytes
    split
    · exact List.forall_mem_singleton.mpr (toUInt8_ne (by omega) other)
    · have last := @high (0x80 + code % 64) (by omega) (by omega)
      split
      · simp only [List.forall_mem_cons]
        exact ⟨high (by omega) (by omega), last, nofun⟩
      · have middle := @high (0x80 + code / 64 % 64) (by omega) (by omega)
        split
        · simp only [List.forall_mem_cons]
          exact ⟨high (by omega) (by omega), middle, last, nofun⟩
        · simp only [List.forall_mem_cons]
          exact ⟨high (by omega) (by omega), high (by omega) (by omega), middle, last, nofun⟩
  exact fun member => each byte member rfl

/-- A byte in its range adds its six bits to the code. -/
theorem follow_cons {range : Nat × Nat} {bits : Nat} (low : range.1 ≤ 0x80 + bits)
    (high : 0x80 + bits ≤ range.2) (small : bits < 64) (ranges : List (Nat × Nat))
    (code fitting : Nat) (rest : List UInt8) :
    follow (range :: ranges) code fitting ((0x80 + bits).toUInt8 :: rest) =
      follow ranges (64 * code + bits) (fitting + 1) rest := by
  have byte : (0x80 + bits).toUInt8.toNat = 0x80 + bits := toNat_toUInt8 (by omega)
  have kept : (0x80 + bits) % 64 = bits := by omega
  rw [follow, byte, if_pos ⟨low, high⟩, kept]

/-- Any six bits are in the range of a byte that is not restricted. -/
theorem follow_any {bits : Nat} (small : bits < 64) (ranges : List (Nat × Nat))
    (code fitting : Nat) (rest : List UInt8) :
    follow (anyContinuation :: ranges) code fitting ((0x80 + bits).toUInt8 :: rest) =
      follow ranges (64 * code + bits) (fitting + 1) rest := by
  refine follow_cons ?_ ?_ small ranges code fitting rest
  · exact Nat.le_add_right 0x80 bits
  · show 0x80 + bits ≤ 0xBF
    omega

/-- A lead byte and the bytes that complete its sequence are read as the character of the code. -/
theorem decodeFrom_sequence {lead : Nat} (small : lead < 256) {ranges : List (Nat × Nat)}
    (starts : following lead = some ranges) {tail rest : List UInt8} {code : Nat}
    (counted : tail.length = ranges.length)
    (completes : follow ranges (leadBits lead ranges.length) 1 (tail ++ rest) = .complete code)
    (position : Nat) :
    decodeFrom position (lead.toUInt8 :: tail ++ rest) =
      (decodeFrom (position + (lead.toUInt8 :: tail).length) rest).map (Char.ofNat code :: ·) := by
  have after : position + (lead.toUInt8 :: tail).length = position + 1 + ranges.length := by
    rw [List.length_cons, counted]
    omega
  rw [List.cons_append, decodeFrom, toNat_toUInt8 small, starts]
  dsimp only
  rw [completes]
  dsimp only
  rw [after, ← counted, List.drop_left]

/-! ### The ranges of a code -/

theorem following_one {code : Nat} (short : code < 0x80) : following code = some [] :=
  if_pos short

theorem following_two {high : Nat} (least : 2 ≤ high) (most : high < 32) :
    following (0xC0 + high) = some [anyContinuation] := by
  unfold following
  rw [if_neg (by omega), if_neg (by omega), if_pos (by omega)]

/-- The second byte of three is restricted where the code would be too small, or a surrogate. -/
theorem following_three {code : Nat} (least : 0x800 ≤ code) (most : code < 0x10000)
    (noSurrogate : code < 0xD800 ∨ 0xDFFF < code) :
    ∃ range, following (0xE0 + code / 4096) = some [range, anyContinuation] ∧
      range.1 ≤ 0x80 + code / 64 % 64 ∧ 0x80 + code / 64 % 64 ≤ range.2 := by
  unfold following
  rw [if_neg (by omega), if_neg (by omega), if_neg (by omega)]
  by_cases first : 0xE0 + code / 4096 = 0xE0
  · rw [if_pos first]
    exact ⟨(0xA0, 0xBF), rfl, by dsimp only; omega, by dsimp only; omega⟩
  · rw [if_neg first]
    by_cases near : 0xE0 + code / 4096 = 0xED
    · rw [if_pos near]
      exact ⟨(0x80, 0x9F), rfl, by dsimp only; omega, by dsimp only; omega⟩
    · rw [if_neg near, if_pos (by omega)]
      exact ⟨anyContinuation, rfl, by dsimp only [anyContinuation]; omega,
        by dsimp only [anyContinuation]; omega⟩

/-- The second byte of four is restricted where the code would be too small, or too large. -/
theorem following_four {code : Nat} (least : 0x10000 ≤ code) (most : code < 0x110000) :
    ∃ range, following (0xF0 + code / 262144) =
        some [range, anyContinuation, anyContinuation] ∧
      range.1 ≤ 0x80 + code / 4096 % 64 ∧ 0x80 + code / 4096 % 64 ≤ range.2 := by
  unfold following
  rw [if_neg (by omega), if_neg (by omega), if_neg (by omega), if_neg (by omega),
    if_neg (by omega), if_neg (by omega)]
  by_cases first : 0xF0 + code / 262144 = 0xF0
  · rw [if_pos first]
    exact ⟨(0x90, 0xBF), rfl, by dsimp only; omega, by dsimp only; omega⟩
  · rw [if_neg first]
    by_cases middle : 0xF0 + code / 262144 < 0xF4
    · rw [if_pos middle]
      exact ⟨anyContinuation, rfl, by dsimp only [anyContinuation]; omega,
        by dsimp only [anyContinuation]; omega⟩
    · rw [if_neg middle, if_pos (by omega)]
      exact ⟨(0x80, 0x8F), rfl, by dsimp only; omega, by dsimp only; omega⟩

/-! ### Characters and texts -/

/-- A code that is no surrogate is read back from its bytes, whatever follows them. -/
theorem decodeFrom_utf8Bytes {code : Nat} (valid : code.isValidChar) (position : Nat)
    (rest : List UInt8) :
    decodeFrom position (utf8Bytes code ++ rest) =
      (decodeFrom (position + (utf8Bytes code).length) rest).map (Char.ofNat code :: ·) := by
  have bounds : code < 0xD800 ∨ 0xDFFF < code ∧ code < 0x110000 := valid
  unfold utf8Bytes
  by_cases one : code < 0x80
  · rw [if_pos one]
    exact decodeFrom_sequence (by omega) (following_one one) rfl rfl position
  · rw [if_neg one]
    by_cases two : code < 0x800
    · rw [if_pos two]
      refine decodeFrom_sequence (by omega) (following_two (by omega) (by omega)) rfl ?_ position
      rw [List.cons_append, follow_any (by omega)]
      refine congrArg Sequence.complete ?_
      show 64 * ((0xC0 + code / 64) % 32) + code % 64 = code
      omega
    · rw [if_neg two]
      by_cases three : code < 0x10000
      · obtain ⟨range, starts, low, high⟩ := following_three (by omega) three (by omega)
        rw [if_pos three]
        refine decodeFrom_sequence (by omega) starts rfl ?_ position
        rw [List.cons_append, follow_cons low high (by omega), List.cons_append,
          follow_any (by omega)]
        refine congrArg Sequence.complete ?_
        show 64 * (64 * ((0xE0 + code / 4096) % 16) + code / 64 % 64) + code % 64 = code
        omega
      · obtain ⟨range, starts, low, high⟩ := @following_four code (by omega) (by omega)
        rw [if_neg three]
        refine decodeFrom_sequence (by omega) starts rfl ?_ position
        rw [List.cons_append, follow_cons low high (by omega), List.cons_append,
          follow_any (by omega), List.cons_append, follow_any (by omega)]
        refine congrArg Sequence.complete ?_
        show 64 * (64 * (64 * ((0xF0 + code / 262144) % 8) + code / 4096 % 64) +
          code / 64 % 64) + code % 64 = code
        omega

theorem toNat_lt (char : Char) : char.toNat < 0x110000 := by
  have valid : char.toNat.isValidChar := char.valid
  unfold Nat.isValidChar at valid
  omega

theorem encode_cons (char : Char) (text : List Char) :
    encode (char :: text) = utf8Bytes char.toNat ++ encode text := rfl

theorem decodeFrom_encode (position : Nat) (text : List Char) :
    decodeFrom position (encode text) = .ok text := by
  induction text generalizing position with
  | nil =>
    rw [show encode [] = [] from rfl, decodeFrom]
  | cons char rest inductionHypothesis =>
    have valid : char.toNat.isValidChar := char.valid
    rw [encode_cons, decodeFrom_utf8Bytes valid, inductionHypothesis, Char.ofNat_toNat]
    rfl

/-- A text is read back from its bytes. -/
theorem decode_encode (text : List Char) : decode (encode text) = .ok text :=
  decodeFrom_encode 0 text

/-! ### The mark -/

/-- The character whose bytes are the mark. -/
def markChar : Char := '\uFEFF'

/-- The bytes of a text begin with a mark only when the text does. -/
theorem head?_of_mark_isPrefixOf {text : List Char} (begins : mark.isPrefixOf (encode text)) :
    text.head? = some markChar := by
  obtain ⟨rest, shape⟩ := List.isPrefixOf_iff_prefix.mp begins
  have whole := decode_encode text
  have reads : decode (mark ++ rest) =
      (decodeFrom (0 + mark.length) rest).map (markChar :: ·) :=
    decodeFrom_utf8Bytes markChar.valid 0 rest
  rw [← shape, reads] at whole
  cases later : decodeFrom (0 + mark.length) rest with
  | error report =>
    rw [later] at whole
    cases whole
  | ok others =>
    rw [later] at whole
    cases whole
    rfl

/-- The bytes are the beginning of a mark. -/
def BeginsMark (bytes : List UInt8) : Prop := bytes = [0xEF] ∨ bytes = [0xEF, 0xBB]

theorem beginsMark_of_isPrefixOf {bytes : List UInt8} (short : bytes.length < mark.length)
    (begins : bytes.isPrefixOf mark) : bytes = [] ∨ BeginsMark bytes := by
  have part := List.prefix_iff_eq_take.mp (List.isPrefixOf_iff_prefix.mp begins)
  have counted : mark.length = 3 := rfl
  have counts : bytes.length = 0 ∨ bytes.length = 1 ∨ bytes.length = 2 := by omega
  rcases counts with none | one | two
  · exact Or.inl (List.length_eq_zero_iff.mp none)
  · rw [one] at part
    exact Or.inr (Or.inl part)
  · rw [two] at part
    exact Or.inr (Or.inr part)

/-- A text whose bytes are only a part of a mark is empty. -/
theorem eq_nil_of_isPrefixOf_mark {text : List Char} (short : (encode text).length < mark.length)
    (begins : (encode text).isPrefixOf mark) : text = [] := by
  have whole := decode_encode text
  rcases beginsMark_of_isPrefixOf short begins with none | one | two
  · rw [none, decode, decodeFrom] at whole
    cases whole
    rfl
  · rw [one, decode, decodeFrom] at whole
    cases whole
  · rw [two, decode, decodeFrom] at whole
    cases whole

/-- A text is read back from its bytes, with a mark in front of them or without, unless it begins
with a mark itself. -/
theorem decodeMarked_encode {text : List Char} (unmarked : text.head? ≠ some markChar) :
    decodeMarked (encode text) = .ok text := by
  unfold decodeMarked
  split
  · rename_i part
    rw [eq_nil_of_isPrefixOf_mark part.1 part.2]
  · rw [if_neg (fun begins => unmarked (head?_of_mark_isPrefixOf begins))]
    exact decode_encode text

/-- One mark is dropped. -/
theorem decodeMarked_mark (text : List Char) : decodeMarked (mark ++ encode text) = .ok text := by
  have long : ¬((mark ++ encode text).length < mark.length ∧
      (mark ++ encode text).isPrefixOf mark) := by
    rw [List.length_append]
    omega
  unfold decodeMarked
  rw [if_neg long, if_pos (List.isPrefixOf_iff_prefix.mpr (List.prefix_append _ _)),
    List.drop_left]
  exact decode_encode text

end KeyFeed.Utf8
