/-
This file says that reading UTF-8 accepts nothing but what writing it produces. A lead byte
and the bytes in its ranges give a code whose shortest form they are, and the narrower ranges
leave no code out but the surrogates. So bytes that are read come back when the text is
written again, and all others are refused: overlong forms, surrogates, codes beyond the last
one, and continuation bytes that are missing or stray.

For a script that is loaded this settles every file. It holds a text, with a mark in front or
without; or only a beginning of a mark, which is read as nothing; or it is refused.
-/

import KeyFeed.Proofs.Charset.RoundTrip
import KeyFeed.Script.Source

namespace KeyFeed

namespace Utf8

open Charset (utf8Bytes)

/-! ### Lead bytes and what follows them -/

/-- The ranges after a lead byte. The byte behind it is restricted where the code would be too
small, a surrogate, or too large. -/
inductive Starts (lead : Nat) : List (Nat × Nat) → Prop
  | one (most : lead < 0x80) : Starts lead []
  | two (least : 0xC2 ≤ lead) (most : lead < 0xE0) : Starts lead [anyContinuation]
  | three {range : Nat × Nat} (least : 0xE0 ≤ lead) (most : lead < 0xF0) (low : 0x80 ≤ range.1)
      (high : range.2 ≤ 0xBF) (shortest : lead = 0xE0 → 0xA0 ≤ range.1)
      (noSurrogate : lead = 0xED → range.2 ≤ 0x9F) : Starts lead [range, anyContinuation]
  | four {range : Nat × Nat} (least : 0xF0 ≤ lead) (most : lead < 0xF5) (low : 0x80 ≤ range.1)
      (high : range.2 ≤ 0xBF) (shortest : lead = 0xF0 → 0x90 ≤ range.1)
      (inPlanes : lead = 0xF4 → range.2 ≤ 0x8F) :
      Starts lead [range, anyContinuation, anyContinuation]

theorem starts_of_following {lead : Nat} {ranges : List (Nat × Nat)}
    (found : following lead = some ranges) : Starts lead ranges := by
  unfold following at found
  split at found
  · rename_i most
    cases found
    exact .one most
  split at found
  · cases found
  split at found
  · cases found
    exact .two (by omega) (by assumption)
  split at found
  · cases found
    exact .three (by omega) (by omega) (by decide) (by decide) (fun _ => by decide) (by omega)
  split at found
  · cases found
    exact .three (by omega) (by omega) (by decide) (by decide) (by omega) (fun _ => by decide)
  split at found
  · cases found
    exact .three (by omega) (by omega) (by decide) (by decide) (by omega) (by omega)
  split at found
  · cases found
    exact .four (by omega) (by omega) (by decide) (by decide) (fun _ => by decide) (by omega)
  split at found
  · cases found
    exact .four (by omega) (by omega) (by decide) (by decide) (by omega) (by omega)
  split at found
  · cases found
    exact .four (by omega) (by omega) (by decide) (by decide) (by omega) (fun _ => by decide)
  · cases found

/-- The byte can continue a sequence. -/
def Continues (byte : UInt8) : Prop := 0x80 ≤ byte.toNat ∧ byte.toNat ≤ 0xBF

/-- What completes a sequence begins with a byte in the first range, and the rest completes it. -/
theorem follow_eq_complete {range : Nat × Nat} {ranges : List (Nat × Nat)}
    {code fitting whole : Nat} {bytes : List UInt8}
    (completes : follow (range :: ranges) code fitting bytes = .complete whole) :
    ∃ byte rest, bytes = byte :: rest ∧ (range.1 ≤ byte.toNat ∧ byte.toNat ≤ range.2) ∧
      follow ranges (64 * code + byte.toNat % 64) (fitting + 1) rest = .complete whole := by
  cases bytes with
  | nil => cases completes
  | cons byte rest =>
    rw [follow] at completes
    split at completes
    · rename_i fits
      exact ⟨byte, rest, rfl, fits, completes⟩
    · cases completes

/-! ### The shortest form -/

theorem toUInt8_of_toNat {number : Nat} {byte : UInt8} (same : number = byte.toNat) :
    number.toUInt8 = byte := by
  rw [same]
  exact UInt8.ofNat_toNat

theorem utf8Bytes_two {lead last : UInt8} (least : 0xC2 ≤ lead.toNat) (most : lead.toNat < 0xE0)
    (ends : Continues last) :
    utf8Bytes (64 * (lead.toNat % 32) + last.toNat % 64) = [lead, last] := by
  obtain ⟨low, high⟩ := ends
  unfold utf8Bytes
  rw [if_neg (by omega), if_pos (by omega), @toUInt8_of_toNat _ lead (by omega),
    @toUInt8_of_toNat _ last (by omega)]

theorem utf8Bytes_three {lead second last : UInt8} (least : 0xE0 ≤ lead.toNat)
    (most : lead.toNat < 0xF0) (goesOn : Continues second)
    (shortest : lead.toNat = 0xE0 → 0xA0 ≤ second.toNat) (ends : Continues last) :
    utf8Bytes (64 * (64 * (lead.toNat % 16) + second.toNat % 64) + last.toNat % 64) =
      [lead, second, last] := by
  obtain ⟨low, high⟩ := goesOn
  obtain ⟨lastLow, lastHigh⟩ := ends
  unfold utf8Bytes
  rw [if_neg (by omega), if_neg (by omega), if_pos (by omega),
    @toUInt8_of_toNat _ lead (by omega), @toUInt8_of_toNat _ second (by omega),
    @toUInt8_of_toNat _ last (by omega)]

theorem utf8Bytes_four {lead second third last : UInt8} (least : 0xF0 ≤ lead.toNat)
    (most : lead.toNat < 0xF5) (goesOn : Continues second)
    (shortest : lead.toNat = 0xF0 → 0x90 ≤ second.toNat) (goesOnToo : Continues third)
    (ends : Continues last) :
    utf8Bytes (64 * (64 * (64 * (lead.toNat % 8) + second.toNat % 64) + third.toNat % 64) +
      last.toNat % 64) = [lead, second, third, last] := by
  obtain ⟨low, high⟩ := goesOn
  obtain ⟨thirdLow, thirdHigh⟩ := goesOnToo
  obtain ⟨lastLow, lastHigh⟩ := ends
  unfold utf8Bytes
  rw [if_neg (by omega), if_neg (by omega), if_neg (by omega),
    @toUInt8_of_toNat _ lead (by omega), @toUInt8_of_toNat _ second (by omega),
    @toUInt8_of_toNat _ third (by omega), @toUInt8_of_toNat _ last (by omega)]

/-- What is read as a code is its shortest form, and the code is one of a character. -/
theorem utf8Bytes_of_complete {lead : UInt8} {ranges : List (Nat × Nat)}
    (starts : Starts lead.toNat ranges) {rest : List UInt8} {code : Nat}
    (completes : follow ranges (leadBits lead.toNat ranges.length) 1 rest = .complete code) :
    code.isValidChar ∧ lead :: rest = utf8Bytes code ++ rest.drop ranges.length := by
  unfold Nat.isValidChar
  cases starts with
  | one most =>
    obtain rfl : lead.toNat = code := Sequence.complete.inj completes
    refine ⟨Or.inl (by omega), ?_⟩
    rw [utf8Bytes, if_pos most, toUInt8_of_toNat rfl]
    rfl
  | two least most =>
    obtain ⟨last, rest, rfl, ends, completes⟩ := follow_eq_complete completes
    obtain rfl : 64 * (lead.toNat % 32) + last.toNat % 64 = code :=
      Sequence.complete.inj completes
    refine ⟨Or.inl (by omega), ?_⟩
    rw [utf8Bytes_two least most ends]
    rfl
  | three least most low high shortest noSurrogate =>
    obtain ⟨second, rest, rfl, inRange, completes⟩ := follow_eq_complete completes
    obtain ⟨last, rest, rfl, ends, completes⟩ := follow_eq_complete completes
    obtain rfl : 64 * (64 * (lead.toNat % 16) + second.toNat % 64) + last.toNat % 64 = code :=
      Sequence.complete.inj completes
    have goesOn : Continues second := ⟨by omega, by omega⟩
    have valid : lead.toNat = 0xED → second.toNat ≤ 0x9F := by omega
    refine ⟨?_, ?_⟩
    · have lowest := goesOn.1
      by_cases near : lead.toNat ≤ 0xED
      · exact Or.inl (by omega)
      · exact Or.inr (by omega)
    · rw [utf8Bytes_three least most goesOn (by omega) ends]
      rfl
  | four least most low high shortest inPlanes =>
    obtain ⟨second, rest, rfl, inRange, completes⟩ := follow_eq_complete completes
    obtain ⟨third, rest, rfl, goesOnToo, completes⟩ := follow_eq_complete completes
    obtain ⟨last, rest, rfl, ends, completes⟩ := follow_eq_complete completes
    obtain rfl : 64 * (64 * (64 * (lead.toNat % 8) + second.toNat % 64) + third.toNat % 64) +
        last.toNat % 64 = code := Sequence.complete.inj completes
    have goesOn : Continues second := ⟨by omega, by omega⟩
    refine ⟨Or.inr ?_, ?_⟩
    · have lowest := goesOn.1
      omega
    · rw [utf8Bytes_four least most goesOn (by omega) goesOnToo ends]
      rfl

/-! ### Whole texts -/

/-- What is read comes back when it is written again. -/
theorem eq_encode_of_decodeFrom {position : Nat} {bytes : List UInt8} {text : List Char}
    (reads : decodeFrom position bytes = .ok text) : bytes = encode text := by
  fun_induction decodeFrom position bytes generalizing text with
  | case1 =>
    cases reads
    rfl
  | case2 => cases reads
  | case3 => cases reads
  | case4 position lead rest ranges found code completes inductionHypothesis =>
    obtain ⟨valid, shape⟩ := utf8Bytes_of_complete (starts_of_following found) completes
    cases later : decodeFrom (position + 1 + ranges.length) (rest.drop ranges.length) with
    | error report =>
      rw [later] at reads
      cases reads
    | ok others =>
      rw [later] at reads
      cases reads
      have same : (Char.ofNat code).toNat = code := by
        rw [Char.ofNat, dif_pos valid]
        rfl
      rw [shape, inductionHypothesis later, encode_cons, same]

/-- Bytes are read as a text exactly when they are those of the text. -/
theorem decode_eq_ok_iff {bytes : List UInt8} {text : List Char} :
    decode bytes = .ok text ↔ bytes = encode text := by
  refine ⟨eq_encode_of_decodeFrom, fun same => ?_⟩
  rw [same, decode_encode]

/-- The bytes of a character are those that the standard library gives it. -/
theorem utf8Bytes_toNat (char : Char) : utf8Bytes char.toNat = String.utf8EncodeChar char := by
  have bounded := toNat_lt char
  unfold utf8Bytes String.utf8EncodeChar
  change _ = if char.toNat ≤ 0x7F then _ else if char.toNat ≤ 0x7FF then _ else
    if char.toNat ≤ 0xFFFF then _ else _
  by_cases one : char.toNat < 0x80
  · rw [if_pos one, if_pos (by omega)]
    rfl
  by_cases two : char.toNat < 0x800
  · have lead : 0xC0 + char.toNat / 64 = char.toNat / 64 % 32 + 192 := by omega
    rw [if_neg one, if_pos two, if_neg (by omega), if_pos (by omega), lead, Nat.add_comm 0x80]
    rfl
  by_cases three : char.toNat < 0x10000
  · have lead : 0xE0 + char.toNat / 4096 = char.toNat / 4096 % 16 + 224 := by omega
    rw [if_neg one, if_neg two, if_pos three, if_neg (by omega), if_neg (by omega),
      if_pos (by omega), lead, Nat.add_comm 0x80, Nat.add_comm 0x80]
    rfl
  · have lead : 0xF0 + char.toNat / 262144 = char.toNat / 262144 % 8 + 240 := by omega
    rw [if_neg one, if_neg two, if_neg three, if_neg (by omega), if_neg (by omega),
      if_neg (by omega), lead, Nat.add_comm 0x80, Nat.add_comm 0x80, Nat.add_comm 0x80]
    rfl

/-- The bytes of a text as the standard library writes it. -/
theorem encode_eq_flatMap (text : List Char) : encode text = text.flatMap String.utf8EncodeChar :=
  congrArg text.flatMap (funext utf8Bytes_toNat)

/-! ### The mark -/

/-- The bytes hold the text, with a mark in front of it or without. -/
def Holds (bytes : List UInt8) (text : List Char) : Prop :=
  bytes = text.flatMap String.utf8EncodeChar ∨
    bytes = mark ++ text.flatMap String.utf8EncodeChar

theorem decodeMarked_of_beginsMark {bytes : List UInt8} (begins : BeginsMark bytes) :
    decodeMarked bytes = .ok [] := by
  rcases begins with rfl | rfl <;> rfl

/-- All other bytes are refused. -/
theorem decodeMarked_error {bytes : List UInt8} (other : ∀ text, ¬Holds bytes text)
    (noMark : ¬BeginsMark bytes) : ∃ report, decodeMarked bytes = .error report := by
  have refused (part : List UInt8) (unwritten : ∀ text, part ≠ encode text) :
      ∃ report, decode part = .error report := by
    cases reads : decode part with
    | error report => exact ⟨report, rfl⟩
    | ok text => exact absurd (decode_eq_ok_iff.mp reads) (unwritten text)
  unfold decodeMarked
  split
  · rename_i begins
    rcases beginsMark_of_isPrefixOf begins.1 begins.2 with empty | begins
    · exact absurd (Or.inl empty) (other [])
    · exact absurd begins noMark
  split
  · rename_i marked
    obtain ⟨rest, rfl⟩ := List.isPrefixOf_iff_prefix.mp marked
    rw [List.drop_left]
    refine refused rest fun text same => other text (Or.inr ?_)
    rw [same, encode_eq_flatMap]
  · refine refused bytes fun text same => other text (Or.inl ?_)
    rw [same, encode_eq_flatMap]

end Utf8

/-! ### Scripts -/

namespace Script

open Utf8 (Holds BeginsMark mark markChar)

/-- A file at a path is loaded as the text that it holds in UTF-8, with every carriage return and
line feed. One mark in front does not count: a text that begins with a mark is loaded whole
from behind another one. A file with a beginning of a mark is loaded as nothing, and every
other file is refused, with its path. -/
theorem loadScript_exact {opening : Opening} {path : String} {bytes : List UInt8}
    (plain : '\x00' ∉ path.toList) (found : opening path = .ok bytes) :
    (∀ text : List Char, text.head? ≠ some markChar →
        bytes = text.flatMap String.utf8EncodeChar → loadScript opening path = .ok text) ∧
      (∀ text : List Char, bytes = mark ++ text.flatMap String.utf8EncodeChar →
        loadScript opening path = .ok text) ∧
      (BeginsMark bytes → loadScript opening path = .ok []) ∧
      ((∀ text, ¬Holds bytes text) → ¬BeginsMark bytes →
        ∃ report, loadScript opening path = .error (.unreadable path (.malformed report))) := by
  have loads : loadScript opening path =
      (Utf8.decodeMarked bytes).mapError fun report => .unreadable path (.malformed report) := by
    simp only [loadScript, if_neg plain, found]
    cases Utf8.decodeMarked bytes <;> rfl
  refine ⟨fun text unmarked written => ?_, fun text written => ?_, fun begins => ?_,
    fun other noMark => ?_⟩
  · rw [loads, written, ← Utf8.encode_eq_flatMap, Utf8.decodeMarked_encode unmarked]
    rfl
  · rw [loads, written, ← Utf8.encode_eq_flatMap, Utf8.decodeMarked_mark]
    rfl
  · rw [loads, Utf8.decodeMarked_of_beginsMark begins]
    rfl
  · obtain ⟨report, refused⟩ := Utf8.decodeMarked_error other noMark
    rw [loads, refused]
    exact ⟨report, rfl⟩

/-- A text behind two marks, of which the second one is its first character, and a NUL in two bytes
instead of one. -/
theorem loadScript_exact_of_marks :
    let marked : Opening := fun _ => .ok [0xEF, 0xBB, 0xBF, 0xEF, 0xBB, 0xBF, 0x41, 0x0D, 0x0A]
    let overlong : Opening := fun _ => .ok [0xC0, 0x80]
    '\x00' ∉ "script.txt".toList ∧
      loadScript marked "script.txt" = .ok [markChar, 'A', '\r', '\n'] ∧
      ∃ report, loadScript overlong "script.txt" =
        .error (.unreadable "script.txt" (.malformed report)) := by
  intro marked overlong
  have plain : '\x00' ∉ "script.txt".toList := by decide
  have unheld : ∀ text, ¬Holds [0xC0, 0x80] text := by
    rintro text (written | marked)
    · have reads := Utf8.decode_eq_ok_iff.mpr (written.trans (Utf8.encode_eq_flatMap text).symm)
      rw [Utf8.decode, Utf8.decodeFrom] at reads
      cases reads
    · cases marked
  have noMark : ¬BeginsMark [0xC0, 0x80] := by
    rintro (one | two)
    · cases one
    · cases two
  exact ⟨plain, (@loadScript_exact marked _ _ plain rfl).2.1 _ rfl,
    (@loadScript_exact overlong _ _ plain rfl).2.2.2 unheld noMark⟩

end Script

end KeyFeed
