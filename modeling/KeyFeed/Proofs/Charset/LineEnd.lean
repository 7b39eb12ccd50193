/-
This file says in which encodings the byte that ends a line stands for nothing else. These
are ASCII, what extends it by a table, and UTF-8: there a byte below 128 is the character of
that code. What is written for a character that cannot be encoded is another byte. An
encoding of two or four bytes a unit is none of them, since it has the byte in other
characters as well.
-/

import KeyFeed.Charset.Name
import KeyFeed.Proofs.Charset.RoundTrip

namespace KeyFeed.Charset

/-- The byte that the adapter takes for the end of a line. -/
def lineEnd : UInt8 := 0x0D

/-- The encodings that can be cut at the byte that ends a line. -/
def framing : List Charset :=
  [ascii, latin1, utf8, page .windows1252, page .ibm437, page .latin9]

/-- These are the encodings of the following names, among others. -/
example : ["ascii", "latin-1", "utf-8", "cp1252", "cp437", "iso8859-15"].map find =
    framing.map .ok := by
  rfl

/-! ### Bytes -/

/-- A code that is its own byte. -/
theorem lineEnd_ne_of_direct {code limit : Nat} (other : code ≠ 13) (small : limit ≤ 256) :
    ∀ byte ∈ (if code < limit then some code.toUInt8 else none), byte ≠ lineEnd := by
  intro byte found
  split at found
  · cases found
    exact Utf8.toUInt8_ne (by omega) other
  · cases found

theorem lineEnd_not_mem_single {byte? : Option UInt8} (other : ∀ byte ∈ byte?, byte ≠ lineEnd) :
    lineEnd ∉ single byte? := by
  cases byte? with
  | none => decide
  | some byte => exact fun member => other byte rfl (List.mem_singleton.mp member).symm

/-- On a page where the byte stands for the carriage return it stands for nothing else. -/
theorem lineEnd_not_mem_pageBytes {page : CodePage} (own : page.byte? '\r' = some lineEnd)
    {char : Char} (other : char ≠ '\r') : lineEnd ∉ pageBytes page char := by
  refine lineEnd_not_mem_single ?_
  rintro byte found rfl
  rcases Option.or_eq_some_iff.mp found with here | ⟨_, mark⟩
  · exact other (CodePage.byte?_unique here own)
  · exact absurd (CodePage.byte?_unique mark own) (by decide)

/-! ### Texts -/

/-- No character but the carriage return is written with the byte that ends a line. -/
theorem lineEnd_not_mem_encodeChar {charset : Charset} (frames : charset ∈ framing) {char : Char}
    (other : char ≠ '\r') : lineEnd ∉ charset.encodeChar char := by
  have code : char.toNat ≠ 13 := fun same => other (Char.toNat_inj.mp same)
  simp only [framing, List.mem_cons, List.not_mem_nil, or_false] at frames
  rcases frames with rfl | rfl | rfl | rfl | rfl | rfl
  · exact lineEnd_not_mem_single (lineEnd_ne_of_direct code (by decide))
  · exact lineEnd_not_mem_single (lineEnd_ne_of_direct code (by decide))
  · exact Utf8.not_mem_utf8Bytes (by decide) (Utf8.toNat_lt char) code
  · exact lineEnd_not_mem_pageBytes rfl other
  · exact lineEnd_not_mem_pageBytes rfl other
  · exact lineEnd_not_mem_pageBytes rfl other

/-- What is written for a text is what is written for its characters. -/
theorem encode_of_framing {charset : Charset} (frames : charset ∈ framing) (text : List Char) :
    charset.encode text = text.flatMap charset.encodeChar := by
  simp only [framing, List.mem_cons, List.not_mem_nil, or_false] at frames
  rcases frames with rfl | rfl | rfl | rfl | rfl | rfl <;> rfl

/-- A text without carriage returns is written without the byte that ends a line. -/
theorem lineEnd_not_mem_encode {charset : Charset} (frames : charset ∈ framing) {text : List Char}
    (other : '\r' ∉ text) : lineEnd ∉ charset.encode text := by
  rw [encode_of_framing frames, List.mem_flatMap]
  rintro ⟨char, inText, inside⟩
  refine lineEnd_not_mem_encodeChar frames ?_ inside
  rintro rfl
  exact other inText

end KeyFeed.Charset
