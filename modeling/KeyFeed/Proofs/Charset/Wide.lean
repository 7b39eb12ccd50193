/-
This file says that the encodings of Unicode without a mark lose nothing. In UTF-16 a text is
cut into units of two bytes, and a pair of surrogates gives one character; in UTF-32 each
character has four bytes. Either order of the bytes is undone by the same order. So a text is
read back from its bytes in five encodings, of which UTF-8 is one.
-/

import KeyFeed.Proofs.Charset.RoundTrip

namespace KeyFeed.Charset

open Utf8 (toNat_lt toNat_toUInt8)

/-! ### Numbers of several bytes -/

/-- Which byte of a number comes first. -/
inductive ByteOrder where
  | little
  | big
  deriving Repr, DecidableEq

/-- Bytes with the low one first as they stand in the order, and back. -/
def ByteOrder.arrange : ByteOrder → List UInt8 → List UInt8
  | little, bytes => bytes
  | big, bytes => bytes.reverse

/-- The number of bytes with the low one first. -/
def numberOf : List UInt8 → Nat
  | [] => 0
  | byte :: rest => byte.toNat + 256 * numberOf rest

/-- The units of two bytes each, unless a byte is left over. -/
def units? (order : ByteOrder) : List UInt8 → Option (List Nat)
  | [] => some []
  | [_] => none
  | first :: second :: rest =>
    (units? order rest).map (numberOf (order.arrange [first, second]) :: ·)

/-- The codes of four bytes each, unless some bytes are left over. -/
def codes? (order : ByteOrder) : List UInt8 → Option (List Nat)
  | [] => some []
  | first :: second :: third :: fourth :: rest =>
    (codes? order rest).map (numberOf (order.arrange [first, second, third, fourth]) :: ·)
  | _ => none

theorem numberOf_littleUnit {unit : Nat} (small : unit < 0x10000) :
    numberOf (littleUnit unit) = unit := by
  simp only [littleUnit, numberOf]
  rw [toNat_toUInt8 (by omega), toNat_toUInt8 (by omega)]
  omega

theorem numberOf_littleWord {code : Nat} (small : code < 0x110000) :
    numberOf (littleWord code) = code := by
  simp only [littleWord, numberOf]
  rw [toNat_toUInt8 (by omega), toNat_toUInt8 (by omega), toNat_toUInt8 (by omega)]
  have zero : (0 : UInt8).toNat = 0 := rfl
  omega

/-- A unit is read off the front of the bytes. -/
theorem units?_arrange (order : ByteOrder) {unit : Nat} (small : unit < 0x10000)
    (rest : List UInt8) :
    units? order (order.arrange (littleUnit unit) ++ rest) =
      (units? order rest).map (unit :: ·) := by
  have same := numberOf_littleUnit small
  cases order with
  | little => exact congrArg (fun number => (units? .little rest).map (number :: ·)) same
  | big => exact congrArg (fun number => (units? .big rest).map (number :: ·)) same

theorem units?_flatMap (order : ByteOrder) {units : List Nat}
    (small : ∀ unit ∈ units, unit < 0x10000) :
    units? order (units.flatMap fun unit => order.arrange (littleUnit unit)) = some units := by
  induction units with
  | nil => rfl
  | cons unit rest inductionHypothesis =>
    obtain ⟨first, others⟩ := List.forall_mem_cons.mp small
    rw [List.flatMap_cons, units?_arrange order first, inductionHypothesis others]
    rfl

/-! ### Texts -/

/-- The code is one of a character: no surrogate, and none beyond the last. -/
def isCharCode (code : Nat) : Bool := code < 0xD800 || (0xDFFF < code && code < 0x110000)

/-- The text of codes, unless one of them is no code of a character. -/
def textOfCodes? : List Nat → Option (List Char)
  | [] => some []
  | code :: rest =>
    if isCharCode code then (textOfCodes? rest).map (Char.ofNat code :: ·) else none

/-- The text of units. A surrogate that begins a pair takes the unit after it, which has to end the
pair; no other unit may be a surrogate. -/
def textOfUnits? : List Nat → Option (List Char)
  | [] => some []
  | [unit] => if isCharCode unit then some [Char.ofNat unit] else none
  | unit :: next :: rest =>
    if isCharCode unit then (textOfUnits? (next :: rest)).map (Char.ofNat unit :: ·)
    else if unit < 0xDC00 ∧ 0xDC00 ≤ next ∧ next ≤ 0xDFFF then
      (textOfUnits? rest).map
        (Char.ofNat (0x10000 + 1024 * (unit - 0xD800) + (next - 0xDC00)) :: ·)
    else none

/-- Reads a text from its bytes, in the encodings of Unicode that write no mark. -/
def decode? : Charset → List UInt8 → Option (List Char)
  | utf8, bytes => (Utf8.decode bytes).toOption
  | utf16Little, bytes => (units? .little bytes).bind textOfUnits?
  | utf16Big, bytes => (units? .big bytes).bind textOfUnits?
  | utf32Little, bytes => (codes? .little bytes).bind textOfCodes?
  | utf32Big, bytes => (codes? .big bytes).bind textOfCodes?
  | _, _ => none

theorem isCharCode_toNat (char : Char) : isCharCode char.toNat = true := by
  have valid : char.toNat.isValidChar := char.valid
  unfold Nat.isValidChar at valid
  unfold isCharCode
  simpa using valid

theorem codes?_flatMap (order : ByteOrder) (text : List Char) :
    codes? order (text.flatMap fun char => order.arrange (littleWord char.toNat)) =
      some (text.map Char.toNat) := by
  have front (char : Char) (rest : List UInt8) :
      codes? order (order.arrange (littleWord char.toNat) ++ rest) =
        (codes? order rest).map (char.toNat :: ·) := by
    have same := numberOf_littleWord (toNat_lt char)
    cases order with
    | little => exact congrArg (fun number => (codes? .little rest).map (number :: ·)) same
    | big => exact congrArg (fun number => (codes? .big rest).map (number :: ·)) same
  induction text with
  | nil => rfl
  | cons char rest inductionHypothesis =>
    rw [List.flatMap_cons, front, inductionHypothesis]
    rfl

theorem textOfCodes?_map (text : List Char) : textOfCodes? (text.map Char.toNat) = some text := by
  induction text with
  | nil => rfl
  | cons char rest inductionHypothesis =>
    rw [List.map_cons, textOfCodes?, if_pos (isCharCode_toNat char), inductionHypothesis,
      Char.ofNat_toNat]
    rfl

/-- A unit that is the code of a character is read by itself, whatever follows it. -/
theorem textOfUnits?_cons {unit : Nat} (valid : isCharCode unit = true) (rest : List Nat) :
    textOfUnits? (unit :: rest) = (textOfUnits? rest).map (Char.ofNat unit :: ·) := by
  cases rest with
  | nil => exact if_pos valid
  | cons next rest => exact if_pos valid

/-- The units of a character are read back, whatever follows them. -/
theorem textOfUnits?_append (char : Char) (rest : List Nat) :
    textOfUnits? (utf16Units char.toNat ++ rest) = (textOfUnits? rest).map (char :: ·) := by
  have bounded := toNat_lt char
  unfold utf16Units
  split
  · rw [List.singleton_append, textOfUnits?_cons (isCharCode_toNat char), Char.ofNat_toNat]
  · rename_i large
    generalize high : 0xD800 + (char.toNat - 0x10000) / 1024 = unit
    generalize low : 0xDC00 + (char.toNat - 0x10000) % 1024 = next
    have surrogate : isCharCode unit = false := by
      unfold isCharCode
      simp only [Bool.or_eq_false_iff, Bool.and_eq_false_iff, decide_eq_false_iff_not]
      omega
    have joined : 0x10000 + 1024 * (unit - 0xD800) + (next - 0xDC00) = char.toNat := by omega
    rw [List.cons_append, List.singleton_append, textOfUnits?, surrogate,
      if_neg Bool.false_ne_true, if_pos (by omega), joined, Char.ofNat_toNat]

theorem textOfUnits?_flatMap (text : List Char) :
    textOfUnits? (text.flatMap fun char => utf16Units char.toNat) = some text := by
  induction text with
  | nil => rfl
  | cons char rest inductionHypothesis =>
    rw [List.flatMap_cons, textOfUnits?_append, inductionHypothesis]
    rfl

theorem utf16Units_lt (char : Char) : ∀ unit ∈ utf16Units char.toNat, unit < 0x10000 := by
  have bounded := toNat_lt char
  unfold utf16Units
  split
  · simpa using by assumption
  · simp only [List.mem_cons, List.not_mem_nil, or_false, forall_eq_or_imp, forall_eq]
    omega

/-! ### Reading back -/

/-- The encodings of Unicode that write no mark. -/
def plainUnicode : List Charset := [utf8, utf16Little, utf16Big, utf32Little, utf32Big]

/-- A text in one of them is read back from its bytes. -/
theorem decode?_encode {charset : Charset} (unicode : charset ∈ plainUnicode) (text : List Char) :
    charset.decode? (charset.encode text) = some text := by
  have units (order : ByteOrder) :
      units? order (text.flatMap fun char =>
        (utf16Units char.toNat).flatMap fun unit => order.arrange (littleUnit unit)) =
          some (text.flatMap fun char => utf16Units char.toNat) := by
    rw [← List.flatMap_assoc]
    refine units?_flatMap order fun unit member => ?_
    obtain ⟨char, _, among⟩ := List.mem_flatMap.mp member
    exact utf16Units_lt char unit among
  simp only [plainUnicode, List.mem_cons, List.not_mem_nil, or_false] at unicode
  rcases unicode with rfl | rfl | rfl | rfl | rfl
  · exact congrArg Except.toOption (Utf8.decode_encode text)
  · exact (congrArg (Option.bind · textOfUnits?) (units .little)).trans (textOfUnits?_flatMap text)
  · exact (congrArg (Option.bind · textOfUnits?) (units .big)).trans (textOfUnits?_flatMap text)
  · exact (congrArg (Option.bind · textOfCodes?) (codes?_flatMap .little text)).trans
      (textOfCodes?_map text)
  · exact (congrArg (Option.bind · textOfCodes?) (codes?_flatMap .big text)).trans
      (textOfCodes?_map text)

end KeyFeed.Charset
