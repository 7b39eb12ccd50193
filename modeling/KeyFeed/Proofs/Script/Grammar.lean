/-
This file gives the grammar of directives and shows that scanning a line follows it. A line
with the immediate marker is immediate. Any other line with a delay marker asks for the
number that the rest of the line behind its first delay marker writes: blanks, a sign, ASCII
digits, and blanks. Scanning reads that rest twice, with a pattern that knows more blanks than
the reader of the number does, so only the blanks that both know may stand there.
-/

import KeyFeed.Script.Directive
import Mathlib.Algebra.Group.Nat.Defs
import Mathlib.Data.List.TakeWhile

namespace KeyFeed

open KeyFeed.Text KeyFeed.Number

/-! ### Blanks around a text -/

namespace Text

/-- Trimming takes blanks off both ends. -/
theorem exists_trim (skipped : Char → Bool) (text : List Char) :
    ∃ before behind, text = before ++ trim skipped text ++ behind ∧
      ∀ char ∈ before ++ behind, skipped char = true := by
  let kept := text.dropWhile skipped
  refine ⟨text.takeWhile skipped, (kept.reverse.takeWhile skipped).reverse, ?_, ?_⟩
  · have whole : kept = trim skipped text ++ (kept.reverse.takeWhile skipped).reverse := by
      rw [trim, ← List.reverse_append, List.takeWhile_append_dropWhile, List.reverse_reverse]
    rw [List.append_assoc, ← whole, List.takeWhile_append_dropWhile]
  · refine List.forall_mem_append.mpr ⟨fun char member => List.mem_takeWhile_imp member, ?_⟩
    intro char member
    exact List.mem_takeWhile_imp (List.mem_reverse.mp member)

theorem dropWhile_of_solid {skipped : Char → Bool} {before core : List Char}
    (blank : ∀ char ∈ before, skipped char = true) (solid : ∀ char ∈ core, skipped char = false) :
    (before ++ core).dropWhile skipped = core := by
  rw [List.dropWhile_append_of_pos blank]
  cases core with
  | nil => rfl
  | cons char rest => exact List.dropWhile_cons_of_neg (by simp [solid char List.mem_cons_self])

/-- Trimming takes no more than the blanks around a text that has none. -/
theorem trim_append {skipped : Char → Bool} {before core behind : List Char}
    (blank : ∀ char ∈ before ++ behind, skipped char = true)
    (solid : ∀ char ∈ core, skipped char = false) :
    trim skipped (before ++ core ++ behind) = core := by
  obtain ⟨blankBefore, blankBehind⟩ := List.forall_mem_append.mp blank
  have ends : ∀ kept : List Char, kept = core ++ behind ∨ core = [] ∧ kept = [] →
      (kept.reverse.dropWhile skipped).reverse = core := by
    rintro kept (rfl | ⟨rfl, rfl⟩)
    · rw [List.reverse_append, dropWhile_of_solid (by simpa using blankBehind)
        (by simpa using solid), List.reverse_reverse]
    · rfl
  refine ends _ ?_
  cases core with
  | nil =>
    refine Or.inr ⟨rfl, List.dropWhile_eq_nil_iff.mpr ?_⟩
    simpa using blank
  | cons char rest =>
    left
    rw [List.append_assoc, List.dropWhile_append_of_pos blankBefore]
    exact List.dropWhile_cons_of_neg (by simp [solid char List.mem_cons_self])

/-- No digit of any script is a blank. -/
theorem isBlank_of_isDecimalDigit {char : Char} (digit : isDecimalDigit char = true) :
    isBlank char = false := by
  have table : ∀ start ∈ zeroDigits, ∀ offset ∈ List.range 10,
      isBlank (Char.ofNat (start + offset)) = false := by decide +kernel
  obtain ⟨value, found⟩ := Option.isSome_iff_exists.mp digit
  obtain ⟨start, located, _⟩ := Option.map_eq_some_iff.mp found
  have inside := List.find?_some located
  simp only [Bool.and_eq_true, decide_eq_true_eq] at inside
  have solid := table start (List.mem_of_find?_eq_some located) (char.toNat - start)
    (List.mem_range.mpr (by omega))
  rwa [Nat.add_sub_cancel' inside.1, Char.ofNat_toNat] at solid

theorem digitValue?_of_isDigit {char : Char} (digit : char.isDigit = true) :
    digitValue? char = some (char.toNat - '0'.toNat) := by
  have range : 0x30 ≤ char.toNat ∧ char.toNat < 0x30 + 10 := by
    have bounds : '0'.toNat ≤ char.toNat ∧ char.toNat ≤ '9'.toNat := by
      simpa [Char.isDigit, UInt32.le_iff_toNat_le] using digit
    have nine : '9'.toNat = 0x39 := rfl
    have zero : '0'.toNat = 0x30 := rfl
    omega
  have first : zeroDigits.find? (fun start => start ≤ char.toNat && char.toNat < start + 10) =
      some 0x30 := List.find?_cons_of_pos (by simpa using range)
  rw [digitValue?, first]
  rfl

theorem isDecimalDigit_of_isDigit {char : Char} (digit : char.isDigit = true) :
    isDecimalDigit char = true := by
  rw [isDecimalDigit, digitValue?_of_isDigit digit]
  rfl

end Text

/-! ### Whole numbers -/

namespace Number

/-- A sign as it may stand in front of digits, and the number that it makes of their value. -/
inductive Signs : List Char → Nat → Int → Prop
  | absent (value : Nat) : Signs [] value value
  | plus (value : Nat) : Signs ['+'] value value
  | minus (value : Nat) : Signs ['-'] value (-value)

/-- A text writes a number: ASCII digits, at least one and not too many, with a sign in front of
them, and blanks of a kind around. -/
inductive Writes (blank : Char → Bool) : List Char → Int → Prop
  | intro {before sign digits behind : List Char} {number : Int}
      (blanks : ∀ char ∈ before ++ behind, blank char = true)
      (signs : Signs sign (Nat.ofDigitChars 10 digits 0) number) (nonempty : digits ≠ [])
      (isDigit : ∀ char ∈ digits, char.isDigit = true) (few : digits.length ≤ digitLimit) :
      Writes blank (before ++ sign ++ digits ++ behind) number

theorem Signs.splitSign_eq {sign digits : List Char} {value : Nat} {number : Int}
    (signs : Signs sign value number) (isDigit : ∀ char ∈ digits, char.isDigit = true) :
    ∃ negative, splitSign (sign ++ digits) = (negative, digits) ∧
      signed negative value = number := by
  cases signs with
  | absent =>
    have unsigned : splitSign digits = (false, digits) := by
      unfold splitSign
      split
      · exact absurd (isDigit _ List.mem_cons_self) (by decide)
      · exact absurd (isDigit _ List.mem_cons_self) (by decide)
      · rfl
    exact ⟨false, unsigned, rfl⟩
  | plus => exact ⟨false, rfl, rfl⟩
  | minus => exact ⟨true, rfl, rfl⟩

theorem exists_signs (text : List Char) :
    ∃ sign, text = sign ++ (splitSign text).2 ∧ (∀ char ∈ sign, isBlank char = false) ∧
      ∀ value, Signs sign value (signed (splitSign text).1 value) := by
  unfold splitSign
  split
  · exact ⟨['-'], rfl, List.forall_mem_singleton.mpr rfl, .minus⟩
  · exact ⟨['+'], rfl, List.forall_mem_singleton.mpr rfl, .plus⟩
  · exact ⟨[], rfl, nofun, .absent⟩

theorem Signs.among {sign : List Char} {value : Nat} {number : Int}
    (signs : Signs sign value number) : ∀ char ∈ sign, char ∈ ['+', '-'] := by
  cases signs <;> simp

theorem Signs.solid {sign : List Char} {value : Nat} {number : Int}
    (signs : Signs sign value number) : ∀ char ∈ sign, isBlank char = false := by
  have table : ∀ char ∈ ['+', '-'], isBlank char = false :=
    List.forall_mem_cons.mpr ⟨rfl, List.forall_mem_singleton.mpr rfl⟩
  exact fun char member => table char (signs.among char member)

theorem Signs.natAbs {sign : List Char} {value : Nat} {number : Int}
    (signs : Signs sign value number) : number.natAbs = value := by
  cases signs <;> simp

/-- A run of ASCII digits is read to its end. -/
theorem digitRun_of_isDigit {digits : List Char} (isDigit : ∀ char ∈ digits, char.isDigit = true)
    (afterDigit : Bool) :
    digitRun afterDigit digits = some (digits.map fun char => char.toNat - '0'.toNat, []) := by
  induction digits generalizing afterDigit with
  | nil => rfl
  | cons char rest inductionHypothesis =>
    obtain ⟨digit, others⟩ := List.forall_mem_cons.mp isDigit
    have notUnderscore : char ≠ '_' := by
      rintro rfl
      exact absurd digit (by decide)
    rw [digitRun, if_neg notUnderscore, digitValue?_of_isDigit digit]
    dsimp only
    rw [inductionHypothesis others]
    rfl

theorem ofDigits_eq_ofDigitChars (digits : List Char) :
    ofDigits (digits.map fun char => char.toNat - '0'.toNat) = Nat.ofDigitChars 10 digits 0 := by
  rw [ofDigits, List.foldl_map, Nat.ofDigitChars_eq_foldl]

/-- What is read to its end as digits has no blank in it. -/
theorem solid_of_digitRun {text : List Char} {afterDigit : Bool} {values : List Nat}
    (read : digitRun afterDigit text = some (values, [])) :
    ∀ char ∈ text, isBlank char = false := by
  induction text generalizing afterDigit values with
  | nil => exact nofun
  | cons char rest inductionHypothesis =>
    rw [digitRun] at read
    split at read
    · rename_i underscore
      split at read
      · refine List.forall_mem_cons.mpr ⟨?_, inductionHypothesis read⟩
        rw [underscore]
        decide
      · cases read
    · split at read
      · cases read
      · rename_i value found
        obtain ⟨⟨others, left⟩, readRest, same⟩ := Option.map_eq_some_iff.mp read
        cases same
        have digit : isDecimalDigit char = true := Option.isSome_iff_exists.mpr ⟨value, found⟩
        exact List.forall_mem_cons.mpr
          ⟨isBlank_of_isDecimalDigit digit, inductionHypothesis readRest⟩

theorem isNumberBlank_eq_false {char : Char} (solid : isBlank char = false) :
    isNumberBlank char = false := by
  rw [isNumberBlank, solid, Bool.false_and]

/-- So many digits stay below the power of ten. -/
theorem ofDigitChars_lt {digits : List Char} (isDigit : ∀ char ∈ digits, char.isDigit = true)
    (before : Nat) :
    Nat.ofDigitChars 10 digits before < (before + 1) * 10 ^ digits.length := by
  induction digits generalizing before with
  | nil => simp
  | cons char rest inductionHypothesis =>
    obtain ⟨digit, others⟩ := List.forall_mem_cons.mp isDigit
    have value := digitValue?_lt (digitValue?_of_isDigit digit)
    have grown : 10 * before + (char.toNat - '0'.toNat) + 1 ≤ (before + 1) * 10 := by omega
    rw [Nat.ofDigitChars_cons, List.length_cons, Nat.pow_succ', ← Nat.mul_assoc]
    exact Nat.lt_of_lt_of_le (inductionHypothesis others _) (Nat.mul_le_mul_right _ grown)

theorem Writes.natAbs_lt {blank : Char → Bool} {text : List Char} {number : Int}
    (writes : Writes blank text number) : number.natAbs < 10 ^ digitLimit := by
  obtain ⟨_, signs, _, isDigit, few⟩ := writes
  have bounded := ofDigitChars_lt isDigit 0
  rw [Nat.zero_add, Nat.one_mul] at bounded
  rw [signs.natAbs]
  exact Nat.lt_of_lt_of_le bounded (Nat.pow_le_pow_right (by decide) few)

/-- A number is shown as its digits, behind a minus if it is negative. -/
theorem exists_signs_toString (number : Int) :
    ∃ sign, (toString number).toList = sign ++ Nat.toDigits 10 number.natAbs ∧
      Signs sign number.natAbs number := by
  rcases number with magnitude | magnitude
  · have shown : toString (Int.ofNat magnitude) = toString magnitude := rfl
    refine ⟨[], ?_, .absent magnitude⟩
    rw [shown, Nat.toString_eq_ofList_toDigits, String.toList_ofList]
    rfl
  · have shown : toString (Int.negSucc magnitude) = "-" ++ toString (magnitude + 1) := rfl
    refine ⟨['-'], ?_, .minus (magnitude + 1)⟩
    rw [shown, Nat.toString_eq_ofList_toDigits, String.toList_append]
    exact congrArg (['-'] ++ ·) String.toList_ofList

theorem isDigit_of_mem_toDigits {value : Nat} :
    ∀ char ∈ Nat.toDigits 10 value, char.isDigit = true :=
  fun _ member => Nat.isDigit_of_mem_toDigits (by decide) (by decide) member

/-- The text that shows a number writes it, unless there are too many digits. -/
theorem writes_toString (blank : Char → Bool) {number : Int}
    (few : (Nat.toDigits 10 number.natAbs).length ≤ digitLimit) :
    Writes blank (toString number).toList number := by
  obtain ⟨sign, shown, signs⟩ := exists_signs_toString number
  have written : Writes blank ([] ++ sign ++ Nat.toDigits 10 number.natAbs ++ []) number := by
    refine .intro nofun ?_ Nat.toDigits_ne_nil isDigit_of_mem_toDigits few
    rwa [Nat.ofDigitChars_ten_toDigits]
  rw [shown]
  simpa using written

end Number

/-! ### The parameter of a delay -/

namespace Script

/-- A parameter that looks like seconds is read as a number exactly when it writes that number,
with blanks around it that a number text may have. -/
theorem readWhole_eq_ok_iff {parameter : List Char} {seconds : Int} :
    looksLikeSeconds parameter = true ∧ readWhole parameter = .ok seconds ↔
      Writes isNumberBlank parameter seconds := by
  constructor
  · rintro ⟨looks, read⟩
    obtain ⟨before, behind, shape, blanks⟩ := exists_trim isNumberBlank parameter
    obtain ⟨sign, signed, solidSign, signs⟩ := exists_signs (trim isNumberBlank parameter)
    unfold readWhole at read
    rcases split : splitSign (trim isNumberBlank parameter) with ⟨negative, digits⟩
    rw [split] at read signed signs
    dsimp only at read signed signs
    split at read
    · cases read
    · rename_i values rest run
      split at read
      · cases read
      · rename_i few
        split at read
        · cases read
        · rename_i whole
          cases read
          obtain ⟨some, ended⟩ : values ≠ [] ∧ rest = [] := by simpa using whole
          subst ended
          have solid : ∀ char ∈ sign ++ digits, isBlank char = false :=
            List.forall_mem_append.mpr ⟨solidSign, solid_of_digitRun run⟩
          -- The pattern finds the same digits between its own blanks.
          have same : trim isBlank parameter = sign ++ digits := by
            rw [shape, signed]
            exact trim_append
              (fun char member => isBlank_of_isNumberBlank (blanks char member)) solid
          have isDigit : ∀ char ∈ digits, char.isDigit = true := by
            rw [looksLikeSeconds, same, ← signed, split] at looks
            simp only [Bool.and_eq_true, List.all_eq_true] at looks
            exact looks.2
          rw [digitRun_of_isDigit isDigit] at run
          cases run
          rw [shape, signed, ofDigits_eq_ofDigitChars]
          rw [← List.append_assoc]
          exact .intro blanks (signs _) (by simpa using some) isDigit (by simpa using few)
  · rintro ⟨blanks, signs, nonempty, isDigit, few⟩
    rename_i before sign digits behind
    obtain ⟨negative, split, value⟩ := signs.splitSign_eq isDigit
    have solid : ∀ char ∈ sign ++ digits, isBlank char = false := by
      refine List.forall_mem_append.mpr ⟨signs.solid, fun char member => ?_⟩
      exact isBlank_of_isDecimalDigit (isDecimalDigit_of_isDigit (isDigit char member))
    have wide : trim isBlank (before ++ sign ++ digits ++ behind) = sign ++ digits := by
      rw [List.append_assoc before sign digits]
      exact trim_append (fun char member => isBlank_of_isNumberBlank (blanks char member)) solid
    have narrow : trim isNumberBlank (before ++ sign ++ digits ++ behind) = sign ++ digits := by
      rw [List.append_assoc before sign digits]
      exact trim_append blanks fun char member => isNumberBlank_eq_false (solid char member)
    constructor
    · rw [looksLikeSeconds, wide, split]
      simp only [Bool.and_eq_true, List.all_eq_true]
      exact ⟨by simpa using nonempty, isDigit⟩
    · unfold readWhole
      rw [narrow, split]
      dsimp only
      rw [digitRun_of_isDigit isDigit]
      dsimp only
      rw [if_neg (by simpa using few), if_neg (by simpa using nonempty), ofDigits_eq_ofDigitChars,
        value]

/-- The parameter of a delay is accepted exactly when it writes a number of at most one day. -/
theorem readDelay_eq_ok_iff {parameter : List Char} {line : Option (List Char)} {seconds : Int} :
    readDelay parameter line = .ok seconds ↔
      Writes isNumberBlank parameter seconds ∧ seconds ≤ longestDelay := by
  rw [← readWhole_eq_ok_iff, readDelay]
  cases looksLikeSeconds parameter with
  | false => simp
  | true =>
    rw [if_pos rfl]
    cases readWhole parameter with
    | error reason => simp
    | ok number =>
      dsimp only
      split
      · rename_i long
        refine iff_of_false nofun ?_
        rintro ⟨⟨_, same⟩, short⟩
        cases same
        omega
      · rename_i short
        simp only [true_and, Except.ok.injEq]
        constructor
        · rintro rfl
          exact ⟨rfl, by omega⟩
        · exact And.left

/-- A delay that is refused for its length is a number that can be shown. -/
theorem natAbs_lt_of_tooLong {parameter : List Char} {line : Option (List Char)}
    {refusal : DirectiveRefusal} {seconds : Int}
    (refused : readDelay parameter line = .error refusal)
    (tooLong : refusal.flaw = .tooLong seconds) : seconds.natAbs < 10 ^ digitLimit := by
  unfold readDelay at refused
  split at refused
  · rename_i looks
    split at refused
    · cases refused
      cases tooLong
    · rename_i number read
      split at refused
      · cases refused
        cases tooLong
        exact (readWhole_eq_ok_iff.mp ⟨looks, read⟩).natAbs_lt
      · cases refused
  · cases refused
    cases tooLong

/-! ### Markers -/

/-- The text is what comes behind the first occurrence of a marker in a line. The two characters of
a marker differ, so no occurrence begins in front of that one and ends in it. -/
def Follows (marker line rest : List Char) : Prop :=
  ∃ front, line = front ++ marker ++ rest ∧ ¬marker <:+: front

theorem after?_isSome_iff {mark : Char} {others line : List Char} :
    (after? (mark :: others) line).isSome = true ↔ mark :: others <:+: line := by
  induction line with
  | nil => simp [after?]
  | cons char rest inductionHypothesis =>
    rw [after?, List.infix_cons_iff, ← List.isPrefixOf_iff_prefix, ← inductionHypothesis]
    split
    · rename_i begins
      simp [begins]
    · rename_i other
      simp [other]

theorem follows_of_after? {marker line rest : List Char} (nonempty : marker ≠ [])
    (found : after? marker line = some rest) : Follows marker line rest := by
  induction line with
  | nil => cases found
  | cons char others inductionHypothesis =>
    rw [after?] at found
    split at found
    · rename_i begins
      obtain ⟨tail, shape⟩ := List.isPrefixOf_iff_prefix.mp begins
      rw [← shape, List.drop_left] at found
      cases found
      exact ⟨[], shape.symm, fun inside => nonempty (List.infix_nil.mp inside)⟩
    · rename_i other
      obtain ⟨front, rfl, absent⟩ := inductionHypothesis found
      refine ⟨char :: front, rfl, fun inside => ?_⟩
      rcases List.infix_cons_iff.mp inside with ⟨tail, begins⟩ | later
      · refine other (List.isPrefixOf_iff_prefix.mpr ⟨tail ++ marker ++ rest, ?_⟩)
        rw [← List.append_assoc, ← List.append_assoc, begins]
        rfl
      · exact absent later

section

variable {mark letter : Char} (distinct : mark ≠ letter)

include distinct in
/-- In front of a marker it does not begin with an occurrence either. -/
theorem not_prefix_of_absent {other : Char} {front rest : List Char} {char : Char}
    (absent : ¬[mark, letter] <:+: char :: front) :
    ¬[mark, letter] <+: char :: (front ++ [mark, other] ++ rest) := by
  rintro ⟨tail, begins⟩
  cases front with
  | nil =>
    simp only [List.cons_append, List.nil_append, List.cons.injEq] at begins
    exact distinct begins.2.1.symm
  | cons next front =>
    simp only [List.cons_append, List.nil_append, List.cons.injEq] at begins
    refine absent (List.infix_cons_iff.mpr (Or.inl ⟨front, ?_⟩))
    rw [begins.1, begins.2.1]
    rfl

include distinct in
theorem after?_append {front : List Char} (absent : ¬[mark, letter] <:+: front) (rest : List Char) :
    after? [mark, letter] (front ++ [mark, letter] ++ rest) = some rest := by
  induction front with
  | nil => simp [after?, List.isPrefixOf]
  | cons char front inductionHypothesis =>
    have others : ¬[mark, letter] <:+: front :=
      fun inside => absent (List.infix_cons_iff.mpr (Or.inr inside))
    have first : ¬[mark, letter] <+: char :: (front ++ [mark, letter] ++ rest) :=
      not_prefix_of_absent distinct absent
    rw [List.cons_append, List.cons_append, after?,
      if_neg fun begins => first (List.isPrefixOf_iff_prefix.mp begins), inductionHypothesis others]

include distinct in
theorem after?_eq_some_iff {line rest : List Char} :
    after? [mark, letter] line = some rest ↔ Follows [mark, letter] line rest := by
  constructor
  · exact follows_of_after? (List.cons_ne_nil _ _)
  · rintro ⟨front, rfl, absent⟩
    exact after?_append distinct absent rest

include distinct in
/-- A marker does not come up between two texts without it that another marker joins. -/
theorem not_infix_of_absent {other : Char} (differs : other ≠ letter) (unlike : other ≠ mark)
    {front rest : List Char} (absent : ¬[mark, letter] <:+: front) (unmarked : mark ∉ rest) :
    ¬[mark, letter] <:+: front ++ [mark, other] ++ rest := by
  induction front with
  | nil =>
    intro inside
    rcases List.infix_cons_iff.mp inside with ⟨tail, begins⟩ | inside
    · exact differs (List.cons.inj (List.cons.inj begins).2).1.symm
    · rcases List.infix_cons_iff.mp inside with ⟨tail, begins⟩ | inside
      · exact unlike (List.cons.inj begins).1.symm
      · exact unmarked (inside.subset List.mem_cons_self)
  | cons char front inductionHypothesis =>
    intro inside
    rcases List.infix_cons_iff.mp inside with begins | inside
    · exact not_prefix_of_absent distinct absent begins
    · exact inductionHypothesis
        (fun among => absent (List.infix_cons_iff.mpr (Or.inr among))) inside

end

/-! ### Directives -/

/-- A line carries a directive. -/
inductive Carries (line : List Char) : Directive → Prop
  /-- The immediate marker stands anywhere in the line. -/
  | immediate (marked : immediateMarker <:+: line) : Carries line .immediate
  /-- Behind its first delay marker the line writes a number of at most one day. -/
  | delay {parameter : List Char} {seconds : Int} (unmarked : ¬immediateMarker <:+: line)
      (follows : Follows delayMarker line parameter)
      (writes : Writes isNumberBlank parameter seconds) (short : seconds ≤ longestDelay) :
      Carries line (.delay seconds)

theorem scan_of_marked {line : List Char} (marked : immediateMarker <:+: line) :
    scan line = .ok (some .immediate) := by
  have found : (after? immediateMarker line).isSome = true := after?_isSome_iff.mpr marked
  rw [scan, if_pos found]

theorem scan_of_unmarked {line : List Char} (unmarked : ¬immediateMarker <:+: line) :
    scan line =
      match after? delayMarker line with
      | none => .ok none
      | some parameter => (readDelay parameter (some line)).map (some <| .delay ·) := by
  have missed : ¬(after? immediateMarker line).isSome = true :=
    fun found => unmarked (after?_isSome_iff.mp found)
  exact if_neg missed

theorem after?_delayMarker_iff {line parameter : List Char} :
    after? delayMarker line = some parameter ↔ Follows delayMarker line parameter :=
  after?_eq_some_iff (by decide)

/-- Scanning finds the directive that a line carries. -/
theorem scan_eq_some_iff {line : List Char} {directive : Directive} :
    scan line = .ok (some directive) ↔ Carries line directive := by
  by_cases marked : immediateMarker <:+: line
  · rw [scan_of_marked marked]
    constructor
    · intro same
      cases same
      exact .immediate marked
    · intro carries
      cases carries with
      | immediate => rfl
      | delay unmarked => exact absurd marked unmarked
  · rw [scan_of_unmarked marked]
    constructor
    · intro found
      cases located : after? delayMarker line with
      | none =>
        rw [located] at found
        cases found
      | some parameter =>
        rw [located] at found
        dsimp only at found
        cases read : readDelay parameter (some line) with
        | error refusal =>
          rw [read] at found
          cases found
        | ok seconds =>
          rw [read] at found
          cases found
          obtain ⟨writes, short⟩ := readDelay_eq_ok_iff.mp read
          exact .delay marked (after?_delayMarker_iff.mp located) writes short
    · intro carries
      cases carries with
      | immediate present => exact absurd present marked
      | delay _ follows writes short =>
        rw [after?_delayMarker_iff.mpr follows]
        dsimp only
        rw [readDelay_eq_ok_iff.mpr ⟨writes, short⟩]
        rfl

/-- Scanning finds nothing in a line without either marker. -/
theorem scan_eq_none_iff {line : List Char} :
    scan line = .ok none ↔ ¬immediateMarker <:+: line ∧ ¬delayMarker <:+: line := by
  by_cases marked : immediateMarker <:+: line
  · rw [scan_of_marked marked]
    exact iff_of_false nofun fun both => both.1 marked
  · have located : (after? delayMarker line).isSome = true ↔ delayMarker <:+: line :=
      after?_isSome_iff
    rw [scan_of_unmarked marked, ← located]
    cases after? delayMarker line with
    | none => simp [marked]
    | some parameter =>
      refine iff_of_false ?_ fun both => both.2 rfl
      dsimp only
      cases readDelay parameter (some line) <;> exact nofun

/-- Scanning refuses a line with a delay marker that carries no directive, and no other line. -/
theorem scan_eq_error_iff {line : List Char} :
    (∃ refusal, scan line = .error refusal) ↔
      delayMarker <:+: line ∧ ∀ directive, ¬Carries line directive := by
  have none_iff : scan line = .ok none ↔ ¬immediateMarker <:+: line ∧ ¬delayMarker <:+: line :=
    scan_eq_none_iff
  have some_iff {directive : Directive} :
      scan line = .ok (some directive) ↔ Carries line directive := scan_eq_some_iff
  simp only [← some_iff]
  cases scanned : scan line with
  | error refusal =>
    rw [scanned] at none_iff
    refine iff_of_true ⟨refusal, rfl⟩ ⟨?_, nofun⟩
    by_contra unmarked
    refine nomatch none_iff.mpr ⟨fun marked => ?_, unmarked⟩
    rw [scan_of_marked marked] at scanned
    cases scanned
  | ok found =>
    refine iff_of_false nofun ?_
    rintro ⟨marked, refused⟩
    cases found with
    | none => exact (none_iff.mp scanned).2 marked
    | some directive => exact refused directive rfl

/-- A line is refused for a delay that is too long only when the delay can be shown. -/
theorem scan_tooLong {line : List Char} {refusal : DirectiveRefusal} {seconds : Int}
    (refused : scan line = .error refusal) (tooLong : refusal.flaw = .tooLong seconds) :
    seconds.natAbs < 10 ^ digitLimit := by
  by_cases marked : immediateMarker <:+: line
  · rw [scan_of_marked marked] at refused
    cases refused
  · rw [scan_of_unmarked marked] at refused
    cases located : after? delayMarker line with
    | none =>
      rw [located] at refused
      cases refused
    | some parameter =>
      rw [located] at refused
      dsimp only at refused
      cases read : readDelay parameter (some line) with
      | ok number =>
        rw [read] at refused
        cases refused
      | error other =>
        rw [read] at refused
        cases refused
        exact natAbs_lt_of_tooLong read tooLong

/-- A number of seconds that is shown behind a delay marker is carried. -/
theorem carries_toString {front : List Char} (absent : ¬immediateMarker <:+: front)
    (absentToo : ¬delayMarker <:+: front) {seconds : Int}
    (few : (Nat.toDigits 10 seconds.natAbs).length ≤ digitLimit) (short : seconds ≤ longestDelay) :
    Carries (front ++ delayMarker ++ (toString seconds).toList) (.delay seconds) := by
  have unmarked : '~' ∉ (toString seconds).toList := by
    obtain ⟨sign, shown, signs⟩ := exists_signs_toString seconds
    rw [shown, List.mem_append]
    rintro (inSign | inDigits)
    · exact absurd (signs.among _ inSign) (by decide)
    · exact absurd (isDigit_of_mem_toDigits _ inDigits) (by decide)
  exact .delay (not_infix_of_absent (by decide) (by decide) (by decide) absent unmarked)
    ⟨front, rfl, absentToo⟩ (writes_toString _ few) short

end Script

end KeyFeed
