/-
This file says which names an encoding has. Only the words of a name count, its longest runs
of letters, digits and points: their case does not matter, nor what stands between, before
and behind them. A name that is found is written like one of the names in the two tables.
There a point may also be written as an underscore, and no two names that differ in that
alone stand for different things, so it does not matter which one is found first.
-/

import KeyFeed.Charset.Name
import KeyFeed.Proofs.Charset.Exactness
import Mathlib.Data.List.Basic
import Mathlib.Data.List.Pairwise

namespace KeyFeed.Charset

open KeyFeed.Text

/-! ### The normal form -/

/-- The words of a name: its longest runs of letters, digits and points. -/
def words (name : List Char) : List (List Char) :=
  (name.splitOnP (!keptInName ·)).filter (!·.isEmpty)

/-- A name as it is compared: its words in lower case, joined by underscores. -/
def spelled (name : List Char) : List Char :=
  ['_'].intercalate ((words name).map (·.map lowerAscii))

/-- Pieces of a name behind an earlier word, in lower case, each word with an underscore in
front. -/
def appended (pieces : List (List Char)) : List Char :=
  (pieces.filter (!·.isEmpty)).flatMap fun piece => '_' :: piece.map lowerAscii

theorem appended_cons_cons (char : Char) (piece : List Char) (pieces : List (List Char)) :
    appended ((char :: piece) :: pieces) =
      '_' :: lowerAscii char :: (piece.map lowerAscii ++ appended pieces) := by
  simp [appended]

theorem intercalate_cons_eq (first : List Char) (others : List (List Char)) :
    ['_'].intercalate (first :: others) = first ++ others.flatMap ('_' :: ·) := by
  induction others generalizing first with
  | nil => simp
  | cons second rest inductionHypothesis =>
    rw [List.intercalate_cons_cons, inductionHypothesis]
    simp

/-- What is read behind a first kept character. When nothing is pending, the word goes on. -/
theorem normalize_started {name word : List Char} {pieces : List (List Char)}
    (split : name.splitOnP (!keptInName ·) = word :: pieces) :
    normalize true false name = word.map lowerAscii ++ appended pieces ∧
      normalize true true name = appended (word :: pieces) := by
  induction name generalizing word pieces with
  | nil =>
    cases split
    exact ⟨rfl, rfl⟩
  | cons char rest inductionHypothesis =>
    obtain ⟨next, others, later⟩ := List.exists_cons_of_ne_nil
      (List.splitOnP_ne_nil (!keptInName ·) rest)
    obtain ⟨goesOn, begins⟩ := inductionHypothesis later
    rw [List.splitOnP_cons_eq_if_modifyHead, later] at split
    cases kept : keptInName char with
    | true =>
      rw [kept] at split
      cases split
      constructor
      · rw [normalize, if_pos kept, goesOn]
        rfl
      · rw [normalize, if_pos kept, appended_cons_cons, ← goesOn]
        rfl
    | false =>
      rw [kept] at split
      cases split
      rw [normalize, normalize, if_neg (by simp [kept]), if_neg (by simp [kept]), begins]
      exact ⟨rfl, rfl⟩

/-- The normal form of a name depends on its words alone. -/
theorem normalize_eq_spelled (pending : Bool) (name : List Char) :
    normalize false pending name = spelled name := by
  induction name generalizing pending with
  | nil => rfl
  | cons char rest inductionHypothesis =>
    obtain ⟨next, others, later⟩ := List.exists_cons_of_ne_nil
      (List.splitOnP_ne_nil (!keptInName ·) rest)
    have split := List.splitOnP_cons_eq_if_modifyHead (p := (!keptInName ·)) char rest
    unfold spelled words
    rw [split, later, normalize]
    cases kept : keptInName char with
    | true =>
      rw [if_pos rfl, if_neg (by simp), (normalize_started later).1]
      simp [appended, intercalate_cons_eq, List.flatMap_map]
    | false =>
      rw [if_neg Bool.false_ne_true, inductionHypothesis, spelled, words, later]
      simp

/-! ### What a name stands for -/

/-- A name in normal form is one of the names in the tables and stands for what it does. -/
inductive Denotes (normal : List Char) (named : Named) : Prop where
  /-- It is an alias, in which points may be written as underscores. -/
  | alias {key : String} (member : (key, named) ∈ aliases)
      (same : key.toList = normal ∨ key.toList = normal.map withoutPoint)
  /-- It is the own name of an encoding. -/
  | own {key : String} (member : (key, named) ∈ ownNames) (same : key.toList = normal)

section Table

variable {Value : Type}

theorem mem_of_lookup {table : List (String × Value)} {key : String} {value : Value}
    (found : table.lookup key = some value) : (key, value) ∈ table := by
  obtain ⟨before, after, rfl, _⟩ := List.lookup_eq_some_iff.mp found
  simp

theorem lookup_isSome_of_mem {table : List (String × Value)} {key : String} {value : Value}
    (member : (key, value) ∈ table) : (table.lookup key).isSome = true := by
  rw [Option.isSome_iff_ne_none]
  intro absent
  have other := List.lookup_eq_none_iff.mp absent _ member
  simp at other

end Table

/-! ### No name stands for two things -/

/-- The byte of a point as that of an underscore, any other byte as it is. -/
def byteWithoutPoint (byte : UInt8) : UInt8 := if byte = 0x2E then 0x5F else byte

/-- The number of a name, which does not tell a point from an underscore. -/
def nameNumber (name : String) : Nat :=
  (name.toByteArray.data.toList.map byteWithoutPoint).foldl
    (fun number byte => 256 * number + byte.toNat) 0

theorem map_byteWithoutPoint (char : Char) :
    (String.utf8EncodeChar char).map byteWithoutPoint =
      String.utf8EncodeChar (withoutPoint char) := by
  unfold withoutPoint
  split
  · rename_i point
    rw [point]
    rfl
  · rename_i other
    have code : char.toNat ≠ (0x2E : UInt8).toNat := fun same => other (Char.toNat_inj.mp same)
    rw [← Utf8.utf8Bytes_toNat]
    have point : 0x2E ∉ Charset.utf8Bytes char.toNat :=
      Utf8.not_mem_utf8Bytes (by decide) (Utf8.toNat_lt char) code
    refine (List.map_congr_left fun byte member => if_neg ?_).trans (List.map_id _)
    rintro rfl
    exact point member

theorem nameNumber_eq {first second : String}
    (same : first.toList.map withoutPoint = second.toList.map withoutPoint) :
    nameNumber first = nameNumber second := by
  have bytes (name : String) : name.toByteArray.data.toList.map byteWithoutPoint =
      (name.toList.map withoutPoint).flatMap String.utf8EncodeChar := by
    rw [← String.utf8Encode_toList, List.utf8Encode, List.data_toByteArray, List.map_flatMap,
      List.flatMap_map]
    exact congrArg (List.flatMap · _) (funext map_byteWithoutPoint)
  rw [nameNumber, nameNumber, bytes, bytes, same]

/-- The entries whose numbers leave a remainder by 23. Only those in one bucket have to be compared
with one another. -/
def bucket (remainder : Nat) : List (String × Named) :=
  (aliases ++ ownNames).filter fun entry => nameNumber entry.1 % 23 = remainder

/-- Two entries of a bucket with the same number stand for the same. -/
theorem bucket_alike : ∀ remainder < 23, (bucket remainder).Pairwise fun first second =>
    nameNumber first.1 = nameNumber second.1 → first.2 = second.2 := by
  decide +kernel

/-- Two entries whose names differ in their points alone, if at all, stand for the same. -/
theorem alike_of_mem {first second : String × Named} (member : first ∈ aliases ++ ownNames)
    (memberToo : second ∈ aliases ++ ownNames)
    (same : first.1.toList.map withoutPoint = second.1.toList.map withoutPoint) :
    first.2 = second.2 := by
  have number := nameNumber_eq same
  have inBucket {entry : String × Named} (among : entry ∈ aliases ++ ownNames)
      (left : nameNumber entry.1 % 23 = nameNumber first.1 % 23) :
      entry ∈ bucket (nameNumber first.1 % 23) := List.mem_filter.mpr ⟨among, by simpa using left⟩
  have symmetric : Std.Symm fun first second : String × Named =>
      nameNumber first.1 = nameNumber second.1 → first.2 = second.2 :=
    ⟨fun _ _ alike numbered => (alike numbered.symm).symm⟩
  exact (bucket_alike _ (Nat.mod_lt _ (by decide))).forall_of_forall (fun _ _ _ => rfl)
    (inBucket member rfl) (inBucket memberToo (by rw [number])) number

/-! ### Looking a name up -/

theorem withoutPoint_withoutPoint (char : Char) :
    withoutPoint (withoutPoint char) = withoutPoint char := by
  unfold withoutPoint
  split <;> simp_all

namespace Denotes

variable {normal : List Char} {named other : Named}

/-- What is denoted is in one of the tables. -/
theorem entry (denotes : Denotes normal named) :
    ∃ key, (key, named) ∈ aliases ++ ownNames ∧
      key.toList.map withoutPoint = normal.map withoutPoint := by
  cases denotes with
  | «alias» member same =>
    refine ⟨_, List.mem_append_left _ member, ?_⟩
    rcases same with same | same
    · rw [same]
    · rw [same, List.map_map]
      exact List.map_congr_left fun char _ => withoutPoint_withoutPoint char
  | own member same => exact ⟨_, List.mem_append_right _ member, by rw [same]⟩

/-- A name stands for one thing at most. -/
theorem unique (denotes : Denotes normal named) (denotesToo : Denotes normal other) :
    named = other := by
  obtain ⟨key, member, same⟩ := denotes.entry
  obtain ⟨keyToo, memberToo, sameToo⟩ := denotesToo.entry
  exact alike_of_mem member memberToo (same.trans sameToo.symm)

theorem of_named? (found : named? normal = some named) : Denotes normal named := by
  unfold named? at found
  rcases Option.or_eq_some_iff.mp found with written | ⟨_, found⟩
  · exact .alias (mem_of_lookup written) (Or.inl String.toList_ofList)
  · rcases Option.or_eq_some_iff.mp found with pointless | ⟨_, own⟩
    · exact .alias (mem_of_lookup pointless) (Or.inr String.toList_ofList)
    · exact .own (mem_of_lookup own) String.toList_ofList

theorem named?_isSome (denotes : Denotes normal named) : (named? normal).isSome = true := by
  unfold named?
  rw [Option.isSome_or, Option.isSome_or]
  cases denotes with
  | «alias» member same =>
    rcases same with same | same
    · rw [← same, String.ofList_toList, lookup_isSome_of_mem member]
      rfl
    · rw [← same, String.ofList_toList, lookup_isSome_of_mem member]
      simp
  | own member same =>
    rw [← same, String.ofList_toList, lookup_isSome_of_mem member]
    simp

end Denotes

theorem named?_eq_some_iff {normal : List Char} {named : Named} :
    named? normal = some named ↔ Denotes normal named := by
  refine ⟨.of_named?, fun denotes => ?_⟩
  obtain ⟨other, found⟩ := Option.isSome_iff_exists.mp denotes.named?_isSome
  rw [found, denotes.unique (.of_named? found)]

/-- The names by which an encoding for text is found. -/
theorem find_eq_ok_iff {name : String} {charset : Charset} :
    find name = .ok charset ↔
      '\x00' ∉ name.toList ∧ Denotes (spelled name.toList) (.text charset) := by
  unfold find
  rw [← named?_eq_some_iff, normalize_eq_spelled]
  by_cases holdsNul : '\x00' ∈ name.toList
  · rw [if_pos holdsNul]
    simp [holdsNul]
  · rw [if_neg holdsNul]
    split <;> simp_all

example : find " Windows–1252" = .ok (.page .windows1252) := by decide +kernel

end KeyFeed.Charset
