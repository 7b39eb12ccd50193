/-
This file says what a read takes of pending characters. The grammar stands here as a
relation between the characters, the key that is read and the characters that stay; it has
just one key for all characters but none, and this is the key that a read returns. A
complete sequence of at most eight characters is therefore read as it was made, and so are
all keys that were pressed one after the other.
-/

import KeyFeed.Proofs.Keyboard.Reading
import KeyFeed.Proofs.Session.Success

namespace KeyFeed

namespace Key

/-! ### The grammar -/

/-- A key is taken from the front of characters, and other characters stay. -/
inductive Takes : List Char → Key → List Char → Prop
  /-- Any character but the escape. -/
  | plain {char : Char} {rest : List Char} (other : char ≠ '\x1b') :
    Takes (char :: rest) [char] rest
  /-- An escape that introduces nothing. -/
  | alone {rest : List Char} (notOpen : rest.head? ≠ some '[') (notShort : rest.head? ≠ some 'O') :
    Takes ('\x1b' :: rest) ['\x1b'] rest
  /-- A sequence of one more character, if there is one. -/
  | short {rest : List Char} :
    Takes ('\x1b' :: 'O' :: rest) ('\x1b' :: 'O' :: rest.take 1) (rest.drop 1)
  /-- A sequence up to the first character that ends it. -/
  | ended {body rest : List Char} {final : Char}
    (unended : ∀ char ∈ body, endsSequence char = false)
    (ends : endsSequence final = true) (fits : body.length < 6) :
    Takes ('\x1b' :: '[' :: (body ++ final :: rest)) ('\x1b' :: '[' :: (body ++ [final])) rest
  /-- A sequence without its end, of eight characters or of all that there are. -/
  | cut {body rest : List Char} (unended : ∀ char ∈ body, endsSequence char = false)
    (stops : body.length = 6 ∨ body.length < 6 ∧ rest = []) :
    Takes ('\x1b' :: '[' :: (body ++ rest)) ('\x1b' :: '[' :: body) rest

/-- The whole sequence of a cursor or function key. -/
inductive IsComplete : Key → Prop
  | short (char : Char) : IsComplete ['\x1b', 'O', char]
  | opened {body : List Char} {final : Char} (unended : ∀ char ∈ body, endsSequence char = false)
    (ends : endsSequence final = true) : IsComplete ('\x1b' :: '[' :: (body ++ [final]))

theorem Takes.append {chars rest : List Char} {key : Key} (takes : Takes chars key rest) :
    key ++ rest = chars := by
  cases takes with
  | plain _ => rfl
  | alone _ _ => rfl
  | @short later => exact congrArg ('\x1b' :: 'O' :: ·) (List.take_append_drop 1 later)
  | ended _ _ _ => simp
  | cut _ _ => rfl

/-! ### There is just one key -/

/-- Characters end a sequence before a limit, or go on up to it or to their own end. -/
theorem ended_or_cut (limit : Nat) (chars : List Char) :
    (∃ body final rest, chars = body ++ final :: rest ∧
        (∀ char ∈ body, endsSequence char = false) ∧ endsSequence final = true ∧
        body.length < limit) ∨
      ∃ body rest, chars = body ++ rest ∧ (∀ char ∈ body, endsSequence char = false) ∧
        (body.length = limit ∨ body.length < limit ∧ rest = []) := by
  induction limit generalizing chars with
  | zero => exact Or.inr ⟨[], chars, rfl, nofun, Or.inl rfl⟩
  | succ limit inductionHypothesis =>
    cases chars with
    | nil => exact Or.inr ⟨[], [], rfl, nofun, Or.inr ⟨Nat.succ_pos _, rfl⟩⟩
    | cons char rest =>
      cases ends : endsSequence char with
      | true => exact Or.inl ⟨[], char, rest, rfl, nofun, ends, Nat.succ_pos _⟩
      | false =>
        have goesOn {body : List Char} (unended : ∀ char ∈ body, endsSequence char = false) :
            ∀ other ∈ char :: body, endsSequence other = false :=
          List.forall_mem_cons.mpr ⟨ends, unended⟩
        rcases inductionHypothesis rest with
          ⟨body, final, later, rfl, unended, final_ends, fits⟩ | ⟨body, later, rfl, unended, stops⟩
        · exact Or.inl ⟨char :: body, final, later, rfl, goesOn unended, final_ends,
            Nat.succ_lt_succ fits⟩
        · refine Or.inr ⟨char :: body, later, rfl, goesOn unended, ?_⟩
          exact stops.imp (congrArg (· + 1)) (And.imp_left Nat.succ_lt_succ)

/-- From all characters but none a key is taken. -/
theorem exists_takes (char : Char) (later : List Char) :
    ∃ key rest, Takes (char :: later) key rest := by
  by_cases escaped : char = '\x1b'
  · subst escaped
    by_cases opens : later.head? = some '['
    · obtain ⟨rest, rfl⟩ := List.head?_eq_some_iff.mp opens
      -- The escape and the bracket are two of the eight characters.
      rcases ended_or_cut 6 rest with
        ⟨body, final, behind, rfl, unended, ends, fits⟩ | ⟨body, behind, rfl, unended, stops⟩
      · exact ⟨_, _, .ended unended ends fits⟩
      · exact ⟨_, _, .cut unended stops⟩
    · by_cases short : later.head? = some 'O'
      · obtain ⟨rest, rfl⟩ := List.head?_eq_some_iff.mp short
        exact ⟨_, _, .short⟩
      · exact ⟨_, _, .alone opens short⟩
  · exact ⟨_, _, .plain escaped⟩

theorem throughEnd_append {body : List Char} (unended : ∀ char ∈ body, endsSequence char = false)
    (rest : List Char) : throughEnd (body ++ rest) = body ++ throughEnd rest := by
  induction body with
  | nil => rfl
  | cons char body inductionHypothesis =>
    obtain ⟨goesOn, others⟩ := List.forall_mem_cons.mp unended
    rw [List.cons_append, throughEnd_cons, goesOn, inductionHypothesis others]
    rfl

theorem throughEnd_ended {body : List Char} (unended : ∀ char ∈ body, endsSequence char = false)
    {final : Char} (ends : endsSequence final = true) (rest : List Char) :
    throughEnd (body ++ final :: rest) = body ++ [final] := by
  rw [throughEnd_append unended, throughEnd_cons, ends]
  rfl

/-- A character that introduces no sequence is a key by itself. -/
theorem front_alone {char : Char} {rest : List Char}
    (alone : char = '\x1b' → rest.head? ≠ some '[' ∧ rest.head? ≠ some 'O') :
    front (char :: rest) = [char] := by
  unfold front
  split
  · rename_i same
    obtain ⟨rfl, rfl⟩ := List.cons.inj same
    exact absurd rfl (alone rfl).1
  · rename_i same
    obtain ⟨rfl, rfl⟩ := List.cons.inj same
    exact absurd rfl (alone rfl).2
  · rename_i same
    exact congrArg ([·]) (List.cons.inj same).1.symm
  · rename_i impossible
    cases impossible

theorem front_of_ne {char : Char} (other : char ≠ '\x1b') (rest : List Char) :
    front (char :: rest) = [char] :=
  front_alone fun escaped => absurd escaped other

/-- What is taken is the key at the front. -/
theorem Takes.front_eq {chars rest : List Char} {key : Key} (takes : Takes chars key rest) :
    front chars = key := by
  cases takes with
  | plain other => exact front_of_ne other rest
  | alone notOpen notShort => exact front_alone fun _ => ⟨notOpen, notShort⟩
  | short => rfl
  | @ended body _ final unended ends fits =>
    change ('\x1b' :: '[' :: throughEnd (body ++ final :: rest)).take 8 = _
    rw [throughEnd_ended unended ends]
    exact List.take_of_length_le (by simp; omega)
  | @cut body _ unended stops =>
    change ('\x1b' :: '[' :: throughEnd (body ++ rest)).take 8 = _
    rw [throughEnd_append unended]
    rcases stops with full | ⟨fits, rfl⟩
    · simp [full]
    · rw [show throughEnd [] = [] from rfl, List.append_nil]
      exact List.take_of_length_le (by simp; omega)

/-- The grammar says of all characters but none just which key is taken and what stays. -/
theorem takes_iff {char : Char} {later rest : List Char} {key : Key} :
    Takes (char :: later) key rest ↔
      front (char :: later) = key ∧ (char :: later).drop key.length = rest := by
  have whole {key : Key} {rest : List Char} (takes : Takes (char :: later) key rest) :
      front (char :: later) = key ∧ (char :: later).drop key.length = rest := by
    refine ⟨takes.front_eq, ?_⟩
    rw [← takes.append, List.drop_left]
  constructor
  · exact whole
  · rintro ⟨rfl, rfl⟩
    obtain ⟨key, rest, takes⟩ := exists_takes char later
    obtain ⟨rfl, rfl⟩ := whole takes
    exact takes

/-! ### Whole keys -/

/-- At the front of characters a complete sequence is taken up to the limit. -/
theorem IsComplete.front_append {sequence : Key} (complete : IsComplete sequence)
    (behind : List Char) : front (sequence ++ behind) = sequence.take Keys.longestSequence := by
  cases complete with
  | short char => rfl
  | @opened body final unended ends =>
    change ('\x1b' :: '[' :: throughEnd (body ++ [final] ++ behind)).take 8 = _
    rw [List.append_assoc, List.singleton_append, throughEnd_ended unended ends]
    rfl

/-- A key cancels if it is the interrupt key, or an escape that introduces nothing. -/
theorem Takes.isCancel_iff {char : Char} {later rest : List Char} {key : Key}
    (takes : Takes (char :: later) key rest) :
    key.isCancel = true ↔ char = '\x03' ∨
      char = '\x1b' ∧ later.head? ≠ some '[' ∧ later.head? ≠ some 'O' := by
  cases takes with
  | plain other => simp [isCancel, escape, interrupt, other]
  | alone notOpen notShort => simp [isCancel, escape, notOpen, notShort]
  | short => simp [isCancel, escape, interrupt]
  | ended _ _ _ => simp [isCancel, escape, interrupt]
  | cut _ _ => simp [isCancel, escape, interrupt]

theorem IsComplete.isCancel_take {sequence : Key} (complete : IsComplete sequence) :
    isCancel (sequence.take Keys.longestSequence) = false := by
  refine isCancel_eq_false_of_long ?_
  cases complete with
  | short char => exact Nat.le_add_left 2 1
  | opened _ _ => exact Nat.le_add_left 2 _

/-- The leading group of pending characters is what is taken of them. -/
theorem Takes.leading_eq {char : Char} {later rest : List Char} {key : Key}
    (takes : Takes (char :: later) key rest) :
    leading [char] (singles later) = (singles key, singles rest) := by
  obtain ⟨front, drop⟩ := takes_iff.mp takes
  rw [leading_singles, front, ← drop]
  cases key with
  | nil => cases takes
  | cons first others => rfl

end Key

namespace Console

open Key (singles)

/-- While nothing else arrives, a read takes from pending characters the one key that the grammar
says, and leaves the others in their order. The key cancels just when it is the interrupt key,
or an escape that introduces nothing. So a complete sequence never cancels; it is read as one
key, cut off behind its eighth character if it is longer. -/
theorem readKey_takes {rig : Rig} {char : Char} {later : List Char}
    (waits : rig.keyboard.keys.pending = singles (char :: later)) :
    ∃ key rest keys,
      readKey rig = (.ok (some key), { rig with keyboard := { rig.keyboard with keys } }) ∧
        keys.pending = singles rest ∧
        (∀ other behind, Key.Takes (char :: later) other behind ↔ key = other ∧ rest = behind) ∧
        (key.isCancel = true ↔ char = '\x03' ∨
          char = '\x1b' ∧ later.head? ≠ some '[' ∧ later.head? ≠ some 'O') ∧
        ∀ sequence behind, Key.IsComplete sequence → sequence ++ behind = char :: later →
          key = sequence.take Keys.longestSequence ∧ key.isCancel = false := by
  obtain ⟨keys, read, left⟩ := Keys.read?_of_pending (waits.trans (Key.singles_cons char later))
  obtain ⟨key, rest, takes⟩ := Key.exists_takes char later
  obtain ⟨front, drop⟩ := Key.takes_iff.mp takes
  rw [takes.leading_eq] at read left
  rw [Key.flatten_singles] at read
  refine ⟨key, rest, keys, readKey_of_some read, left, ?_, takes.isCancel_iff, ?_⟩
  · intro other behind
    rw [Key.takes_iff, front]
    refine and_congr_right fun same => ?_
    rw [← same, drop]
  · intro sequence behind complete shape
    have taken : key = sequence.take Keys.longestSequence := by
      rw [← front, ← shape, complete.front_append]
    exact ⟨taken, taken ▸ complete.isCancel_take⟩

/-- The sequence of a key, its escape read ahead, and a character behind it. -/
theorem readKey_takes_delete :
    let keyboard : Keyboard := { keys := ⟨[Key.escape], singles ['[', '3', '~', 'x']⟩ }
    let rig : Rig := { plan := {}, settings := { port := "COM3" }, keyboard }
    let delete : Key := ['\x1b', '[', '3', '~']
    rig.keyboard.keys.pending = singles (delete ++ ['x']) ∧ Key.IsComplete delete ∧
      delete.isCancel = false ∧ ∃ keys, keys.pending = singles ['x'] ∧
        readKey rig = (.ok (some delete), { rig with keyboard := { keyboard with keys } }) := by
  intro keyboard rig delete
  have waits : rig.keyboard.keys.pending = singles (delete ++ ['x']) := rfl
  have unended : ∀ char ∈ ['3'], Key.endsSequence char = false := List.forall_mem_singleton.mpr rfl
  have complete : Key.IsComplete delete := .opened unended rfl
  have taken : Key.Takes (delete ++ ['x']) delete ['x'] := .ended unended rfl (by decide)
  obtain ⟨key, rest, keys, read, left, just, _, whole⟩ := readKey_takes waits
  obtain ⟨rfl, rfl⟩ := (just delete ['x']).mp taken
  exact ⟨waits, complete, (whole delete ['x'] complete rfl).2, keys, left, read⟩

end Console

end KeyFeed
