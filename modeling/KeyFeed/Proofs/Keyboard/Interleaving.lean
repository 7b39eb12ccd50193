/-
This file says that no keystroke is lost, doubled or put in another place, however keystrokes
and reads interleave. Reading a key takes several steps: each takes one pending key, or finds
that none came in time, and between any two of them the user can make more keystrokes. What was
returned, what is held for the key being read, what was read ahead and what is queued are in
this order always what the reader of the console has heard, since a step only moves the border
between two neighbours.

A read that nothing interrupts is a run of such steps, so the reads of a session are among them.
-/

import KeyFeed.Proofs.Keyboard.Hearing
import KeyFeed.Proofs.Session.Success
import Mathlib.Logic.Relation

namespace KeyFeed

open KeyFeed.Run

open Relation (ReflTransGen)

/-- Of at most one key that was read ahead, none is left behind the first pending key. -/
theorem Keys.next?_ahead {keys rest : Keys} {key : Key} (single : keys.ahead.length ≤ 1)
    (taken : keys.next? = some (key, rest)) : rest.ahead = [] := by
  obtain ⟨ahead, queue⟩ := keys
  match ahead, queue, single with
  | [], [], _ => cases taken
  | [], first :: others, _ =>
    cases taken
    rfl
  | [first], queue, _ =>
    cases taken
    rfl

theorem Keys.collect_of_long {introducer sequence : Key}
    (long : ¬sequence.length < Keys.longestSequence) (keys : Keys) :
    Keys.collect introducer sequence keys = (sequence, keys) := by
  unfold collect
  exact if_neg long

/-- An available key can be read. -/
theorem Keys.exists_read?_of_available {keys : Keys} (available : keys.available = true) :
    ∃ key last, keys.read? = some (key, last) := by
  cases shape : keys.pending with
  | nil =>
    obtain ⟨ahead, queue⟩ := List.append_eq_nil_iff.mp shape
    simp [Keys.available, ahead, queue] at available
  | cons key rest =>
    obtain ⟨last, read, _⟩ := read?_of_pending shape
    exact ⟨_, last, read⟩

namespace Console

/-- What is heard of keystrokes goes on with those after them, until the reader has ended. -/
theorem heard_append (front back : List Keystroke) :
    heard (front ++ back) =
      if front.any Keystroke.isEnd then heard front else heard front ++ heard back := by
  induction front with
  | nil => rfl
  | cons keystroke rest inductionHypothesis =>
    cases keystroke with
    | key key =>
      change key.received :: heard (rest ++ back) = if rest.any Keystroke.isEnd then _ else _
      rw [inductionHypothesis]
      split <;> rfl
    | endOfInput => rfl
    | failure failure => rfl

/-! ### Steps in reading a key -/

/-- How far the reading of a key has come. -/
inductive Reading where
  /-- No key is being read. -/
  | idle
  /-- An escape was taken, and its follower is waited for. -/
  | escaped
  /-- A sequence was introduced, and more of it is waited for. -/
  | joining (introducer sequence : Key)
  deriving Repr, DecidableEq

/-- What comes of a step in reading a key. -/
structure Advance where
  reading : Reading
  keys : Keys
  /-- The key, when it has been read. -/
  returned : Option Key := none
  deriving Repr, DecidableEq

namespace Reading

/-- A step without a key that came in time: the read ends with what there is. Without a pending key
no read begins. -/
def timedOut (keys : Keys) : Reading → Advance
  | idle => { reading := idle, keys }
  | escaped => { reading := idle, keys, returned := Key.escape }
  | joining _ sequence => { reading := idle, keys, returned := sequence }

/-- A step that takes a key in front of others. -/
def taking (key : Key) (rest : Keys) : Reading → Advance
  | idle =>
    if key = Key.escape then { reading := escaped, keys := rest }
    else { reading := idle, keys := rest, returned := key }
  | escaped =>
    if key.isIntroducer then { reading := joining key (Key.escape ++ key), keys := rest }
    else
      { reading := idle
        keys := { rest with ahead := key :: rest.ahead }
        returned := Key.escape }
  | joining introducer sequence =>
    if introducer = Key.shortIntroducer || key.isFinal ||
        Keys.longestSequence ≤ (sequence ++ key).length then
      { reading := idle, keys := rest, returned := sequence ++ key }
    else { reading := joining introducer (sequence ++ key), keys := rest }

/-- The next step in reading a key. -/
def advance (reading : Reading) (keys : Keys) : Advance :=
  match keys.next? with
  | none => reading.timedOut keys
  | some (key, rest) => reading.taking key rest

/-- The keys were taken for the key that is being read. -/
def Holds : Reading → List Key → Prop
  | idle, taken => taken = []
  | escaped, taken => taken = [Key.escape]
  | joining _ sequence, taken => taken.flatten = sequence

theorem advance_of_none {keys : Keys} (empty : keys.next? = none) (reading : Reading) :
    reading.advance keys = reading.timedOut keys := by
  rw [advance, empty]

theorem advance_of_some {keys rest : Keys} {key : Key} (taken : keys.next? = some (key, rest))
    (reading : Reading) : reading.advance keys = reading.taking key rest := by
  rw [advance, taken]

/-- A key goes on into a read, and what is held then is returned or held on. -/
theorem taking_moves {reading : Reading} {taken : List Key} (holds : reading.Holds taken)
    (key : Key) (rest : Keys) :
    ∃ (groups : List (List Key)) (held : List Key),
      (reading.taking key rest).returned.toList = groups.map List.flatten ∧
      (reading.taking key rest).reading.Holds held ∧
      taken ++ key :: rest.pending =
        groups.flatten ++ held ++ (reading.taking key rest).keys.pending := by
  unfold taking
  cases reading with
  | idle =>
    obtain rfl := holds
    dsimp only
    split
    · rename_i escapes
      exact ⟨[], [key], rfl, congrArg ([·]) escapes, rfl⟩
    · exact ⟨[[key]], [], by simp, rfl, rfl⟩
  | escaped =>
    obtain rfl := holds
    dsimp only
    split
    · exact ⟨[], [Key.escape, key], rfl, by simp [Holds], rfl⟩
    · exact ⟨[[Key.escape]], [], rfl, rfl, rfl⟩
  | joining introducer sequence =>
    have joined : (taken ++ [key]).flatten = sequence ++ key := by
      rw [List.flatten_append, holds, List.flatten_singleton]
    dsimp only
    split
    · exact ⟨[taken ++ [key]], [], by rw [List.map_singleton, joined]; rfl, rfl, by simp⟩
    · exact ⟨[], taken ++ [key], rfl, joined, by simp⟩

/-- A step moves keys from the front of the pending ones to those that are held, and from these to
a key that is returned. -/
theorem advance_moves {reading : Reading} {taken : List Key} (holds : reading.Holds taken)
    (keys : Keys) :
    ∃ (groups : List (List Key)) (held : List Key),
      (reading.advance keys).returned.toList = groups.map List.flatten ∧
      (reading.advance keys).reading.Holds held ∧
      taken ++ keys.pending = groups.flatten ++ held ++ (reading.advance keys).keys.pending := by
  cases first : keys.next? with
  | none =>
    rw [advance_of_none first]
    cases reading with
    | idle => exact ⟨[], taken, rfl, holds, rfl⟩
    | escaped => exact ⟨[taken], [], by rw [holds]; rfl, rfl, by simp [timedOut]⟩
    | joining introducer sequence =>
      exact ⟨[taken], [], by rw [← holds]; rfl, rfl, by simp [timedOut]⟩
  | some found =>
    obtain ⟨key, rest⟩ := found
    rw [advance_of_some first, Keys.next?_pending first]
    exact taking_moves holds key rest

/-- Only a key that follows an escape and introduces nothing is read ahead, and ends the read. -/
theorem taking_ahead (reading : Reading) (key : Key) {rest : Keys} (empty : rest.ahead = []) :
    (reading.taking key rest).keys.ahead.length ≤ 1 ∧
      ((reading.taking key rest).reading ≠ idle → (reading.taking key rest).keys.ahead = []) := by
  have short : rest.ahead.length ≤ 1 := by rw [empty]; exact Nat.zero_le 1
  unfold taking
  cases reading with
  | idle =>
    dsimp only
    split
    · exact ⟨short, fun _ => empty⟩
    · exact ⟨short, fun busy => absurd rfl busy⟩
  | escaped =>
    dsimp only
    split
    · exact ⟨short, fun _ => empty⟩
    · exact ⟨by rw [empty]; exact Nat.le_refl 1, fun busy => absurd rfl busy⟩
  | joining introducer sequence =>
    dsimp only
    split
    · exact ⟨short, fun busy => absurd rfl busy⟩
    · exact ⟨short, fun _ => empty⟩

/-- A step leaves at most one key that was read ahead, and none while the read goes on. -/
theorem advance_ahead {reading : Reading} {keys : Keys} (single : keys.ahead.length ≤ 1)
    (early : reading ≠ idle → keys.ahead = []) :
    (reading.advance keys).keys.ahead.length ≤ 1 ∧
      ((reading.advance keys).reading ≠ idle → (reading.advance keys).keys.ahead = []) := by
  cases first : keys.next? with
  | none =>
    rw [advance_of_none first]
    cases reading <;> exact ⟨single, fun busy => absurd rfl busy⟩
  | some found =>
    obtain ⟨key, rest⟩ := found
    rw [advance_of_some first]
    exact reading.taking_ahead key (Keys.next?_ahead single first)

end Reading

/-! ### Scenes -/

/-- A console at which keys are made and read. -/
structure Scene where
  rig : Rig
  reading : Reading := .idle
  /-- The keystrokes that were made so far. -/
  typed : List Keystroke := []
  /-- The keys that were returned so far. -/
  returned : List Key := []

namespace Scene

variable {scene next : Scene}

/-- The scene after keystrokes. -/
def afterTyping (scene : Scene) (keystrokes : List Keystroke) : Scene :=
  { scene with
    rig := (type keystrokes scene.rig).2
    typed := scene.typed ++ keystrokes }

/-- The scene after a step in reading a key. -/
def advanced (scene : Scene) : Scene :=
  let advance := scene.reading.advance scene.rig.keyboard.keys
  { scene with
    rig := left advance.keys scene.rig
    reading := advance.reading
    returned := scene.returned ++ advance.returned.toList }

/-- Keystrokes are made, or a step is taken in reading a key, or something happens that does not
concern the keyboard. -/
inductive Moves (scene : Scene) : Scene → Prop
  | typing (keystrokes : List Keystroke) : Moves scene (scene.afterTyping keystrokes)
  | reading : Moves scene scene.advanced
  | aside {rig : Rig} (same : rig.keyboard = scene.rig.keyboard) : Moves scene { scene with rig }

/-- What holds in every scene of a console that was made ready once. -/
structure Conserves (scene : Scene) : Prop where
  active : scene.rig.keyboard.active = true
  reads : scene.rig.keyboard.reading = !scene.typed.any Keystroke.isEnd
  single : scene.rig.keyboard.keys.ahead.length ≤ 1
  early : scene.reading ≠ .idle → scene.rig.keyboard.keys.ahead = []
  /-- What was returned, what is held, and what is pending make up what was heard. -/
  kept : ∃ (groups : List (List Key)) (held : List Key),
    scene.returned = groups.map List.flatten ∧ scene.reading.Holds held ∧
      groups.flatten ++ held ++ scene.rig.keyboard.keys.pending = heard scene.typed

namespace Conserves

theorem aside (conserves : scene.Conserves) {rig : Rig}
    (same : rig.keyboard = scene.rig.keyboard) : { scene with rig }.Conserves where
  active := same ▸ conserves.active
  reads := same ▸ conserves.reads
  single := same ▸ conserves.single
  early := same ▸ conserves.early
  kept := same ▸ conserves.kept

theorem advanced (conserves : scene.Conserves) : scene.advanced.Conserves := by
  obtain ⟨groups, held, returned, holds, kept⟩ := conserves.kept
  obtain ⟨more, holding, read, holdsToo, moved⟩ :=
    Reading.advance_moves holds scene.rig.keyboard.keys
  obtain ⟨single, early⟩ := Reading.advance_ahead conserves.single conserves.early
  refine ⟨conserves.active, conserves.reads, single, early, groups ++ more, holding, ?_, holdsToo,
    ?_⟩
  · change scene.returned ++ _ = _
    rw [read, returned, List.map_append]
  · refine Eq.trans ?_ kept
    rw [List.append_assoc groups.flatten, moved, List.flatten_append]
    simp only [List.append_assoc]
    rfl

theorem afterTyping (conserves : scene.Conserves) (keystrokes : List Keystroke) :
    (scene.afterTyping keystrokes).Conserves := by
  have typing : type keystrokes scene.rig = deliver keystrokes scene.rig := by
    unfold type
    rw [look_bind, if_pos conserves.active]
  have reads := conserves.reads
  have hears := heard_append scene.typed keystrokes
  have ends := @List.any_append _ Keystroke.isEnd scene.typed keystrokes
  obtain ⟨groups, held, returned, holds, kept⟩ := conserves.kept
  unfold Scene.afterTyping
  cases ended : scene.typed.any Keystroke.isEnd with
  | true =>
    -- The reader has ended, so the keystrokes are lost.
    rw [ended] at reads hears ends
    rw [typing, deliver_of_unread reads]
    refine ⟨conserves.active, ?_, conserves.single, conserves.early, groups, held, returned, holds,
      kept.trans hears.symm⟩
    rw [ends]
    exact reads
  | false =>
    rw [ended] at reads hears ends
    obtain ⟨_, keyboard, _⟩ := deliver_keyboard reads keystrokes
    have queued : Conserves
        { scene with
          rig.keyboard :=
            { scene.rig.keyboard with
              reading := !keystrokes.any Keystroke.isEnd
              keys := scene.rig.keyboard.keys.append (heard keystrokes) }
          typed := scene.typed ++ keystrokes } := by
      refine ⟨conserves.active, ?_, conserves.single, conserves.early, groups, held, returned,
        holds, ?_⟩
      · rw [ends]
        rfl
      · rw [Keys.pending_append, ← List.append_assoc, kept]
        exact hears.symm
    rw [typing]
    exact queued.aside keyboard

theorem moves (conserves : scene.Conserves) (moves : scene.Moves next) : next.Conserves := by
  cases moves with
  | typing keystrokes => exact conserves.afterTyping keystrokes
  | reading => exact conserves.advanced
  | aside same => exact conserves.aside same

theorem reaches (conserves : scene.Conserves) (reaches : ReflTransGen Moves scene next) :
    next.Conserves := by
  induction reaches with
  | refl => exact conserves
  | tail _ moves inductionHypothesis => exact inductionHypothesis.moves moves

/-- Between two reads nothing is held. -/
theorem flatten_eq (conserves : scene.Conserves) (idle : scene.reading = .idle) :
    scene.returned.flatten ++ scene.rig.keyboard.keys.ahead.flatten ++
      scene.rig.keyboard.keys.queue.flatten = (heard scene.typed).flatten := by
  obtain ⟨groups, held, returned, holds, kept⟩ := conserves.kept
  rw [idle] at holds
  obtain rfl := holds
  rw [returned, ← List.flatten_flatten, ← kept, Keys.pending]
  simp

end Conserves

/-! ### Whole reads -/

section

variable (rig : Rig) (typed : List Keystroke) (returned : List Key)

theorem moves_of_timeout {keys : Keys} (empty : keys.next? = none) (reading : Reading) :
    Moves ⟨left keys rig, reading, typed, returned⟩
      ⟨left (reading.timedOut keys).keys rig, (reading.timedOut keys).reading, typed,
        returned ++ (reading.timedOut keys).returned.toList⟩ := by
  rw [← Reading.advance_of_none empty reading]
  exact .reading

theorem moves_of_taken {keys rest : Keys} {key : Key} (taken : keys.next? = some (key, rest))
    (reading : Reading) {advance : Advance} (steps : reading.taking key rest = advance) :
    Moves ⟨left keys rig, reading, typed, returned⟩
      ⟨left advance.keys rig, advance.reading, typed,
        returned ++ advance.returned.toList⟩ := by
  rw [← steps, ← Reading.advance_of_some taken reading]
  exact .reading

/-- Joining a sequence is a run of steps. -/
theorem reaches_collect (introducer sequence : Key) (keys : Keys)
    (short : sequence.length < Keys.longestSequence) :
    ReflTransGen Moves ⟨left keys rig, .joining introducer sequence, typed, returned⟩
      ⟨left (Keys.collect introducer sequence keys).2 rig, .idle, typed,
        returned ++ [(Keys.collect introducer sequence keys).1]⟩ := by
  fun_induction Keys.collect introducer sequence keys with
  | case1 sequence keys _ empty => exact .single (moves_of_timeout rig typed returned empty _)
  | case2 sequence keys _ key rest taken ends =>
    have steps : (Reading.joining introducer sequence).taking key rest =
        ⟨.idle, rest, sequence ++ key⟩ := by
      rw [Reading.taking, ends, Bool.true_or, if_pos rfl]
    exact .single (moves_of_taken rig typed returned taken _ steps)
  | case3 sequence keys _ key rest taken goesOn inductionHypothesis =>
    have unended := Bool.eq_false_iff.mpr goesOn
    by_cases more : (sequence ++ key).length < Keys.longestSequence
    · have steps : (Reading.joining introducer sequence).taking key rest =
          ⟨.joining introducer (sequence ++ key), rest, none⟩ := by
        rw [Reading.taking, unended, decide_eq_false (Nat.not_le_of_lt more)]
        rfl
      have moves := moves_of_taken rig typed returned taken _ steps
      rw [Option.toList_none, List.append_nil] at moves
      exact .head moves (inductionHypothesis more)
    · -- The key brings the sequence to the limit.
      have steps : (Reading.joining introducer sequence).taking key rest =
          ⟨.idle, rest, sequence ++ key⟩ := by
        rw [Reading.taking, decide_eq_true (Nat.le_of_not_lt more), Bool.or_true, if_pos rfl]
      rw [Keys.collect_of_long more]
      exact .single (moves_of_taken rig typed returned taken _ steps)
  | case4 sequence keys long => exact absurd short long

/-- A read that nothing interrupts is a run of steps. -/
theorem reaches_read {keys last : Keys} {key : Key} (read : keys.read? = some (key, last)) :
    ReflTransGen Moves ⟨left keys rig, .idle, typed, returned⟩
      ⟨left last rig, .idle, typed, returned ++ [key]⟩ := by
  unfold Keys.read? at read
  cases first : keys.next? with
  | none =>
    rw [first] at read
    cases read
  | some found =>
    obtain ⟨begun, rest⟩ := found
    rw [first] at read
    dsimp only at read
    split at read
    · rename_i escapes
      have begins := moves_of_taken rig typed returned first .idle (if_pos escapes)
      rw [Option.toList_none, List.append_nil] at begins
      refine .head begins ?_
      cases second : rest.next? with
      | none =>
        rw [second] at read
        cases read
        rw [escapes]
        exact .single (moves_of_timeout rig typed returned second .escaped)
      | some found =>
        obtain ⟨follower, later⟩ := found
        rw [second] at read
        dsimp only at read
        split at read
        · rename_i introduces
          have joins := moves_of_taken rig typed returned second .escaped (if_pos introduces)
          rw [Option.toList_none, List.append_nil] at joins
          have short : (Key.escape ++ follower).length < Keys.longestSequence := by
            rw [List.length_append, Key.length_of_isIntroducer introduces]
            decide
          have collects := reaches_collect rig typed returned follower _ later short
          rw [escapes] at read
          rw [Option.some.inj read] at collects
          exact .head joins collects
        · rename_i other
          cases read
          rw [escapes]
          exact .single (moves_of_taken rig typed returned second .escaped (if_neg other))
    · rename_i other
      cases read
      exact .single (moves_of_taken rig typed returned first .idle (if_neg other))

end

/-! ### The whole console -/

/-- The scene in which nothing happened yet. -/
def begun (rig : Rig) : Scene := { rig }

theorem begun_conserves {rig begun : Rig} (fresh : rig.keyboard = {})
    (started : start rig = (.ok (), begun)) : (Scene.begun begun).Conserves := by
  obtain rfl := start_ok (congrArg Keyboard.active fresh) started
  have keys : (readied rig).keyboard.keys = .none := congrArg Keyboard.keys fresh
  refine ⟨rfl, rfl, ?_, ?_, [], [], rfl, rfl, ?_⟩
  · exact keys ▸ Nat.zero_le 1
  · exact fun _ => keys ▸ rfl
  · exact keys ▸ rfl

/-- However keystrokes, steps in reading keys and anything else interleave at a console that was
made ready once: at most one key is ever read ahead. Between two reads all keys that were
returned, the one that was read ahead and those that are queued make up in this order what was
heard so far. When a key is available then, a read returns one, and is a run of steps itself. -/
theorem reached_kept {rig begun : Rig} (fresh : rig.keyboard = {})
    (started : start rig = (.ok (), begun))
    (reached : ReflTransGen Moves (Scene.begun begun) scene) :
    scene.rig.keyboard.keys.ahead.length ≤ 1 ∧
      (scene.reading = .idle →
        scene.returned.flatten ++ scene.rig.keyboard.keys.ahead.flatten ++
            scene.rig.keyboard.keys.queue.flatten = (heard scene.typed).flatten ∧
          (scene.rig.keyboard.keys.available = true →
            ∃ key last, readKey scene.rig = (.ok (some key), last) ∧
              ReflTransGen Moves scene
                { scene with rig := last, returned := scene.returned ++ [key] })) := by
  have conserves := (begun_conserves fresh started).reaches reached
  refine ⟨conserves.single, fun idle => ⟨conserves.flatten_eq idle, fun available => ?_⟩⟩
  obtain ⟨key, last, read⟩ := Keys.exists_read?_of_available available
  have reads := reaches_read scene.rig scene.typed scene.returned read
  rw [← idle] at reads
  exact ⟨key, _, readKey_of_some read, reads⟩

/-- A sequence that turns out to be none, and the end of the input before its second key is read. -/
theorem reached_kept_of_escape :
    let rig : Rig := { plan := {}, settings := { port := "COM3" } }
    let first := begun (start rig).2
    let escaped := (first.afterTyping [.key ['\x1b']]).advanced
    let last := (escaped.afterTyping [.key ['x'], .key ['\n'], .endOfInput, .key ['y']]).advanced
    rig.keyboard = {} ∧ (start rig).1 = .ok () ∧ ReflTransGen Moves first last ∧
      last.reading = .idle ∧ last.returned = [['\x1b']] ∧
      last.rig.keyboard.keys = ⟨[['x']], [['\r'], ['\x1b']]⟩ ∧
      (heard last.typed).flatten = ['\x1b', 'x', '\r', '\x1b'] := by
  intro rig first escaped last
  have started : (start rig).1 = .ok () := rfl
  have reached : ReflTransGen Moves first last :=
    .tail (.tail (.tail (.single (.typing _)) .reading) (.typing _)) .reading
  have idle : last.reading = .idle := rfl
  have kept := (reached_kept rfl (Prod.ext started rfl) reached).2 idle
  refine ⟨rfl, started, reached, idle, rfl, rfl, ?_⟩
  rw [← kept.1]
  rfl

end Scene

end Console

end KeyFeed
