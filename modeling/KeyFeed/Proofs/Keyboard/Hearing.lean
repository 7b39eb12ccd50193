/-
This file says which keys the keystrokes of a user bring to the console. A batch brings its
keys up to the end of the input or a read that fails, and for these the escape key; after
that nobody reads the console any more. Each sleep lets one batch be made. After the last
one the input ends, and when that has been heard a sleep brings nothing but its own end.
-/

import KeyFeed.Proofs.Keyboard.Reading
import KeyFeed.Proofs.Rig.GoesOn

namespace KeyFeed

open KeyFeed.Run

/-! ### What is heard -/

/-- The reader of the console ends with the keystroke. -/
def Keystroke.isEnd : Keystroke → Bool
  | .key _ => false
  | _ => true

namespace Console

/-- The keys that keystrokes bring: those up to the end of the input or a failure, and for these the
escape key, unless somebody interrupts the reader. -/
def heard : List Keystroke → List Key
  | [] => []
  | .key key :: rest => key.received :: heard rest
  | .endOfInput :: _ => [Key.escape]
  | .failure failure :: _ => if failure.isOrdinary then [Key.escape] else []

/-- The keys that each sleep brings, while somebody reads the console or nobody does. After the last
batch the input ends, and after that a sleep brings nothing any more. -/
def hearing : (reading : Bool) → List (List Keystroke) → List (List Key)
  | true, [] => [[Key.escape], []]
  | false, [] => [[]]
  | true, batch :: rest => heard batch :: hearing (!batch.any Keystroke.isEnd) rest
  | false, _ :: rest => [] :: hearing false rest

/-- The key that is queued for what ends the reader. -/
def ReaderEnd.keys : ReaderEnd → List Key
  | inputClosed => [Key.escape]
  | failed failure => if failure.isOrdinary then [Key.escape] else []

theorem heard_received (keystrokes : List Keystroke) :
    heard keystrokes =
        (received keystrokes).1 ++ ((received keystrokes).2.map ReaderEnd.keys).getD [] ∧
      keystrokes.any Keystroke.isEnd = (received keystrokes).2.isSome := by
  induction keystrokes with
  | nil => exact ⟨rfl, rfl⟩
  | cons keystroke rest inductionHypothesis =>
    cases keystroke with
    | key key => exact ⟨congrArg (key.received :: ·) inductionHypothesis.1, inductionHypothesis.2⟩
    | endOfInput => exact ⟨rfl, rfl⟩
    | failure failure => exact ⟨rfl, rfl⟩

theorem meetEnd_apply (ending : ReaderEnd) (rig : Rig) :
    (meetEnd ending rig).1 = .ok () ∧
      (meetEnd ending rig).2.keyboard =
        { rig.keyboard with reading := false, keys := rig.keyboard.keys.append ending.keys } ∧
      (meetEnd ending rig).2.batches = rig.batches := by
  have nothing : rig.keyboard.keys.append [] = rig.keyboard.keys := by
    rw [Keys.append, List.append_nil]
  cases ending with
  | inputClosed => exact ⟨rfl, rfl, rfl⟩
  | failed failure =>
    unfold meetEnd ReaderEnd.keys
    dsimp only
    split
    · exact ⟨rfl, rfl, rfl⟩
    · rw [nothing]
      exact ⟨rfl, rfl, rfl⟩

/-- A reader queues the keys that it takes, and meets its end if there is one among them. -/
theorem deliver_of_reading {rig : Rig} (reading : rig.keyboard.reading = true)
    (keystrokes : List Keystroke) :
    deliver keystrokes rig =
      match (received keystrokes).2 with
      | none => (.ok (), (queue (received keystrokes).1 rig).2)
      | some ending => meetEnd ending (queue (received keystrokes).1 rig).2 := by
  unfold deliver
  rw [look_bind, if_pos reading]
  dsimp only
  cases (received keystrokes).2 <;> rfl

/-- A reader queues what it hears, and stays until it meets its end. -/
theorem deliver_keyboard {rig : Rig} (reading : rig.keyboard.reading = true)
    (keystrokes : List Keystroke) :
    let next := (deliver keystrokes rig).2
    (deliver keystrokes rig).1 = .ok () ∧
      next.keyboard =
        { rig.keyboard with
          reading := !keystrokes.any Keystroke.isEnd
          keys := rig.keyboard.keys.append (heard keystrokes) } ∧
      next.batches = rig.batches := by
  obtain ⟨keys, ends⟩ := heard_received keystrokes
  rw [deliver_of_reading reading, keys, ends]
  cases (received keystrokes).2 with
  | none =>
    refine ⟨rfl, ?_, rfl⟩
    rw [Option.map_none, Option.getD_none, List.append_nil, Option.isSome_none, Bool.not_false,
      ← reading]
    rfl
  | some ending =>
    obtain ⟨met, keyboard, batches⟩ := meetEnd_apply ending (queue (received keystrokes).1 rig).2
    refine ⟨met, keyboard.trans ?_, batches⟩
    rw [Option.map_some, Option.getD_some, ← Keys.append_append]
    rfl

/-- The pending keys, and whether somebody still reads the console, after keystrokes that were made
while somebody read it. -/
theorem deliver_heard {rig : Rig} (reading : rig.keyboard.reading = true)
    (keystrokes : List Keystroke) :
    let next := (deliver keystrokes rig).2
    (deliver keystrokes rig).1 = .ok () ∧
      next.keyboard.keys.pending = rig.keyboard.keys.pending ++ heard keystrokes ∧
      next.keyboard.reading = !keystrokes.any Keystroke.isEnd ∧ next.batches = rig.batches := by
  obtain ⟨done, keyboard, batches⟩ := deliver_keyboard reading keystrokes
  refine ⟨done, ?_, congrArg Keyboard.reading keyboard, batches⟩
  rw [keyboard]
  exact Keys.pending_append _ _

/-- Without somebody who reads the console keystrokes are lost. -/
theorem deliver_of_unread {rig : Rig} (unread : rig.keyboard.reading = false)
    (keystrokes : List Keystroke) : deliver keystrokes rig = (.ok (), rig) := by
  unfold deliver
  rw [look_bind, unread]
  rfl

theorem passTime_of_batch {rig : Rig} {batch : List Keystroke} {rest : List (List Keystroke)}
    (active : rig.keyboard.active = true) (made : rig.batches = batch :: rest) :
    passTime rig = deliver batch { rig with batches := rest } := by
  unfold passTime
  rw [look_bind, if_pos active, made]
  rfl

theorem passTime_of_last {rig : Rig} (active : rig.keyboard.active = true)
    (made : rig.batches = []) (reading : rig.keyboard.reading = true) :
    passTime rig = deliver [.endOfInput] rig := by
  unfold passTime
  rw [look_bind, if_pos active, made]
  dsimp only
  rw [if_pos reading]

theorem passTime_of_stalled {rig : Rig} (active : rig.keyboard.active = true)
    (made : rig.batches = []) (unread : rig.keyboard.reading = false) :
    passTime rig = (.error (.interrupted "stalled"), rig) := by
  unfold passTime
  rw [look_bind, if_pos active, made, unread]
  rfl

/-- The keys that the sleeps to come will bring. -/
def coming (rig : Rig) : List (List Key) := hearing rig.keyboard.reading rig.batches

/-- While time passes, the user makes the next keystrokes; when there are none and nobody reads the
console, the wait is given up. -/
theorem passTime_coming {rig : Rig} (active : rig.keyboard.active = true) :
    (coming rig = [[]] ∧ passTime rig = (.error (.interrupted "stalled"), rig)) ∨
      ∃ next keys, passTime rig = (.ok (), next) ∧ rig.Keyed next ∧
        next.keyboard.keys.pending = rig.keyboard.keys.pending ++ keys ∧
        coming rig = keys :: coming next := by
  have keyed := passTime_keyed rig
  unfold coming
  cases made : rig.batches with
  | nil =>
    cases reading : rig.keyboard.reading with
    | false => exact Or.inl ⟨rfl, passTime_of_stalled active made reading⟩
    | true =>
      obtain ⟨done, pending, unread, batches⟩ := deliver_heard reading [.endOfInput]
      rw [passTime_of_last active made reading] at keyed ⊢
      refine Or.inr ⟨_, [Key.escape], Prod.ext done rfl, keyed, pending, ?_⟩
      rw [unread, batches, made]
      rfl
  | cons batch rest =>
    rw [passTime_of_batch active made] at keyed ⊢
    have readingToo : { rig with batches := rest }.keyboard.reading = rig.keyboard.reading := rfl
    cases reading : rig.keyboard.reading with
    | false =>
      rw [deliver_of_unread (readingToo.trans reading)] at keyed ⊢
      refine Or.inr ⟨_, [], rfl, keyed, (List.append_nil _).symm, ?_⟩
      rw [readingToo, reading]
      rfl
    | true =>
      obtain ⟨done, pending, ends, batches⟩ := deliver_heard (readingToo.trans reading) batch
      refine Or.inr ⟨_, heard batch, Prod.ext done rfl, keyed, pending, ?_⟩
      rw [ends, batches]
      rfl

/-! ### The end of the input -/

/-- The keystroke marks the end of the input, or a read that fails otherwise than by an
interruption. -/
def IsMark (keystroke : Keystroke) : Prop :=
  keystroke = .endOfInput ∨ ∃ failure, keystroke = .failure failure ∧ failure.isOrdinary = true

theorem heard_of_mark {mark : Keystroke} (marks : IsMark mark) (keys : List Key)
    (late : List Keystroke) :
    heard (keys.map .key ++ mark :: late) = keys.map Key.received ++ [Key.escape] ∧
      (keys.map Keystroke.key ++ mark :: late).any Keystroke.isEnd = true := by
  induction keys with
  | nil =>
    rcases marks with rfl | ⟨failure, rfl, ordinary⟩
    · exact ⟨rfl, rfl⟩
    · exact ⟨if_pos ordinary, rfl⟩
  | cons key rest inductionHypothesis =>
    exact ⟨congrArg (key.received :: ·) inductionHypothesis.1, inductionHypothesis.2⟩

/-- After the batch in which the reader ends nothing is heard any more. -/
theorem hearing_of_ended {front back : List (List Keystroke)} {batch : List Keystroke}
    (unended : ∀ earlier ∈ front, earlier.any Keystroke.isEnd = false)
    (ended : batch.any Keystroke.isEnd = true) :
    hearing true (front ++ batch :: back) =
      front.map heard ++ heard batch :: hearing false back := by
  induction front with
  | nil => simp [hearing, ended]
  | cons earlier rest inductionHypothesis =>
    obtain ⟨goesOn, others⟩ := List.forall_mem_cons.mp unended
    simp [hearing, goesOn, inductionHypothesis others]

theorem readAll_hearing_false (batches : List (List Keystroke)) :
    ((hearing false batches).map Key.readAll).flatten = [] := by
  induction batches with
  | nil => simp [hearing, Key.readAll_nil]
  | cons batch rest inductionHypothesis =>
    simpa [hearing, Key.readAll_nil] using inductionHypothesis

/-! ### Keys of a single character -/

end Console

end KeyFeed
