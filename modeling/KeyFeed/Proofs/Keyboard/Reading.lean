/-
This file says which keys are read off the pending ones. The two buffers of the keyboard
count as the one list that they make up: how far a reader has looked ahead makes no
difference. Pending keys fall into groups, each of which is read as one key, and groups of
keys of a single character each are those of the grammar of sequences.

The escape key that marks the end of the input is pending like any other, so it need not
come out as a key of its own: a last group that is an open sequence takes it as one more
key. In every other case it is a group by itself.
-/

import KeyFeed.Keyboard.Keys

namespace KeyFeed

namespace Key

/-! ### Groups -/

/-- Adds pending keys to the group of a sequence that was introduced, and says what is left of
them. -/
def gather (introducer : Key) (group : List Key) : List Key → List Key × List Key
  | [] => (group, [])
  | key :: rest =>
    if group.flatten.length < Keys.longestSequence then
      if introducer = shortIntroducer || key.isFinal then (group ++ [key], rest)
      else gather introducer (group ++ [key]) rest
    else (group, key :: rest)

/-- The leading group when a key is pending in front of others, and what is left of them. -/
def leading (key : Key) : List Key → List Key × List Key
  | [] => ([key], [])
  | follower :: later =>
    if key = escape && follower.isIntroducer then gather follower [key, follower] later
    else ([key], follower :: later)

theorem gather_length_le (introducer : Key) (group pending : List Key) :
    (gather introducer group pending).2.length ≤ pending.length := by
  induction pending generalizing group with
  | nil => exact Nat.le_refl _
  | cons key rest inductionHypothesis =>
    unfold gather
    split
    · split
      · exact Nat.le_succ _
      · exact Nat.le_succ_of_le (inductionHypothesis _)
    · exact Nat.le_refl _

theorem leading_length_le (key : Key) (pending : List Key) :
    (leading key pending).2.length ≤ pending.length := by
  cases pending with
  | nil => exact Nat.le_refl _
  | cons follower later =>
    rw [leading]
    split
    · exact Nat.le_succ_of_le (gather_length_le _ _ later)
    · exact Nat.le_refl _

theorem leading_of_ne {key : Key} (other : key ≠ escape) (rest : List Key) :
    leading key rest = ([key], rest) := by
  cases rest with
  | nil => rfl
  | cons follower later => simp [leading, other]

/-- The groups of pending keys. -/
def groups : List Key → List (List Key)
  | [] => []
  | key :: rest => (leading key rest).1 :: groups (leading key rest).2
termination_by pending => pending.length
decreasing_by exact Nat.lt_succ_of_le (leading_length_le key rest)

theorem groups_nil : groups [] = [] := by rw [groups]

theorem groups_cons (key : Key) (rest : List Key) :
    groups (key :: rest) = (leading key rest).1 :: groups (leading key rest).2 := by
  rw [groups]

theorem groups_ne_nil (key : Key) (rest : List Key) : groups (key :: rest) ≠ [] := by
  rw [groups_cons]
  exact List.cons_ne_nil _ _

theorem groups_singleton (key : Key) : groups [key] = [[key]] := by
  rw [groups_cons]
  exact congrArg ([key] :: ·) groups_nil

/-- All keys that are read off pending ones: each group is joined to one. -/
def readAll (pending : List Key) : List Key := (groups pending).map List.flatten

theorem readAll_nil : readAll [] = [] := by rw [readAll, groups_nil, List.map_nil]

theorem readAll_cons (key : Key) (rest : List Key) :
    readAll (key :: rest) = (leading key rest).1.flatten :: readAll (leading key rest).2 := by
  rw [readAll, groups_cons, List.map_cons]
  rfl

end Key

/-! ### The two buffers -/

namespace Keys

theorem collect_gather (introducer : Key) (group : List Key) (keys : Keys) :
    (collect introducer group.flatten keys).1 =
        (Key.gather introducer group keys.pending).1.flatten ∧
      (collect introducer group.flatten keys).2.pending =
        (Key.gather introducer group keys.pending).2 := by
  generalize joined : group.flatten = sequence
  fun_induction collect introducer sequence keys generalizing group with
  | case1 sequence keys short empty =>
    rw [next?_eq_none_iff.mp empty]
    exact ⟨joined.symm, rfl⟩
  | case2 sequence keys short key rest taken ends =>
    rw [next?_pending taken, Key.gather, if_pos (joined ▸ short), if_pos ends, ← joined]
    exact ⟨by simp, rfl⟩
  | case3 sequence keys short key rest taken goesOn inductionHypothesis =>
    rw [next?_pending taken, Key.gather, if_pos (joined ▸ short), if_neg goesOn]
    exact inductionHypothesis (group ++ [key]) (by simp [joined])
  | case4 sequence keys long =>
    cases keys.pending with
    | nil => exact ⟨joined.symm, rfl⟩
    | cons key rest =>
      rw [Key.gather, if_neg (joined ▸ long)]
      exact ⟨joined.symm, rfl⟩

theorem read?_of_idle {keys : Keys} (idle : keys.pending = []) : keys.read? = Option.none := by
  unfold read?
  rw [next?_eq_none_iff.mpr idle]

/-- Reading takes the leading group, wherever the look-ahead ends. -/
theorem read?_of_pending {keys : Keys} {key : Key} {rest : List Key}
    (shape : keys.pending = key :: rest) :
    ∃ left, keys.read? = some ((Key.leading key rest).1.flatten, left) ∧
      left.pending = (Key.leading key rest).2 := by
  unfold read?
  cases first : keys.next? with
  | none =>
    rw [next?_eq_none_iff.mp first] at shape
    cases shape
  | some taken =>
    obtain ⟨begun, others⟩ := taken
    obtain ⟨same, rfl⟩ := List.cons.inj ((next?_pending first).symm.trans shape)
    subst same
    have alone : ([begun] : List Key).flatten = begun := List.flatten_singleton
    dsimp only
    by_cases escaped : begun = Key.escape
    · rw [if_pos escaped]
      cases second : others.next? with
      | none =>
        have idle := next?_eq_none_iff.mp second
        rw [idle, Key.leading, alone]
        exact ⟨others, rfl, idle⟩
      | some taken =>
        obtain ⟨follower, later⟩ := taken
        rw [next?_pending second, Key.leading]
        dsimp only
        cases introduces : follower.isIntroducer with
        | true =>
          obtain ⟨sequence, left⟩ := collect_gather follower [begun, follower] later
          have joined : ([begun, follower] : List Key).flatten = begun ++ follower := by simp
          rw [joined] at sequence left
          simp only [escaped, decide_true, Bool.and_self, if_true] at sequence left ⊢
          exact ⟨_, by rw [← sequence], left⟩
        | false =>
          simp only [escaped, Bool.and_false, Bool.false_eq_true, if_false]
          exact ⟨_, by rw [List.flatten_singleton], rfl⟩
    · rw [if_neg escaped, Key.leading_of_ne escaped, alone]
      exact ⟨others, rfl, rfl⟩

end Keys

/-! ### Single characters -/

namespace Key

/-- The character ends a sequence that was introduced by a bracket. -/
def endsSequence (char : Char) : Bool := '@' ≤ char && char ≤ '~'

/-- The characters up to and with the first one that ends a sequence. -/
def throughEnd (chars : List Char) : List Char :=
  chars.takeWhile (fun char => !endsSequence char) ++
    (chars.dropWhile fun char => !endsSequence char).take 1

/-- The key at the front of characters. An escape and a bracket begin a sequence that goes on to
the first character that ends it, up to eight characters in all; an escape and a capital O
take one more character. -/
def front : List Char → Key
  | '\x1b' :: '[' :: rest => ('\x1b' :: '[' :: throughEnd rest).take 8
  | '\x1b' :: 'O' :: rest => '\x1b' :: 'O' :: rest.take 1
  | char :: _ => [char]
  | [] => []

theorem isFinal_singleton (char : Char) : isFinal [char] = endsSequence char := by
  have atMost : (char < '~' ∨ char = '~') ↔ char ≤ '~' := Std.le_iff_lt_or_eq.symm
  rw [Bool.eq_iff_iff]
  simp [isFinal, endsSequence, atMost]

theorem throughEnd_cons (char : Char) (rest : List Char) :
    throughEnd (char :: rest) = char :: if endsSequence char then [] else throughEnd rest := by
  unfold throughEnd
  cases ends : endsSequence char with
  | true => simp [ends]
  | false => simp [ends]

/-- The keys of a single character each. -/
def singles (chars : List Char) : List Key := chars.map fun char => [char]

theorem singles_cons (char : Char) (rest : List Char) :
    singles (char :: rest) = [char] :: singles rest := rfl

@[simp] theorem flatten_singles (chars : List Char) : (singles chars).flatten = chars := by
  induction chars with
  | nil => rfl
  | cons char rest inductionHypothesis =>
    rw [singles_cons, List.flatten_cons, inductionHypothesis]
    rfl

/-- After an open introducer characters are taken up to the end of the sequence or the limit. -/
theorem gather_open_singles (group : List Key) (chars : List Char) :
    let taken := (throughEnd chars).take (Keys.longestSequence - group.flatten.length)
    gather openIntroducer group (singles chars) =
      (group ++ singles taken, singles (chars.drop taken.length)) := by
  induction chars generalizing group with
  | nil => simp [gather, singles, throughEnd]
  | cons char rest inductionHypothesis =>
    rw [singles_cons, gather, throughEnd_cons, isFinal_singleton]
    by_cases short : group.flatten.length < Keys.longestSequence
    · obtain ⟨room, left⟩ : ∃ room, Keys.longestSequence - group.flatten.length = room + 1 :=
        ⟨Keys.longestSequence - group.flatten.length - 1, by omega⟩
      rw [if_pos short, left, List.take_succ_cons]
      cases ends : endsSequence char with
      | true => simp [openIntroducer, shortIntroducer, singles]
      | false =>
        have next := inductionHypothesis (group ++ [[char]])
        have fewer : Keys.longestSequence - (group ++ [[char]]).flatten.length = room := by
          rw [List.flatten_append, List.length_append, List.flatten_singleton,
            List.length_singleton]
          omega
        rw [fewer] at next
        simpa [openIntroducer, shortIntroducer, singles_cons] using next
    · have none : Keys.longestSequence - group.flatten.length = 0 := by omega
      rw [if_neg short, none]
      simp [singles]

/-- After a short introducer one character is taken. -/
theorem gather_short_singles {group : List Key}
    (short : group.flatten.length < Keys.longestSequence)
    (chars : List Char) :
    gather shortIntroducer group (singles chars) =
      (group ++ singles (chars.take 1), singles (chars.drop 1)) := by
  cases chars with
  | nil => simp [gather, singles]
  | cons char rest =>
    rw [singles_cons, gather, if_pos short]
    rfl

/-- The leading group of single characters is the key at their front. -/
theorem leading_singles (char : Char) (rest : List Char) :
    leading [char] (singles rest) =
      (singles (front (char :: rest)),
        singles (rest.drop ((front (char :: rest)).length - 1))) := by
  unfold front
  split
  · rename_i later begins
    obtain ⟨rfl, rfl⟩ := List.cons.inj begins
    exact gather_open_singles [escape, openIntroducer] later
  · rename_i later begins
    obtain ⟨rfl, rfl⟩ := List.cons.inj begins
    have gathered := @gather_short_singles [escape, shortIntroducer] (by decide) later
    refine Eq.trans gathered ?_
    cases later <;> rfl
  · rename_i other others notOpen notShort same
    obtain ⟨rfl, rfl⟩ := List.cons.inj same
    cases rest with
    | nil => rfl
    | cons follower later =>
      refine (if_neg fun introduces => ?_).trans rfl
      simp only [escape, isIntroducer, openIntroducer, shortIntroducer, List.cons.injEq, and_true,
        Bool.and_eq_true, Bool.or_eq_true, decide_eq_true_eq] at introduces
      obtain ⟨rfl, rfl | rfl⟩ := introduces
      · exact notOpen later rfl rfl
      · exact notShort later rfl rfl
  · rename_i impossible
    cases impossible

/-- The group is a sequence that takes whatever comes next: it was introduced, it is not at the
limit, and no key after the introducer has ended it. -/
def IsOpen (group : List Key) : Prop :=
  ∃ introducer rest, group = escape :: introducer :: rest ∧ introducer.isIntroducer = true ∧
    (introducer = shortIntroducer → rest = []) ∧ (∀ key ∈ rest, key.isFinal = false) ∧
    group.flatten.length < Keys.longestSequence

/-- The last group of the pending keys is open. -/
def LeavesOpen (pending : List Key) : Prop := ∃ group ∈ (groups pending).getLast?, IsOpen group

theorem IsOpen.of_introduced {introducer : Key} (introduces : introducer.isIntroducer = true)
    {rest : List Key} (single : introducer = shortIntroducer → rest = [])
    (unended : ∀ key ∈ rest, key.isFinal = false) :
    IsOpen (escape :: introducer :: rest) ↔
      (escape :: introducer :: rest).flatten.length < Keys.longestSequence := by
  constructor
  · rintro ⟨_, _, _, _, _, _, short⟩
    exact short
  · exact fun short => ⟨introducer, rest, rfl, introduces, single, unended, short⟩

/-- An open group takes the escape key, and is at its end with it. -/
theorem gather_escape_of_open {introducer : Key} {group : List Key}
    (short : group.flatten.length < Keys.longestSequence) :
    gather introducer group [escape] = (group ++ [escape], []) := by
  rw [gather, if_pos short]
  split <;> rfl

/-- Gathering goes on into the escape key that follows the keys, or has come to its end before
it. -/
theorem gather_escape {introducer : Key} (introduces : introducer.isIntroducer = true)
    {rest : List Key} (single : introducer = shortIntroducer → rest = [])
    (unended : ∀ key ∈ rest, key.isFinal = false) (later : List Key) :
    let group := escape :: introducer :: rest
    let gathered := gather introducer group later
    (gathered.2 = [] ∧ IsOpen gathered.1 ∧
        gather introducer group (later ++ [escape]) = (gathered.1 ++ [escape], [])) ∨
      ((gathered.2 = [] → ¬IsOpen gathered.1) ∧
        gather introducer group (later ++ [escape]) = (gathered.1, gathered.2 ++ [escape])) := by
  induction later generalizing rest with
  | nil =>
    have opens := IsOpen.of_introduced introduces single unended
    by_cases short : (escape :: introducer :: rest).flatten.length < Keys.longestSequence
    · exact Or.inl ⟨rfl, opens.mpr short, gather_escape_of_open short⟩
    · refine Or.inr ⟨fun _ isOpen => short (opens.mp isOpen), ?_⟩
      exact if_neg short
  | cons key later inductionHypothesis =>
    intro group gathered
    by_cases short : group.flatten.length < Keys.longestSequence
    · by_cases ends : (introducer = shortIntroducer || key.isFinal) = true
      · have taken (more : List Key) : gather introducer group (key :: more) =
            (group ++ [key], more) := by
          rw [gather, if_pos short, if_pos ends]
        refine Or.inr ⟨fun _ isOpen => ?_, ?_⟩
        · -- The key that ends the sequence is none that an open group has.
          rw [show gathered.1 = group ++ [key] from congrArg Prod.fst (taken later)] at isOpen
          obtain ⟨_, _, shape, _, alone, others, _⟩ := isOpen
          obtain ⟨rfl, rfl⟩ := List.cons.inj (List.cons.inj shape).2
          rcases (by simpa using ends : introducer = shortIntroducer ∨ key.isFinal = true)
            with once | final
          · exact absurd (alone once) (by simp)
          · have unfinal := others key (by simp)
            rw [final] at unfinal
            cases unfinal
        · rw [show gathered = (group ++ [key], later) from taken later]
          exact taken (later ++ [escape])
      · have taken (more : List Key) : gather introducer group (key :: more) =
            gather introducer (escape :: introducer :: (rest ++ [key])) more := by
          rw [gather, if_pos short, if_neg ends]
          rfl
        simp only [Bool.or_eq_true, decide_eq_true_eq, not_or, Bool.not_eq_true] at ends
        have goesOn := @inductionHypothesis (rest ++ [key])
          (fun once => absurd once ends.1)
          (List.forall_mem_append.mpr ⟨unended, by simpa using ends.2⟩)
        rw [show gathered = _ from taken later, List.cons_append, taken]
        exact goesOn
    · have full (more : List Key) :
          gather introducer group (key :: more) = (group, key :: more) := by
        rw [gather, if_neg short]
      rw [show gathered = _ from full later, List.cons_append, full]
      exact Or.inr ⟨nofun, rfl⟩

theorem not_isOpen_singleton (key : Key) : ¬IsOpen [key] := by
  rintro ⟨_, _, shape, _⟩
  cases shape

/-- The leading group goes on into the escape key that follows the keys, or has come to its end
before it. -/
theorem leading_escape (key : Key) (rest : List Key) :
    ((leading key rest).2 = [] ∧ IsOpen (leading key rest).1 ∧
        leading key (rest ++ [escape]) = ((leading key rest).1 ++ [escape], [])) ∨
      (((leading key rest).2 = [] → ¬IsOpen (leading key rest).1) ∧
        leading key (rest ++ [escape]) =
          ((leading key rest).1, (leading key rest).2 ++ [escape])) := by
  cases rest with
  | nil =>
    refine Or.inr ⟨fun _ => not_isOpen_singleton key, ?_⟩
    exact if_neg (by simp [isIntroducer, escape, openIntroducer, shortIntroducer])
  | cons follower later =>
    by_cases introduced : (key = escape && follower.isIntroducer) = true
    · have begins (more : List Key) : leading key (follower :: more) =
          gather follower [key, follower] more := by
        rw [leading, if_pos introduced]
      rw [Bool.and_eq_true, decide_eq_true_eq] at introduced
      obtain ⟨rfl, introduces⟩ := introduced
      rw [List.cons_append, begins, begins]
      exact gather_escape introduces (fun _ => rfl) (by simp) later
    · have alone (more : List Key) : leading key (follower :: more) =
          ([key], follower :: more) := by
        rw [leading, if_neg introduced]
      rw [List.cons_append, alone, alone]
      exact Or.inr ⟨fun _ => not_isOpen_singleton key, rfl⟩

/-- The escape key that follows the pending keys is a group by itself, unless the last group of
those keys is open: that one takes it. -/
theorem groups_escape (pending : List Key) :
    (∃ front last, groups pending = front ++ [last] ∧ IsOpen last ∧
        groups (pending ++ [escape]) = front ++ [last ++ [escape]]) ∨
      (¬LeavesOpen pending ∧ groups (pending ++ [escape]) = groups pending ++ [[escape]]) := by
  fun_induction groups pending with
  | case1 => exact Or.inr ⟨by simp [LeavesOpen, groups_nil], groups_singleton escape⟩
  | case2 key rest inductionHypothesis =>
    rw [List.cons_append, groups_cons]
    rcases leading_escape key rest with ⟨empty, isOpen, goesOn⟩ | ⟨ended, stops⟩
    · rw [goesOn, empty, groups_nil]
      exact Or.inl ⟨[], _, rfl, isOpen, rfl⟩
    · rw [stops]
      rcases inductionHypothesis with ⟨front, last, shape, isOpen, joined⟩ | ⟨closed, own⟩
      · refine Or.inl ⟨(leading key rest).1 :: front, last, ?_, isOpen, ?_⟩
        · rw [shape]
          rfl
        · exact congrArg ((leading key rest).1 :: ·) joined
      · refine Or.inr ⟨?_, congrArg ((leading key rest).1 :: ·) own⟩
        rintro ⟨group, isLast, isOpen⟩
        rw [groups_cons] at isLast
        cases left : (leading key rest).2 with
        | nil =>
          rw [left, groups_nil, List.getLast?_singleton, Option.mem_some_iff] at isLast
          subst isLast
          exact ended left isOpen
        | cons follower later =>
          rw [left] at isLast closed
          rw [List.getLast?_cons_of_ne_nil (groups_ne_nil follower later)] at isLast
          exact closed ⟨group, isLast, isOpen⟩

/-- The escape key that marks the end of the input is read as a key of its own exactly when the
keys before it leave no sequence open. -/
theorem readAll_escape (pending : List Key) :
    readAll (pending ++ [escape]) = readAll pending ++ [escape] ↔ ¬LeavesOpen pending := by
  rcases groups_escape pending with ⟨front, last, shape, isOpen, joined⟩ | ⟨closed, own⟩
  · have opens : LeavesOpen pending := ⟨last, by rw [shape]; simp, isOpen⟩
    refine iff_of_false (fun same => ?_) (fun closed => closed opens)
    have counted := congrArg List.length same
    simp [readAll, joined, shape] at counted
  · refine iff_of_true ?_ closed
    rw [readAll, own, List.map_append]
    rfl

theorem length_of_isIntroducer {introducer : Key} (introduces : introducer.isIntroducer = true) :
    introducer.length = 1 := by
  simp only [isIntroducer, Bool.or_eq_true, decide_eq_true_eq] at introduces
  rcases introduces with rfl | rfl <;> rfl

theorem two_le_of_isOpen {group : List Key} (isOpen : IsOpen group) : 2 ≤ group.flatten.length := by
  obtain ⟨introducer, rest, rfl, introduces, _⟩ := isOpen
  simp only [List.flatten_cons, List.length_append, length_of_isIntroducer introduces, escape,
    List.length_singleton]
  omega

theorem isCancel_eq_false_of_long {key : Key} (long : 2 ≤ key.length) : key.isCancel = false := by
  match key, long with
  | first :: second :: rest, _ => simp [isCancel, escape, interrupt]

/-- A key that cancels is read when the input ends, unless the keys before leave a sequence open
and none of them is read as one. -/
theorem any_isCancel_escape (pending : List Key) :
    (readAll (pending ++ [escape])).any isCancel = true ↔
      ¬LeavesOpen pending ∨ (readAll pending).any isCancel = true := by
  rcases groups_escape pending with ⟨front, last, shape, isOpen, joined⟩ | ⟨closed, own⟩
  · have opens : LeavesOpen pending := ⟨last, by rw [shape]; simp, isOpen⟩
    have long := two_le_of_isOpen isOpen
    have other : isCancel last.flatten = false := isCancel_eq_false_of_long long
    have goesOn : isCancel (last.flatten ++ escape) = false :=
      isCancel_eq_false_of_long (by rw [List.length_append]; omega)
    rw [or_iff_right (fun closed => closed opens), readAll, readAll, joined, shape]
    simp [other, goesOn]
  · have cancels : escape.isCancel = true := rfl
    rw [or_iff_left_of_imp (fun _ => closed), iff_true_right closed, readAll, own]
    simp [cancels]

end Key

end KeyFeed
