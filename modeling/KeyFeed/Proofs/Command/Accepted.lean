/-
This file says what an accepted command line guarantees of the options. What holds of an empty
draft, and stays true with each value and each switch that is taken, holds of the draft that
the options are made of. The encoding of the sender, unless it is a blank, is one that can be
looked up: the name is looked up when it is read, and nothing else that is read touches it.
-/

import KeyFeed.Command.Arguments
import KeyFeed.Proofs.Typing.Causes

namespace KeyFeed.Command

section Fold

variable {State Item Refusal : Type} {step : State → Item → Except Refusal State}

/-- What every step keeps holds after all steps. -/
theorem foldlM_keeps (holds : State → Prop)
    (keeps : ∀ state item next, step state item = .ok next → holds state → holds next)
    {items : List Item} {state last : State} (folded : items.foldlM step state = .ok last)
    (begins : holds state) : holds last := by
  induction items generalizing state with
  | nil =>
    cases folded
    exact begins
  | cons item rest inductionHypothesis =>
    rw [List.foldlM_cons] at folded
    cases taken : step state item with
    | error refusal =>
      rw [taken] at folded
      cases folded
    | ok next =>
      rw [taken] at folded
      exact inductionHypothesis folded (keeps state item next taken begins)

end Fold

theorem ok_of_map {First Second Refusal : Type} {outcome : Except Refusal First}
    {convert : First → Second} {result : Second} (mapped : outcome.map convert = .ok result) :
    ∃ first, outcome = .ok first ∧ convert first = result := by
  cases outcome with
  | error refusal => cases mapped
  | ok first =>
    cases mapped
    exact ⟨first, rfl, rfl⟩

theorem ok_of_bind {First Second Refusal : Type} {outcome : Except Refusal First}
    {next : First → Except Refusal Second} {result : Second}
    (bound : outcome.bind next = .ok result) :
    ∃ first, outcome = .ok first ∧ next first = .ok result := by
  cases outcome with
  | error refusal => cases bound
  | ok first => exact ⟨first, rfl, bound⟩

/-! ### What reading keeps -/

namespace Draft

/-- What holds of a draft stays true with everything that is taken for it. -/
structure Kept (holds : Draft → Prop) : Prop where
  fill : ∀ draft slot given next, draft.fill slot given = .ok next → holds draft → holds next
  turn : ∀ draft switch given next, draft.turn switch given = .ok next → holds draft → holds next
  turnOn : ∀ draft switch, holds draft → holds (draft.turnOn switch)

/-- The places of a command line have nothing to do with what the switches give. -/
theorem fill_eq {draft next : Draft} {slot : Slot} {given : Given String}
    (filled : draft.fill slot given = .ok next) :
    next.charDelay = draft.charDelay ∧ next.readTimeout = draft.readTimeout ∧
      next.encoding = draft.encoding := by
  cases slot with
  | port | file | again =>
    cases filled
    exact ⟨rfl, rfl, rfl⟩
  | baud | dataBits | parity | stopBits | handshake =>
    obtain ⟨value, _, rfl⟩ := ok_of_map filled
    exact ⟨rfl, rfl, rfl⟩

/-- The switches without a value have nothing to do with what the others give. -/
theorem turnOn_eq (draft : Draft) (switch : Switch) :
    (draft.turnOn switch).charDelay = draft.charDelay ∧
      (draft.turnOn switch).readTimeout = draft.readTimeout ∧
      (draft.turnOn switch).encoding = draft.encoding := by
  cases switch <;> exact ⟨rfl, rfl, rfl⟩

end Draft

namespace Reading

section Kept

variable {holds : Draft → Prop} {reading next : Reading} {switch : Switch} {text : String}

theorem takeValue_keeps (kept : Draft.Kept holds) {separated : Bool}
    (taken : reading.takeValue text separated = .ok next) (before : holds reading.draft) :
    holds next.draft := by
  unfold takeValue at taken
  cases slots : reading.slots with
  | nil =>
    rw [slots] at taken
    cases taken
    exact before
  | cons slot rest =>
    rw [slots] at taken
    dsimp only at taken
    cases filled : reading.draft.fill slot (given text separated) with
    | error refusal =>
      rw [filled] at taken
      cases taken
    | ok draft =>
      rw [filled] at taken
      cases taken
      exact kept.fill _ _ _ _ filled before

theorem turn_keeps (kept : Draft.Kept holds) (taken : reading.turn switch text = .ok next)
    (before : holds reading.draft) : holds next.draft := by
  unfold turn at taken
  cases turned : reading.draft.turn switch (given text false) with
  | error refusal =>
    rw [turned] at taken
    cases taken
  | ok draft =>
    rw [turned] at taken
    cases taken
    exact kept.turn _ _ _ _ turned before

theorem turnOn_keeps (kept : Draft.Kept holds) (taken : reading.turnOn switch = .ok next)
    (before : holds reading.draft) : holds next.draft := by
  unfold turnOn at taken
  split at taken
  · cases taken
  · cases taken
    exact kept.turnOn _ _ before

/-- Reading one more argument keeps what holds of the draft. -/
theorem step_keeps (kept : Draft.Kept holds) {argument : Argument}
    (taken : reading.step argument = .ok next) (before : holds reading.draft) :
    holds next.draft := by
  unfold step at taken
  split at taken
  · exact turn_keeps kept taken before
  · cases taken
  · exact takeValue_keeps kept taken before
  · exact takeValue_keeps kept taken before
  · cases taken
    exact before
  · cases taken
    exact before
  · cases taken
    exact before
  · dsimp only at taken
    split at taken
    · split at taken
      · exact turn_keeps kept taken before
      · cases taken
        exact before
    · obtain ⟨all, _, turned⟩ := ok_of_bind taken
      exact foldlM_keeps (fun reading => holds reading.draft)
        (fun _ _ _ => turnOn_keeps kept) turned before

end Kept

end Reading

theorem complete?_eq {draft : Draft} {options : Options}
    (completed : draft.complete? = some options) :
    options.sender = { encoding := draft.encoding, pacing := { perCharacter := draft.charDelay } } ∧
      options.readTimeout = draft.readTimeout := by
  unfold Draft.complete? at completed
  simp only [Option.bind_eq_bind, Option.bind_eq_some_iff, Option.pure_def,
    Option.some.injEq] at completed
  obtain ⟨_, _, _, _, _, _, _, _, _, _, _, _, rfl⟩ := completed
  exact ⟨rfl, rfl⟩

/-- A command line that is accepted is read to its end, and its draft is complete. -/
theorem readArguments_eq_ok {arguments : List String} {options : Options}
    (accepted : readArguments arguments = .ok options) :
    ∃ classified reading, Argument.classifyAll arguments = .ok classified ∧
      classified.foldlM Reading.step .fresh = .ok reading ∧
      reading.draft.complete? = some options := by
  unfold readArguments at accepted
  cases classified : Argument.classifyAll arguments with
  | error ambiguity =>
    rw [classified] at accepted
    cases accepted
  | ok all =>
    rw [classified] at accepted
    obtain ⟨reading, folded, finished⟩ := ok_of_bind accepted
    refine ⟨all, reading, rfl, folded, ?_⟩
    unfold Reading.finish at finished
    split at finished
    · cases finished
    · split at finished
      · cases finished
      · rename_i completed _
        cases finished
        exact completed
      · cases finished

/-- The options of an accepted command line are made of a draft that has what reading keeps. -/
theorem readArguments_keeps {holds : Draft → Prop} (kept : Draft.Kept holds) (begins : holds {})
    {arguments : List String} {options : Options}
    (accepted : readArguments arguments = .ok options) :
    ∃ draft : Draft, draft.complete? = some options ∧ holds draft := by
  obtain ⟨classified, reading, _, folded, completed⟩ := readArguments_eq_ok accepted
  exact ⟨reading.draft, completed, foldlM_keeps (fun reading => holds reading.draft)
    (fun _ _ _ => Reading.step_keeps kept) folded begins⟩

/-! ### The encoding -/

theorem encodable_of_read {given encoding : Given String}
    (read : given.read readEncoding = .ok encoding) : Encodable encoding := by
  intro name named
  subst named
  cases given with
  | blank => cases read
  | value text =>
    cases found : Charset.find text with
    | ok charset =>
      have accepted : readEncoding text = .ok text := by rw [readEncoding, found]
      rw [Given.read, accepted] at read
      cases read
      exact ⟨charset, found⟩
    | error refusal =>
      have refused : readEncoding text = .error (.encoding refusal) := by rw [readEncoding, found]
      rw [Given.read, refused] at read
      cases read

theorem Draft.encodable_kept : Draft.Kept fun draft => Encodable draft.encoding where
  fill draft slot given next filled encodable := by
    rw [(fill_eq filled).2.2]
    exact encodable
  turn draft switch given next turned encodable := by
    cases switch with
    | help | noInteractive | verbose =>
      cases turned
      exact encodable
    | charDelay | readTimeout =>
      obtain ⟨seconds, _, rfl⟩ := ok_of_map turned
      exact encodable
    | encoding =>
      obtain ⟨name, read, rfl⟩ := ok_of_map turned
      exact encodable_of_read read
  turnOn draft switch encodable := by
    rw [(draft.turnOn_eq switch).2.2]
    exact encodable

/-- The encoding of an accepted command line, unless it is a blank, can be looked up. -/
theorem readArguments_encodable {arguments : List String} {options : Options}
    (accepted : readArguments arguments = .ok options) : Encodable options.sender.encoding := by
  have begins : Encodable ({} : Draft).encoding := by
    intro name named
    cases named
    exact ⟨.ascii, rfl⟩
  obtain ⟨draft, completed, encodable⟩ :=
    readArguments_keeps Draft.encodable_kept begins accepted
  rw [(complete?_eq completed).1]
  exact encodable

end KeyFeed.Command
