/-
This file says that the check of an encoding's name agrees with its use. A name that is
accepted is found again for every text that is sent, and then gives bytes for it. Any other
name ends the run when the command line is read, before the script is loaded and the port is
asked for. What is asked of the argument parser is that it hands over the text that is
attached to the switch; a name that it drops is never checked.
-/

import KeyFeed.Proofs.Charset.Naming
import KeyFeed.Proofs.Command.Accepted
import KeyFeed.Proofs.Command.Beginning
import KeyFeed.Proofs.Link.Listing
import KeyFeed.Proofs.Typing.Encodings

namespace KeyFeed.Command

open KeyFeed.Run KeyFeed.Script

/-! ### A value behind its switch -/

namespace Argument

theorem splitEquals_append {front : List Char} (absent : '=' ∉ front) (text : List Char) :
    splitEquals (front ++ '=' :: text) = some (front, text) := by
  induction front with
  | nil => rfl
  | cons char rest inductionHypothesis =>
    obtain ⟨other, others⟩ : char ≠ '=' ∧ '=' ∉ rest := by
      simpa [eq_comm] using absent
    rw [List.cons_append, splitEquals, if_neg other, inductionHypothesis others]
    rfl

/-- A spelling begins with a minus sign, has more than that, holds no equals sign, and is that of
one switch. -/
theorem spellings_proper :
    ∀ entry ∈ Switch.spellings, entry.1.toList.head? = some '-' ∧ 1 < entry.1.toList.length ∧
      '=' ∉ entry.1.toList ∧ Switch.ofSpelling? entry.1.toList = some entry.2 := by
  decide

/-- Every text can be given as the value of a switch, behind an equals sign. -/
theorem classify_attached {spelling : String} {switch : Switch}
    (member : (spelling, switch) ∈ Switch.spellings) (text : String) :
    classify (spelling ++ "=" ++ text) =
      .ok (.switch switch (!isLong spelling.toList) (some text.toList)) := by
  obtain ⟨begins, long, absent, found⟩ := spellings_proper (spelling, switch) member
  have chars : (spelling ++ "=" ++ text).toList = spelling.toList ++ '=' :: text.toList := by
    simp [String.toList_append]
  have notSpelled : Switch.ofSpelling? (spelling.toList ++ '=' :: text.toList) = none := by
    refine List.lookup_eq_none_iff.mpr fun entry among => ?_
    refine bne_iff_ne.mpr fun same => ?_
    obtain ⟨_, _, absentToo, _⟩ := spellings_proper entry among
    rw [← same] at absentToo
    simp at absentToo
  unfold classify
  dsimp only
  rw [chars, if_neg]
  · unfold spelledOut?
    rw [notSpelled]
    dsimp only
    rw [splitEquals_append absent]
    simp [found]
  · rw [List.head?_append, begins, List.length_append]
    simp only [List.length_cons]
    rintro (impossible | short)
    · exact impossible rfl
    · dsimp only at long
      omega

end Argument

/-- The arguments give the name as that of the encoding: behind an equals sign, or as the argument
after the switch. -/
inductive GivesEncoding : List Argument → String → Prop where
  | attached (isShort : Bool) (name : String) :
      GivesEncoding [.switch .encoding isShort (some name.toList)] name
  | apart (isShort : Bool) (name : String) :
      GivesEncoding [.switch .encoding isShort none, .value name] name

/-! ### What is handed over -/

/-- A text comes to the check of its switch as it stands. -/
def Handed (text : String) : Prop := Reading.given text false = .value text

/-- The argument parser hands over what a command line attaches to the switch for the encoding. By
its documentation it always does; release 3.11.2 does so for every text but the separator, and
later releases for every text. -/
def HandsOver (arguments : List String) : Prop :=
  ∀ classified, Argument.classifyAll arguments = .ok classified →
    ∀ isShort attached, .switch .encoding isShort (some attached) ∈ classified →
      Handed (String.ofList attached)

theorem handed_iff {text : String} : Handed text ↔ text ≠ Argument.separatorText := by
  unfold Handed Reading.given
  by_cases separator : text = Argument.separatorText <;> simp [separator]

namespace Argument

theorem spelledOut?_eq_some {text : List Char} {argument : Argument}
    (spelled : spelledOut? text = some argument) :
    ∃ switch isShort attached, argument = .switch switch isShort attached := by
  unfold spelledOut? at spelled
  split at spelled
  · cases spelled
    exact ⟨_, _, _, rfl⟩
  · obtain ⟨_, _, rest⟩ := Option.bind_eq_some_iff.mp spelled
    obtain ⟨_, _, made⟩ := Option.bind_eq_some_iff.mp rest
    cases made
    exact ⟨_, _, _, rfl⟩

theorem readings_switch {text : List Char} {reading : String × Argument}
    (member : reading ∈ readings text) :
    ∃ switch isShort attached, reading.2 = .switch switch isShort attached := by
  unfold readings at member
  dsimp only at member
  split at member
  · obtain ⟨entry, _, rfl⟩ := List.mem_map.mp member
    exact ⟨_, _, _, rfl⟩
  split at member
  · cases member
  · obtain rfl := List.mem_singleton.mp member
    exact ⟨_, _, _, rfl⟩

/-- Before any separator a text is a value as it stands, a switch, or unknown. -/
theorem classify_cases {text : String} {argument : Argument}
    (classified : classify text = .ok argument) :
    argument = .value text ∨ argument = .unknown text ∨
      ∃ switch isShort attached, argument = .switch switch isShort attached := by
  unfold classify at classified
  dsimp only at classified
  split at classified
  · cases classified
    exact Or.inl rfl
  split at classified
  · rename_i spelled
    cases classified
    exact Or.inr (Or.inr (spelledOut?_eq_some spelled))
  split at classified
  · rename_i only
    cases classified
    exact Or.inr (Or.inr (readings_switch (only ▸ List.mem_singleton_self _)))
  · split at classified
    · cases classified
      exact Or.inl rfl
    · cases classified
      exact Or.inr (Or.inl rfl)
  · cases classified

/-- The first of the arguments is the separator, and values follow, or it is classified by
itself. -/
theorem classifyAll_cons {text : String} {rest : List String} {classified : List Argument}
    (all : classifyAll (text :: rest) = .ok classified) :
    text = separatorText ∧ classified = .separator :: rest.map .value ∨
      text ≠ separatorText ∧ ∃ argument others, classify text = .ok argument ∧
        classifyAll rest = .ok others ∧ classified = argument :: others := by
  rw [classifyAll] at all
  split at all
  · rename_i same
    cases all
    exact Or.inl ⟨same, rfl⟩
  · rename_i other
    obtain ⟨argument, first, more⟩ := ok_of_bind all
    obtain ⟨others, later, made⟩ := ok_of_bind more
    cases made
    exact Or.inr ⟨other, argument, others, first, later, rfl⟩

/-- The separator is no value of a switch before it. -/
theorem ne_separator_of_apart {arguments : List String} {before after : List Argument}
    {switch : Switch} {isShort : Bool} {attached : Option (List Char)} {text : String}
    (classified : classifyAll arguments =
      .ok (before ++ .switch switch isShort attached :: .value text :: after)) :
    text ≠ separatorText := by
  induction before generalizing arguments with
  | nil =>
    cases arguments with
    | nil => cases classified
    | cons first rest =>
      rcases classifyAll_cons classified with ⟨_, impossible⟩ | ⟨_, _, _, _, later, shape⟩
      · cases impossible
      cases shape
      cases rest with
      | nil => cases later
      | cons second rest =>
        rcases classifyAll_cons later with ⟨_, impossible⟩ | ⟨other, argument, _, named, _, shape⟩
        · cases impossible
        cases shape
        rcases classify_cases named with same | unknown | ⟨_, _, _, impossible⟩
        · cases same
          exact other
        · cases unknown
        · cases impossible
  | cons earlier before inductionHypothesis =>
    cases arguments with
    | nil => cases classified
    | cons first rest =>
      rcases classifyAll_cons classified with ⟨_, values⟩ | ⟨_, _, _, _, later, shape⟩
      · have member : Argument.switch switch isShort attached ∈ rest.map Argument.value := by
          rw [← (List.cons.inj values).2]
          simp
        obtain ⟨_, _, impossible⟩ := List.mem_map.mp member
        cases impossible
      · rw [List.cons_append, List.cons.injEq] at shape
        rw [← shape.2] at later
        exact inductionHypothesis later

end Argument

/-! ### Reading -/

theorem readEncoding_eq_ok_iff {name : String} :
    readEncoding name = .ok name ↔ ∃ charset, Charset.find name = .ok charset := by
  unfold readEncoding
  cases Charset.find name <;> simp

namespace Reading

/-- No switch waits for its value. -/
def Free (reading : Reading) : Prop := ∀ switch, reading.expects ≠ .valueOf switch

/-- A switch is no value for the one before it. -/
theorem step_of_awaited {reading : Reading} {awaited : Switch}
    (awaits : reading.expects = .valueOf awaited) (switch : Switch) (isShort : Bool)
    (attached : Option (List Char)) :
    reading.step (.switch switch isShort attached) =
      .error (.refused (.badValue awaited.title .absent)) := by
  unfold step
  rw [awaits]

theorem step_attached {reading : Reading} (free : reading.Free)
    (isShort : Bool) (name : String) :
    reading.step (.switch .encoding isShort (some name.toList)) =
      reading.endRun.turn .encoding name := by
  unfold step
  cases expects : reading.expects with
  | valueOf switch => exact absurd expects (free switch)
  | _ => exact congrArg (reading.endRun.turn .encoding) String.ofList_toList

theorem step_apart {reading : Reading} (free : reading.Free)
    (isShort : Bool) (name : String) :
    (do
        let next ← reading.step (.switch .encoding isShort none)
        next.step (.value name)) =
      { reading.endRun with expects := .valueOf .encoding }.turn .encoding name := by
  have awaits : reading.step (.switch .encoding isShort none) =
      .ok { reading.endRun with expects := .valueOf .encoding } := by
    unfold step
    cases expects : reading.expects with
    | valueOf switch => exact absurd expects (free switch)
    | _ => rfl
  rw [awaits]
  rfl

theorem turn_encoding_of_unknown {reading : Reading} {name : String}
    {refusal : EncodingRefusal} (handed : Handed name)
    (unknown : Charset.find name = .error refusal) :
    reading.turn .encoding name =
      .error (.refused (.badValue Switch.encoding.title (.encoding refusal))) := by
  unfold turn
  rw [show given name false = .value name from handed, Draft.turn, Given.read, readEncoding,
    unknown]
  rfl

/-- A bad name for the encoding is refused as soon as it is met, unless another switch waits for its
value. -/
theorem foldlM_of_badEncoding {arguments : List Argument} {name : String}
    {refusal : EncodingRefusal} (gives : GivesEncoding arguments name)
    (handed : Handed name) (unknown : Charset.find name = .error refusal) (reading : Reading) :
    ∃ error, arguments.foldlM step reading = .error (.refused error) ∧
      (reading.Free → error = .badValue Switch.encoding.title (.encoding refusal)) := by
  by_cases free : reading.Free
  · refine ⟨_, ?_, fun _ => rfl⟩
    cases gives with
    | attached isShort name =>
      rw [List.foldlM_cons, step_attached free, turn_encoding_of_unknown handed unknown]
      rfl
    | apart isShort name =>
      have refused := step_apart free isShort name
      rw [turn_encoding_of_unknown handed unknown] at refused
      simp only [List.foldlM_cons, List.foldlM_nil, bind_pure]
      exact refused
  · obtain ⟨awaited, awaits⟩ := not_forall_not.mp free
    refine ⟨.badValue awaited.title .absent, ?_, fun waits => absurd waits free⟩
    cases gives with
    | attached isShort name =>
      rw [List.foldlM_cons, step_of_awaited awaits]
      rfl
    | apart isShort name =>
      rw [List.foldlM_cons, step_of_awaited awaits]
      rfl

end Reading

/-! ### An accepted name -/

namespace Reading

/-- The encoding is given by a name. -/
def Named (reading : Reading) : Prop := ∃ name, reading.draft.encoding = .value name

variable {reading next : Reading}

theorem Named.of_eq (same : next.draft.encoding = reading.draft.encoding)
    (named : reading.Named) : next.Named := by
  obtain ⟨name, given⟩ := named
  exact ⟨name, same.trans given⟩

theorem turn_named {switch : Switch} {text : String} (handed : switch = .encoding → Handed text)
    (taken : reading.turn switch text = .ok next) (named : reading.Named) : next.Named := by
  unfold turn at taken
  cases turned : reading.draft.turn switch (given text false) with
  | error refusal =>
    rw [turned] at taken
    cases taken
  | ok draft =>
    rw [turned] at taken
    cases taken
    cases switch with
    | help | noInteractive | verbose =>
      cases turned
      exact named
    | charDelay | readTimeout =>
      obtain ⟨seconds, _, rfl⟩ := ok_of_map turned
      exact named
    | encoding =>
      rw [show given text false = .value text from handed rfl] at turned
      obtain ⟨encoding, read, rfl⟩ := ok_of_map turned
      obtain ⟨name, _, rfl⟩ := ok_of_map read
      exact ⟨name, rfl⟩

theorem takeValue_encoding {text : String} {separated : Bool}
    (taken : reading.takeValue text separated = .ok next) :
    next.draft.encoding = reading.draft.encoding ∧ next.Free := by
  unfold takeValue at taken
  split at taken
  · cases taken
    exact ⟨rfl, nofun⟩
  · split at taken
    · cases taken
    · rename_i filled
      cases taken
      exact ⟨(Draft.fill_eq filled).2.2, nofun⟩

theorem turnOn_encoding {switch : Switch} (taken : reading.turnOn switch = .ok next) :
    next.draft.encoding = reading.draft.encoding := by
  unfold turnOn at taken
  split at taken
  · cases taken
  · cases taken
    exact (reading.draft.turnOn_eq switch).2.2

/-- An argument whose text is handed over leaves a name for the encoding. -/
theorem step_named {argument : Argument}
    (value : ∀ text, argument = .value text → Handed text)
    (behind : ∀ isShort attached, argument = .switch .encoding isShort (some attached) →
      Handed (String.ofList attached))
    (taken : reading.step argument = .ok next) (named : reading.Named) : next.Named := by
  unfold step at taken
  split at taken
  · exact turn_named (fun _ => value _ rfl) taken named
  · cases taken
  · exact named.of_eq (takeValue_encoding taken).1
  · exact named.of_eq (takeValue_encoding taken).1
  · cases taken
    exact named
  · cases taken
    exact named
  · cases taken
    exact named
  · dsimp only at taken
    split at taken
    · split at taken
      · refine turn_named ?_ taken named
        rintro rfl
        exact behind _ _ rfl
      · cases taken
        exact named
    · obtain ⟨all, _, turned⟩ := ok_of_bind taken
      exact foldlM_keeps Named (fun _ _ _ on before => before.of_eq (turnOn_encoding on)) turned
        named

/-- Values have nothing to do with the encoding where no switch waits for one. -/
theorem foldlM_values {texts : List String} (free : reading.Free)
    (folded : (texts.map .value).foldlM step reading = .ok next) :
    next.draft.encoding = reading.draft.encoding := by
  induction texts generalizing reading with
  | nil =>
    cases folded
    rfl
  | cons text rest inductionHypothesis =>
    obtain ⟨middle, taken, later⟩ := ok_of_bind folded
    obtain ⟨separated, fills⟩ : ∃ separated, reading.takeValue text separated = .ok middle := by
      unfold step at taken
      cases expects : reading.expects with
      | valueOf switch => exact absurd expects (free switch)
      | _ =>
        rw [expects] at taken
        exact ⟨_, taken⟩
    obtain ⟨same, freeToo⟩ := takeValue_encoding fills
    exact (inductionHypothesis freeToo later).trans same

/-- The arguments of a command line whose attached texts are handed over leave a name for the
encoding. Behind the separator no switch waits for a value. -/
theorem foldlM_named {arguments : List String} {classified : List Argument}
    (all : Argument.classifyAll arguments = .ok classified)
    (hands : ∀ isShort attached, .switch .encoding isShort (some attached) ∈ classified →
      Handed (String.ofList attached))
    (folded : classified.foldlM step reading = .ok next) (named : reading.Named) :
    next.Named := by
  induction arguments generalizing classified reading with
  | nil =>
    cases all
    cases folded
    exact named
  | cons text rest inductionHypothesis =>
    rcases Argument.classifyAll_cons all with
      ⟨_, rfl⟩ | ⟨other, argument, others, first, more, rfl⟩
    · obtain ⟨middle, taken, later⟩ := ok_of_bind folded
      obtain ⟨same, free⟩ :
          middle.draft.encoding = reading.draft.encoding ∧ middle.Free := by
        unfold step at taken
        cases expects : reading.expects <;> rw [expects] at taken <;> cases taken <;>
          exact ⟨rfl, nofun⟩
      exact named.of_eq ((foldlM_values free later).trans same)
    · obtain ⟨middle, taken, later⟩ := ok_of_bind folded
      refine inductionHypothesis more
        (fun isShort attached member => hands _ _ (List.mem_cons_of_mem _ member)) later ?_
      refine step_named ?_ ?_ taken named
      · rintro given rfl
        rcases Argument.classify_cases first with same | unknown | ⟨_, _, _, impossible⟩
        · cases same
          exact handed_iff.mpr other
        · cases unknown
        · cases impossible
      · rintro isShort attached rfl
        exact hands _ _ List.mem_cons_self

end Reading

/-- The options of an accepted command line give the encoding by a name. -/
theorem readArguments_named {arguments : List String} {options : Options}
    (hands : HandsOver arguments) (accepted : readArguments arguments = .ok options) :
    ∃ name, options.sender.encoding = .value name := by
  obtain ⟨classified, reading, all, folded, completed⟩ := readArguments_eq_ok accepted
  obtain ⟨name, named⟩ := Reading.foldlM_named all (hands classified all) folded ⟨_, rfl⟩
  rw [(complete?_eq completed).1]
  exact ⟨name, named⟩

/-- A name that is given for the encoding comes to its check. -/
theorem handed_of_given {arguments : List String} {before given after : List Argument}
    {name : String} (classified : Argument.classifyAll arguments = .ok (before ++ given ++ after))
    (gives : GivesEncoding given name)
    (hands : ∀ isShort attached,
      .switch .encoding isShort (some attached) ∈ before ++ given ++ after →
        Handed (String.ofList attached)) : Handed name := by
  cases gives with
  | attached isShort name =>
    rw [← String.ofList_toList (s := name)]
    exact hands isShort name.toList (by simp)
  | apart isShort name =>
    rw [List.append_assoc] at classified
    exact handed_iff.mpr (Argument.ne_separator_of_apart classified)

/-- A command line with a bad name for the encoding is refused, unless the help text is asked for
before the name is met. -/
theorem readArguments_of_badEncoding {arguments : List String} {before given after : List Argument}
    {name : String} {refusal : EncodingRefusal}
    (classified : Argument.classifyAll arguments = .ok (before ++ given ++ after))
    (gives : GivesEncoding given name) (handed : Handed name)
    (unknown : Charset.find name = .error refusal) :
    before.foldlM Reading.step .fresh = .error .help ∧ readArguments arguments = .error .help ∨
      ∃ error, readArguments arguments = .error (.refused error) ∧
        ∀ reading, before.foldlM Reading.step .fresh = .ok reading → reading.Free →
          error = .badValue Switch.encoding.title (.encoding refusal) := by
  have reads : readArguments arguments =
      (before.foldlM Reading.step .fresh >>= fun reading =>
        given.foldlM Reading.step reading >>= fun next =>
          after.foldlM Reading.step next).bind Reading.finish := by
    unfold readArguments
    rw [classified]
    dsimp only
    rw [List.append_assoc, List.foldlM_append]
    simp only [List.foldlM_append]
  cases earlier : before.foldlM Reading.step .fresh with
  | error stop =>
    rw [earlier] at reads
    cases stop with
    | help => exact Or.inl ⟨rfl, reads⟩
    | refused error => exact Or.inr ⟨error, reads, by intro reading impossible; cases impossible⟩
  | ok reading =>
    obtain ⟨error, refused, exactly⟩ := Reading.foldlM_of_badEncoding gives handed unknown reading
    refine Or.inr ⟨error, ?_, ?_⟩
    · rw [reads, earlier]
      show ((given.foldlM Reading.step reading >>= _).bind Reading.finish) = _
      rw [refused]
      rfl
    · intro other same free
      cases same
      exact exactly free

/-! ### The run -/

/-- A run whose command line is refused reports why. It does not look at the files, and nothing is
asked of the port and the console. -/
theorem run_of_badCommand {arguments : List String} {plan : Plan} {error : UsageError}
    (finalArrivals : List Arrival) (batches : List (List Keystroke))
    (lists : ∀ failure, plan.ports = .error failure → failure.isSystem = true)
    (given : arguments ≠ []) (refused : readArguments arguments = .error (.refused error)) :
    ∃ final, (∀ opening, run opening arguments (start plan finalArrivals batches) =
        (.ok .usage, final)) ∧
      (start plan finalArrivals batches).Notes final ∧
      Event.only Event.isReport final.events = [.reported error.report] := by
  obtain ⟨next, listed, unreported⟩ :=
    Link.findPorts_of_listing (start plan finalArrivals batches) lists
  have notes : (start plan finalArrivals batches).Notes next := by
    have led := findPorts_notes (start plan finalArrivals batches)
    rwa [listed] at led
  refine ⟨{ next with events := next.events.push (.reported error.report) }, fun opening => ?_,
    IsTrans.trans _ _ _ notes (.push rfl next), ?_⟩
  · unfold run
    rw [bind_of_ok listed, if_neg (by simpa using given),
      bind_of_ok (readOptions_of_refused refused _ next)]
    rfl
  · rw [Event.only_push_of_sort rfl, unreported.reports]
    rfl

/-- The names under which an encoding is found are those that spell one of its names, in any case
and with anything else between the words; these names, and no others, are accepted, as they are
given. Whatever is sent in such an encoding has its bytes: neither a line nor a key nor a script
fails for want of them, unless the surroundings themselves fail in that way. Every command line
that is accepted gives such a name. Any other name behind the switch ends the run with a report
and the status for usage, whatever the files hold and before anything is asked of the port,
unless the help text is asked for before. The argument parser has to hand over what is attached to
the switch, and listing the ports must not fail in another way than the system does. -/
theorem encoding_agrees (arguments : List String) (hands : HandsOver arguments) (plan : Plan)
    (finalArrivals : List Arrival) (batches : List (List Keystroke))
    (lists : ∀ failure, plan.ports = .error failure → failure.isSystem = true) :
    let first := start plan finalArrivals batches
    (∀ name charset, Charset.find name = .ok charset ↔
        '\x00' ∉ name.toList ∧
          Charset.Denotes (Charset.spelled name.toList) (.text charset)) ∧
      (∀ name, readEncoding name = .ok name ↔ ∃ charset, Charset.find name = .ok charset) ∧
      (∀ (sender : Sender) name charset, sender.encoding = .value name →
        Charset.find name = .ok charset →
        (∀ text, sender.bytes text = .ok (charset.encode text)) ∧
          ∀ rig : Rig, (∀ fault ∈ rig.plan.faults, fault.failure.isNaming = false) →
            ∀ failure, failure.isNaming = true →
              (∀ line, (sender.sendLine line rig).1 ≠ .error failure) ∧
                (∀ key, (sender.sendKey key rig).1 ≠ .error failure) ∧
                ∀ notice text again,
                  (sender.sendScript notice text again rig).1 ≠ .error failure) ∧
      (∀ options, readArguments arguments = .ok options →
        ∃ name charset, options.sender.encoding = .value name ∧
          Charset.find name = .ok charset) ∧
      (∀ name, Argument.classify ("--encoding" ++ "=" ++ name) =
        .ok (.switch .encoding false (some name.toList))) ∧
      ∀ before given after name,
        Argument.classifyAll arguments = .ok (before ++ given ++ after) →
        GivesEncoding given name → (∀ charset, Charset.find name ≠ .ok charset) →
        before.foldlM Reading.step .fresh = .error .help ∧
            readArguments arguments = .error .help ∨
          ∃ error final, readArguments arguments = .error (.refused error) ∧
            (∀ reading, before.foldlM Reading.step .fresh = .ok reading → reading.Free →
              ∃ refusal, Charset.find name = .error refusal ∧
                error = .badValue Switch.encoding.title (.encoding refusal)) ∧
            (∀ opening, run opening arguments first = (.ok .usage, final)) ∧
            first.Notes final ∧
            Event.only Event.isReport final.events = [.reported error.report] := by
  intro first
  refine ⟨fun _ _ => Charset.find_eq_ok_iff, fun _ => readEncoding_eq_ok_iff, ?_, ?_, ?_, ?_⟩
  · intro sender name charset named known
    refine ⟨Session.bytes_of_known named known, fun rig unplanned failure naming => ⟨?_, ?_, ?_⟩⟩
    · intro line failed
      rw [Sender.sendLine_isNaming named known unplanned failed] at naming
      cases naming
    · intro key failed
      rw [Sender.sendKey_isNaming named known unplanned failed] at naming
      cases naming
    · intro notice text again failed
      rw [Sender.sendScript_isNaming named known unplanned failed] at naming
      cases naming
  · intro options accepted
    obtain ⟨name, named⟩ := readArguments_named hands accepted
    obtain ⟨charset, known⟩ := readArguments_encodable accepted name named
    exact ⟨name, charset, named, known⟩
  · exact Argument.classify_attached (by decide)
  · intro before given after name classified gives unfound
    have handed := handed_of_given classified gives (hands _ classified)
    cases unknown : Charset.find name with
    | ok charset => exact absurd unknown (unfound charset)
    | error refusal =>
      rcases readArguments_of_badEncoding classified gives handed unknown with
        help | ⟨error, refused, exactly⟩
      · exact Or.inl help
      · have nonempty : arguments ≠ [] := by
          rintro rfl
          have none := congrArg (List.length ·) (Except.ok.inj classified)
          cases gives <;> simp at none
        obtain ⟨final, comes, notes, reports⟩ :=
          run_of_badCommand finalArrivals batches lists nonempty refused
        refine Or.inr ⟨error, final, refused, ?_, comes, notes, reports⟩
        exact fun reading earlier free => ⟨refusal, rfl, exactly reading earlier free⟩

/-- The name of a transformation of bytes, behind a shortened switch. -/
theorem encoding_agrees_of_transformation :
    let arguments := ["-v", "--enc=Rot-13", "COM3", "9600", "8", "None", "One", "None", "f"]
    let first := start {} [] []
    HandsOver arguments ∧ (∀ charset, Charset.find "Rot-13" ≠ .ok charset) ∧
      ∃ final, (∀ opening, run opening arguments first = (.ok .usage, final)) ∧
        first.Notes final ∧
        Event.only Event.isReport final.events =
          [.reported
            (UsageError.report (.badValue "--encoding" (.encoding (.notText "Rot-13"))))] := by
  intro arguments first
  have refused : Charset.find "Rot-13" = .error (.notText "Rot-13") := by decide +kernel
  have unfound : ∀ charset, Charset.find "Rot-13" ≠ .ok charset := by
    intro charset found
    rw [refused] at found
    cases found
  have classified : Argument.classifyAll arguments =
      .ok ([.switch .verbose true none] ++ [.switch .encoding false (some "Rot-13".toList)] ++
        ["COM3", "9600", "8", "None", "One", "None", "f"].map .value) := by
    rfl
  have hands : HandsOver arguments := by
    intro all same isShort attached member
    rw [classified] at same
    cases same
    obtain ⟨_, rfl⟩ : isShort = false ∧ attached = "Rot-13".toList := by
      simpa using member
    exact rfl
  have agree := encoding_agrees arguments hands {} [] [] (fun failure failed => by cases failed)
  obtain ⟨_, _, _, _, _, refuses⟩ := agree
  refine ⟨hands, unfound, ?_⟩
  rcases refuses _ _ _ "Rot-13" classified (.attached false "Rot-13") unfound with
    ⟨impossible, _⟩ | ⟨error, final, _, exactly, comes, notes, reports⟩
  · cases impossible
  · obtain ⟨refusal, same, rfl⟩ := exactly _ rfl (fun _ => nofun)
    obtain rfl : refusal = .notText "Rot-13" := by
      rw [refused] at same
      exact (Except.error.inj same).symm
    exact ⟨final, comes, notes, reports⟩

end KeyFeed.Command
