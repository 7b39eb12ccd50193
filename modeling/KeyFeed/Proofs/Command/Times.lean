/-
This file says what the times on the command line come to. A time is refused when its text is no
number, or a number less than zero; what is left is a length of time as long as the number is
finite. The time after a character is slept for as it stands, and the time for a read goes to
the port as it stands. Every other pause of a run is a length of time whatever is given.
-/

import KeyFeed.Proofs.Command.Accepted
import KeyFeed.Proofs.Command.Custody
import KeyFeed.Proofs.Number.Usable
import KeyFeed.Proofs.Session.Sleeping

namespace KeyFeed.Command

open KeyFeed.Run KeyFeed.Script KeyFeed.Number

open Rig (Notes Sends Sleeps)

/-! ### Reading a time -/

/-- A text is read as a time if it is a number that is not less than zero. -/
theorem readMilliseconds_eq_ok_iff {text : String} {seconds : Float} :
    readMilliseconds text = .ok seconds ↔
      ∃ number, readReal? text.toList = some number ∧ ¬number < 0 ∧ number / 1000 = seconds := by
  unfold readMilliseconds
  cases readReal? text.toList with
  | none => simp
  | some number =>
    dsimp only
    split
    · rename_i less
      simp [less]
    · rename_i notLess
      simp [notLess]

/-- What the options can hold for a time. -/
inductive TimeGiven (standard : Float) : Given Float → Prop where
  /-- Nothing was given. -/
  | standard : TimeGiven standard (.value standard)
  | blank : TimeGiven standard .blank
  | read {text : String} {seconds : Float} (taken : readMilliseconds text = .ok seconds) :
      TimeGiven standard (.value seconds)

theorem TimeGiven.of_read {standard : Float} {given : Given String} {time : Given Float}
    (read : given.read readMilliseconds = .ok time) : TimeGiven standard time := by
  cases given with
  | blank =>
    cases read
    exact .blank
  | value text =>
    obtain ⟨seconds, taken, rfl⟩ := ok_of_map read
    exact .read taken

/-- The times of a draft are standard ones, blanks, or what was read. -/
def Draft.Timed (draft : Draft) : Prop :=
  TimeGiven 0.042 draft.charDelay ∧ TimeGiven Link.standardReadTimeout draft.readTimeout

theorem Draft.timed_kept : Draft.Kept Draft.Timed where
  fill draft slot given next filled timed := by
    obtain ⟨delay, limit, _⟩ := fill_eq filled
    rw [Timed, delay, limit]
    exact timed
  turn draft switch given next turned timed := by
    cases switch with
    | help | noInteractive | verbose =>
      cases turned
      exact timed
    | charDelay =>
      obtain ⟨seconds, read, rfl⟩ := ok_of_map turned
      exact ⟨.of_read read, timed.2⟩
    | readTimeout =>
      obtain ⟨seconds, read, rfl⟩ := ok_of_map turned
      exact ⟨timed.1, .of_read read⟩
    | encoding =>
      obtain ⟨name, _, rfl⟩ := ok_of_map turned
      exact timed
  turnOn draft switch timed := by
    obtain ⟨delay, limit, _⟩ := draft.turnOn_eq switch
    rw [Timed, delay, limit]
    exact timed

theorem readArguments_timed {arguments : List String} {options : Options}
    (accepted : readArguments arguments = .ok options) :
    TimeGiven 0.042 options.sender.pacing.perCharacter ∧
      TimeGiven Link.standardReadTimeout options.readTimeout := by
  obtain ⟨draft, completed, timed⟩ :=
    readArguments_keeps Draft.timed_kept ⟨.standard, .standard⟩ accepted
  obtain ⟨sender, limit⟩ := complete?_eq completed
  rw [sender, limit]
  exact timed

/-- Of the pauses only the one after a character can be given. -/
theorem readArguments_pacing {arguments : List String} {options : Options}
    (accepted : readArguments arguments = .ok options) :
    options.sender.pacing = { perCharacter := options.sender.pacing.perCharacter } := by
  obtain ⟨draft, completed, _⟩ :=
    readArguments_keeps Draft.timed_kept ⟨.standard, .standard⟩ accepted
  rw [(complete?_eq completed).1]

/-! ### The pauses of a run -/

/-- What a sender sleeps for is a length of time, except for what is given for the pause after a
character. -/
theorem usable_of_pauses {arguments : List String} {options : Options}
    (accepted : readArguments arguments = .ok options) {duration : Float}
    (pauses : options.sender.Pauses duration) :
    Usable duration ∨ options.sender.pacing.perCharacter = .value duration := by
  have pacing := readArguments_pacing accepted
  cases pauses with
  | character paced => exact Or.inr paced
  | settle least most =>
    rw [pacing]
    exact Or.inl (settle_usable least most)
  | poll =>
    have usable : Usable ({} : Pacing).perPoll := by decide +kernel
    rw [pacing]
    exact Or.inl usable

theorem sleeps_of_notes (allowed : Float → Prop) {rig next : Rig} (notes : rig.Notes next) :
    rig.Sleeps allowed next := .of_keyed notes.keyed

/-- The pauses of the work of a session are those of the sender. -/
theorem work_sleeps (options : Options) (script : Option (String × List Char)) :
    Leads (Sleeps options.sender.Pauses) (work options script) := by
  have prints (line : String) : Leads (Sleeps options.sender.Pauses) (say line) :=
    (say_notes line).mono fun _ _ => sleeps_of_notes _
  have sends : Leads (Sleeps options.sender.Pauses) (sendFile options script) := by
    unfold sendFile
    split
    · exact .pure ()
    · refine (prints _).bind fun _ => ?_
      exact (options.sender.sendScript_sleeps _ _ _).bind fun _ => prints _
  have forwards : Leads (Sleeps options.sender.Pauses) (forwardKeys options) :=
    .ite (.pure ()) ((prints _).bind fun _ => Session.interact_sleeps options.sender)
  exact sends.bind fun _ => forwards

theorem holdSession_sleeps (options : Options) (script : Option (String × List Char)) :
    Leads (Sleeps options.sender.Pauses) (holdSession options script) := by
  intro rig
  have opens : rig.Sleeps options.sender.Pauses (Session.openSession rig).2 :=
    Session.openSession_sleeps rig
  rcases outcome : Session.openSession rig with ⟨failure | ⟨⟩, next⟩
  · rw [outcome] at opens
    exact IsTrans.trans _ _ _ opens
      (sleeps_of_notes _ (holdSession_of_error options script outcome))
  · rw [outcome] at opens
    have works := work_sleeps options script next
    have reports := sleeps_of_notes options.sender.Pauses (workOrReport_notes options script next)
    have closes : Leads (Sleeps options.sender.Pauses) Session.closeSession :=
      Session.closeSession_sleeps
    have ends := sleeps_of_notes options.sender.Pauses (holdSession_of_ok options script outcome)
    exact IsTrans.trans _ _ _ opens (IsTrans.trans _ _ _ works
      (IsTrans.trans _ _ _ reports (IsTrans.trans _ _ _ (closes _) ends)))

section Run

variable {opening : Opening} {arguments : List String} {plan : Plan}
  {finalArrivals : List Arrival} {batches : List (List Keystroke)}

/-- A run sleeps only if its command line is accepted, and then as long as its sender does. -/
theorem pauses_of_slept {duration : Float}
    (slept : .slept duration ∈
      (run opening arguments (start plan finalArrivals batches)).2.events) :
    ∃ options, readArguments arguments = .ok options ∧ options.sender.Pauses duration := by
  have fresh : .slept duration ∉ (start plan finalArrivals batches).events := Array.not_mem_empty _
  rcases run_cases opening arguments (start plan finalArrivals batches) with
    ⟨begun, comes⟩ | ⟨notes, _⟩
  · rw [comes] at slept
    refine ⟨begun.options, begun.accepted, ?_⟩
    have later := holdSession_sleeps begun.options begun.script begun.ready duration slept
    refine later.resolve_left fun before => ?_
    have never := sleeps_of_notes (fun _ => False) begun.begins duration before
    exact fresh (never.resolve_right id)
  · have never := sleeps_of_notes (fun _ => False) notes duration slept
    exact absurd (never.resolve_right id) fresh

/-- A run asks for a port only if its command line is accepted, and then with its settings. -/
theorem settings_of_opening {settings : Link.Settings}
    (opened : .opening settings ∈
      (run opening arguments (start plan finalArrivals batches)).2.events) :
    ∃ options, readArguments arguments = .ok options ∧ options.settings? = some settings := by
  have asked : .opening settings ∈ Event.only Event.isPort
      (run opening arguments (start plan finalArrivals batches)).2.events :=
    List.mem_filter.mpr ⟨Array.mem_toList_iff.mpr opened, rfl⟩
  rcases run_cases opening arguments (start plan finalArrivals batches) with
    ⟨begun, comes⟩ | ⟨notes, _⟩
  · refine ⟨begun.options, begun.accepted, ?_⟩
    have sends := Sends.of_notes begun.begins
    have noPorts : Event.only Event.isPort begun.ready.events = [] := sends.only_isPort rfl
    have known : begun.ready.settings = begun.settings := by rw [begun.begins.frame]
    have unopened : begun.ready.port = .none := by rw [begun.begins.frame]; rfl
    have deaf : begun.ready.listener ≠ .listening := fun still => nomatch sends.listener still
    have custody := holdSession_custody begun.options begun.script unopened deaf sends.active
    rw [comes, custody.ports, noPorts, known] at asked
    rcases List.mem_cons.mp asked with same | closing
    · cases same
      exact begun.completed
    · split at closing <;> simp at closing
  · rw [(Sends.of_notes notes).only_isPort rfl] at asked
    cases asked

end Run

/-! ### The whole run -/

/-- What is given for a time is a length of time, and no blank. -/
def IsTime : Given Float → Prop
  | .value seconds => Usable seconds
  | .blank => False

/-- A time is refused exactly when its text is no number, or a number less than zero. It is never
less than zero, and it is a length of time if and only if the number is finite. The options hold
such times, the standard ones, which are lengths of time, or blanks. In a run every pause of the
sender is a length of time, but for what is given for the pause after a character, for which the
sender sleeps after each character that it writes; and the port is opened with what is given for the
time of a read. So where both are lengths of time, so are all pauses and the time limit of the
port. -/
theorem run_times (opening : Opening) (arguments : List String) (plan : Plan)
    (finalArrivals : List Arrival) (batches : List (List Keystroke)) :
    let final := (run opening arguments (start plan finalArrivals batches)).2
    (∀ text seconds, readMilliseconds text = .ok seconds ↔
        ∃ number, readReal? text.toList = some number ∧ ¬number < 0 ∧ number / 1000 = seconds) ∧
      (∀ number : Float, ¬number < 0 →
        ¬number / 1000 < 0 ∧ (Usable (number / 1000) ↔ number.isFinite = true)) ∧
      (Usable 0.042 ∧ Usable Link.standardReadTimeout) ∧
      (∀ options, readArguments arguments = .ok options →
        TimeGiven 0.042 options.sender.pacing.perCharacter ∧
          TimeGiven Link.standardReadTimeout options.readTimeout ∧
          ∀ duration, options.sender.pacing.perCharacter = .value duration →
            ∀ char bytes, options.sender.bytes [char] = .ok bytes →
              ∀ rig next rest, Link.write bytes rig = (.ok (), next) →
                .slept duration ∈ (options.sender.typeCharacters (char :: rest) rig).2.events) ∧
      (∀ duration, .slept duration ∈ final.events →
        ∃ options, readArguments arguments = .ok options ∧
          (Usable duration ∨ options.sender.pacing.perCharacter = .value duration)) ∧
      (∀ settings, .opening settings ∈ final.events →
        ∃ options, readArguments arguments = .ok options ∧
          settings.readTimeout = options.readTimeout.map some) ∧
      ∀ options, readArguments arguments = .ok options →
        IsTime options.sender.pacing.perCharacter → IsTime options.readTimeout →
          (∀ duration, .slept duration ∈ final.events → Usable duration) ∧
            ∀ settings, .opening settings ∈ final.events →
              ∃ seconds, settings.readTimeout = .value (some seconds) ∧ Usable seconds := by
  intro final
  have sleeps : ∀ duration, .slept duration ∈ final.events →
      ∃ options, readArguments arguments = .ok options ∧
        (Usable duration ∨ options.sender.pacing.perCharacter = .value duration) := by
    intro duration slept
    obtain ⟨options, accepted, pauses⟩ := pauses_of_slept slept
    exact ⟨options, accepted, usable_of_pauses accepted pauses⟩
  have opens : ∀ settings, .opening settings ∈ final.events →
      ∃ options, readArguments arguments = .ok options ∧
        settings.readTimeout = options.readTimeout.map some := by
    intro settings opened
    obtain ⟨options, accepted, completed⟩ := settings_of_opening opened
    obtain ⟨handshake, _, rfl⟩ := Option.map_eq_some_iff.mp completed
    exact ⟨options, accepted, rfl⟩
  refine ⟨fun _ _ => readMilliseconds_eq_ok_iff, fun _ => thousandth_usable, by decide +kernel, ?_,
    sleeps, opens, ?_⟩
  · intro options accepted
    obtain ⟨delay, limit⟩ := readArguments_timed accepted
    refine ⟨delay, limit, fun duration paced char bytes encoded rig next rest written => ?_⟩
    exact Sender.slept_of_written paced encoded written rest
  · intro options accepted delay limit
    refine ⟨fun duration slept => ?_, fun settings opened => ?_⟩
    · obtain ⟨others, acceptedToo, usable | paced⟩ := sleeps duration slept
      · exact usable
      · cases accepted.symm.trans acceptedToo
        rw [paced] at delay
        exact delay
    · obtain ⟨others, acceptedToo, same⟩ := opens settings opened
      cases accepted.symm.trans acceptedToo
      cases given : options.readTimeout with
      | blank =>
        rw [given] at limit
        exact limit.elim
      | value seconds =>
        rw [given] at limit same
        exact ⟨seconds, same, limit⟩

/-- The event is a pause that is no length of time. -/
def isOddPause : Event → Bool
  | .slept duration => !decide (Usable duration)
  | _ => false

/-- The name of what is no number is read as a number that is not less than zero: the command line
is accepted, and the sender sleeps for it. -/
theorem run_sleeps_notANumber :
    ¬∀ (opening : Opening) (arguments : List String) (options : Options),
      readArguments arguments = .ok options → ∀ duration,
        .slept duration ∈ (run opening arguments (start {} [] [])).2.events → Usable duration := by
  intro always
  let arguments := ["--char-delay=nan", "--no-interactive", "COM3", "9600", "8", "None", "One",
    "None", "f"]
  have odd : (run (fun _ => .ok [0x41]) arguments (start {} [] [])).2.events.toList.any
      isOddPause = true := by
    decide +kernel
  obtain ⟨event, member, isOdd⟩ := List.any_eq_true.mp odd
  cases event with
  | slept duration =>
    have slept := Array.mem_toList_iff.mp member
    obtain ⟨options, accepted, _⟩ := pauses_of_slept slept
    have usable := always _ _ options accepted duration slept
    simp [isOddPause, usable] at isOdd
  | _ => cases isOdd

end KeyFeed.Command
