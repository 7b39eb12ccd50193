/-
This file says when it does not matter to the adapter whether a text is typed or comes as one
key. The characters of a line are written one at a time, a key as a whole; but where an encoding
has no mark and gives each character its bytes by itself, the port takes the same bytes in the
same order. A character that the encoding does not have becomes one question mark in both, also
in a run of them and beyond the first plane. In the encodings in which a character depends on
those beside it, some texts come out differently.

The line has to be one of which all is typed: without carriage returns, no comment, and with
neither marker of a directive.
-/

import KeyFeed.Proofs.Charset.Joining
import KeyFeed.Proofs.Script.Grammar
import KeyFeed.Proofs.Session.Forwarding

namespace KeyFeed

open KeyFeed.Run KeyFeed.Script

/-! ### Lines that are typed as they stand -/

/-- All of the line is typed, and no directive fires in it. -/
structure Script.IsPlain (line : List Char) : Prop where
  clean : '\r' ∉ line
  noComment : line.head? ≠ some ';'
  immediate : ¬immediateMarker <:+: line
  delay : ¬delayMarker <:+: line

/-- A text is plain that has none of the characters that a comment or a directive begins with. -/
theorem Script.isPlain_of_forall {line : List Char}
    (others : ∀ char ∈ line, char ≠ '\r' ∧ char ≠ ';' ∧ char ≠ '~') : IsPlain line where
  clean member := (others _ member).1 rfl
  noComment begins := (others _ (List.mem_of_mem_head? begins)).2.1 rfl
  immediate inside := (others '~' (inside.subset List.mem_cons_self)).2.2 rfl
  delay inside := (others '~' (inside.subset List.mem_cons_self)).2.2 rfl

namespace Sender

variable {sender : Sender} {name : String} {charset : Charset} {text : List Char}

theorem clean_of_isPlain (plain : IsPlain text) : clean text = text := clean_of_not_mem plain.clean

theorem typed_of_isPlain (plain : IsPlain text) : typed text = text := by
  have other : isComment text = false := by simpa [isComment, commentMark] using plain.noComment
  rw [typed, other]
  rfl

theorem scan_of_isPlain (plain : IsPlain text) : scan text = .ok none :=
  scan_eq_none_iff.mpr ⟨plain.immediate, plain.delay⟩

theorem lineSteps_of_isPlain (sender : Sender) (plain : IsPlain text) :
    sender.lineSteps text = text.flatMap sender.charSteps := by
  rw [lineSteps, clean_of_isPlain plain, typed_of_isPlain plain, scanSteps, scan_of_isPlain plain]
  exact List.append_nil _

theorem sendLine_of_isPlain (sender : Sender) (plain : IsPlain text) :
    sender.sendLine text = Step.performAll (sender.lineSteps text) >>= fun _ => pure none := by
  unfold sendLine
  dsimp only
  rw [clean_of_isPlain plain, typed_of_isPlain plain, scan_of_isPlain plain,
    typeCharacters_eq_performAll, lineSteps_of_isPlain sender plain]
  rfl

theorem outcome_charSteps (named : sender.encoding = .value name)
    (known : Charset.find name = .ok charset) {delay : Float}
    (paced : sender.pacing.perCharacter = .value delay) (text : List Char) :
    Step.outcome (text.flatMap sender.charSteps) = .ok () := by
  induction text with
  | nil => rfl
  | cons char rest inductionHypothesis =>
    rw [List.flatMap_cons, charSteps_of_known named known paced]
    exact inductionHypothesis

/-- Characters that are all typed are written one at a time. -/
theorem writes_charSteps (named : sender.encoding = .value name)
    (known : Charset.find name = .ok charset)
    (well : Step.outcome (text.flatMap sender.charSteps) = .ok ()) :
    (Step.trace (text.flatMap sender.charSteps)).filter Event.isWrite =
      text.map fun char => .wrote (charset.encode [char]) := by
  induction text with
  | nil => rfl
  | cons char rest inductionHypothesis =>
    have found : sender.bytes [char] = .ok (charset.encode [char]) :=
      Session.bytes_of_known named known [char]
    have steps : sender.charSteps char = [.write (charset.encode [char]), sender.pauseStep] := by
      rw [charSteps, found]
    rw [List.flatMap_cons, steps] at well ⊢
    cases paced : sender.pacing.perCharacter with
    | blank =>
      rw [pauseStep, paced] at well
      cases well
    | value delay =>
      rw [pauseStep, paced] at well ⊢
      exact congrArg (.wrote (charset.encode [char]) :: ·) (inductionHypothesis well)

/-- A plain line that is sent to its end is written character by character. -/
theorem sendLine_writes (named : sender.encoding = .value name)
    (known : Charset.find name = .ok charset) (plain : IsPlain text) {rig next : Rig}
    {found : Option Directive} (sent : sender.sendLine text rig = (.ok found, next)) :
    found = none ∧ Event.only Event.isWrite next.events =
      Event.only Event.isWrite rig.events ++
        text.map fun char => .wrote (charset.encode [char]) := by
  rw [sender.sendLine_of_isPlain plain] at sent
  obtain ⟨_, middle, performed, ended⟩ := bind_eq_ok_iff.mp sent
  cases ended
  have unobserved : ∀ step ∈ sender.lineSteps text, step.isUnobserved = true := by
    intro step member
    cases step with
    | again notice => exact absurd member (sender.again_not_mem_lineSteps text notice)
    | _ => rfl
  obtain ⟨well, left⟩ := Step.performAll_ok unobserved performed
  rw [lineSteps_of_isPlain sender plain] at well left
  refine ⟨rfl, ?_⟩
  rw [Event.only_isWrite, left, List.filter_append, writes_charSteps named known well,
    ← Event.only_isWrite]

theorem sendKey_eq (named : sender.encoding = .value name)
    (known : Charset.find name = .ok charset) (key : Key) :
    sender.sendKey key = Link.write (charset.encode key) := by
  unfold sendKey encode
  rw [Session.bytes_of_known named known]
  rfl

theorem sendKey_writes (named : sender.encoding = .value name)
    (known : Charset.find name = .ok charset) {key : Key} {rig next : Rig}
    (sent : sender.sendKey key rig = (.ok (), next)) :
    Event.only Event.isWrite next.events =
      Event.only Event.isWrite rig.events ++ [.wrote (charset.encode key)] := by
  rw [sendKey_eq named known] at sent
  obtain ⟨_, _, rfl⟩ := Link.write_ok sent
  exact (Event.only_push_of_not_sort rfl _).trans (Event.only_push_of_sort rfl rig.events)

/-- Over an open link on which nothing goes wrong a plain line is sent to its end. -/
theorem sendLine_of_calm (named : sender.encoding = .value name)
    (known : Charset.find name = .ok charset) (plain : IsPlain text) {rig : Rig} (calm : rig.Calm)
    {delay : Float} (paced : sender.pacing.perCharacter = .value delay) :
    (sender.sendLine text rig).1 = .ok none := by
  have ended := (calm.performAll (sender.again_not_mem_lineSteps text)).1
  rw [lineSteps_of_isPlain sender plain, outcome_charSteps named known paced] at ended
  rw [sendLine_of_isPlain sender plain, lineSteps_of_isPlain sender plain,
    bind_of_ok (Prod.ext ended rfl : Step.performAll _ rig = (.ok (), _))]
  rfl

theorem sendKey_of_calm (named : sender.encoding = .value name)
    (known : Charset.find name = .ok charset) (key : Key) {rig : Rig} (calm : rig.Calm) :
    (sender.sendKey key rig).1 = .ok () := by
  rw [sendKey_eq named known, Link.write_of_passed (HeldPort.isHeld_of_isOpen calm.port)
    (calm.fault?_eq_none _ _) (calm.fault?_eq_none _ _)]

/-! ### Typed or as one key -/

/-- The texts that show what an encoding joins can be typed as they stand. -/
theorem joined_isPlain (charset : Charset) : IsPlain charset.joined := by
  have each : ∀ text ∈ [['é', 'é'], ['a', 'a'], ['か', '\u309a'], ['Ê', '\u0304'],
      [firstSyllable, firstSyllable], [wideBlank, wideBlank]],
      ∀ char ∈ text, char ≠ '\r' ∧ char ≠ ';' ∧ char ≠ '~' := by
    simp [firstSyllable, wideBlank]
  refine isPlain_of_forall (each _ ?_)
  cases charset with
  | pairs set => cases set <;> simp [Charset.joined, PairSet.joined]
  | iso2022 version => cases version <;> simp [Charset.joined]
  | _ => simp [Charset.joined]

/-- Where a plain line is typed to its end, the port takes the bytes of each character in a write of
its own; where the same text is sent as one key, it takes all bytes in one write. Over an open
link on which nothing goes wrong both come to their end. In an encoding without a mark, in which
no character depends on those beside it, the bytes are the same; the question mark stands in
them for each character that the encoding does not have, and for no other than itself. In the
other encodings without a mark there is a plain line with other bytes. The encodings of Unicode
give the text back. -/
theorem sendLine_sendKey (named : sender.encoding = .value name)
    (known : Charset.find name = .ok charset) (unmarked : charset.mark = [])
    (plain : IsPlain text) :
    (∀ rig found next, sender.sendLine text rig = (.ok found, next) →
        Event.only Event.isWrite next.events =
          Event.only Event.isWrite rig.events ++
            text.map fun char => .wrote (charset.encode [char])) ∧
      (∀ rig next, sender.sendKey text rig = (.ok (), next) →
        Event.only Event.isWrite next.events =
          Event.only Event.isWrite rig.events ++ [.wrote (charset.encode text)]) ∧
      (∀ rig delay, rig.Calm → sender.pacing.perCharacter = .value delay →
        (sender.sendLine text rig).1 = .ok none ∧ (sender.sendKey text rig).1 = .ok ()) ∧
      (charset.isContextual = false →
        (text.map fun char => charset.encode [char]).flatten = charset.encode text ∧
          ∀ char, charset.Lacks char ↔
            charset.encode [char] = charset.encode ['?'] ∧ char ≠ '?') ∧
      (charset.isContextual = true → ∃ other, IsPlain other ∧
        (other.map fun char => charset.encode [char]).flatten ≠ charset.encode other) ∧
      (charset ∈ Charset.plainUnicode → charset.decode? (charset.encode text) = some text) := by
  refine ⟨fun rig found next sent => (sendLine_writes named known plain sent).2,
    fun rig next sent => sendKey_writes named known sent,
    fun rig delay calm paced =>
      ⟨sendLine_of_calm named known plain calm paced, sendKey_of_calm named known text calm⟩,
    fun alone => ⟨Charset.flatten_encode alone unmarked text, fun char => ?_⟩,
    fun contextual => ⟨_, joined_isPlain charset, Charset.joined_ne contextual⟩,
    fun unicode => Charset.decode?_encode unicode text⟩
  rw [Charset.encode_singleton, Charset.encode_singleton, unmarked]
  exact Charset.lacks_iff alone char

/-- A character beyond the first plane, which becomes a pair of surrogates, and in a code page a
question mark like the character beside it. -/
theorem sendLine_sendKey_of_pair :
    let rig : Rig := { plan := {}, settings := { port := "COM3" }, port := .held true }
    let wide : Sender := { encoding := .value "utf-16-le" }
    let paged : Sender := { encoding := .value "cp1252" }
    let text := ['€', '→', '😀']
    let line := wide.sendLine text rig
    let key := paged.sendKey text rig
    IsPlain text ∧ rig.Calm ∧ Charset.find "utf-16-le" = .ok .utf16Little ∧
      Charset.find "cp1252" = .ok (.page .windows1252) ∧
      line.1 = .ok none ∧ key.1 = .ok () ∧
      Event.only Event.isWrite line.2.events =
        [.wrote [0xAC, 0x20], .wrote [0x92, 0x21], .wrote [0x3D, 0xD8, 0x00, 0xDE]] ∧
      Event.only Event.isWrite key.2.events = [.wrote [0x80, 0x3F, 0x3F]] ∧
      Charset.utf16Little.decode? (Charset.utf16Little.encode text) = some text := by
  intro rig wide paged text line key
  have plain : IsPlain text := isPlain_of_forall (by simp [text])
  have calm : rig.Calm := ⟨rfl, nofun, rfl, rfl⟩
  have wideKnown : Charset.find "utf-16-le" = .ok .utf16Little := by rfl
  have bytes : (Charset.page .windows1252).encode text = [0x80, 0x3F, 0x3F] := by
    rw [Charset.encode_of_not_isContextual rfl]
    simp only [text, Charset.mark, List.flatMap_cons, List.flatMap_nil, Charset.encodeChar,
      Charset.pageBytes, CodePage.byte?, CodePage.slots, CodePage.layout, String.toList_append,
      -String.reduceToList]
    repeat rewrite [String.toList_ofList]
    decide +kernel
  have pagedKnown : Charset.find "cp1252" = .ok (.page .windows1252) := by rfl
  obtain ⟨typed, _, ends, _, _, back⟩ :=
    @sendLine_sendKey wide "utf-16-le" _ text rfl wideKnown rfl plain
  obtain ⟨_, struck, passes, _⟩ :=
    @sendLine_sendKey paged "cp1252" _ text rfl pagedKnown rfl plain
  have lineEnds : line.1 = .ok none := (ends rig 0.042 calm rfl).1
  have keyEnds : key.1 = .ok () := (passes rig 0.042 calm rfl).2
  have lineSent : line = (.ok none, line.2) := by rw [← lineEnds]
  have keySent : key = (.ok (), key.2) := by rw [← keyEnds]
  refine ⟨plain, calm, wideKnown, pagedKnown, lineEnds, keyEnds, ?_, ?_, back (by decide)⟩
  · rw [typed rig none line.2 lineSent]
    rfl
  · rw [struck rig key.2 keySent]
    rw [bytes]
    rfl

/-- In UTF-7 a run of digits goes on from one accented letter to the next when both come as one
key. Typed one at a time, each has a run of its own. -/
theorem sendKey_joins_run :
    let rig : Rig := { plan := {}, settings := { port := "COM3" }, port := .held true }
    let sender : Sender := { encoding := .value "utf-7" }
    let text := ['é', 'é']
    let line := sender.sendLine text rig
    let key := sender.sendKey text rig
    IsPlain text ∧ Charset.find "utf-7" = .ok .utf7 ∧ Charset.utf7.mark = [] ∧
      line.1 = .ok none ∧ key.1 = .ok () ∧
      Event.only Event.isWrite line.2.events =
        [.wrote [0x2B, 0x41, 0x4F, 0x6B, 0x2D], .wrote [0x2B, 0x41, 0x4F, 0x6B, 0x2D]] ∧
      Event.only Event.isWrite key.2.events =
        [.wrote [0x2B, 0x41, 0x4F, 0x6B, 0x41, 0x36, 0x51, 0x2D]] ∧
      (text.map fun char => Charset.utf7.encode [char]).flatten ≠ Charset.utf7.encode text := by
  intro rig sender text line key
  have plain : IsPlain text := isPlain_of_forall (by simp [text])
  have known : Charset.find "utf-7" = .ok .utf7 := by rfl
  have calm : rig.Calm := ⟨rfl, nofun, rfl, rfl⟩
  have lineEnds : line.1 = .ok none := sendLine_of_calm rfl known plain calm rfl
  have keyEnds : key.1 = .ok () := sendKey_of_calm rfl known text calm
  have alone : Charset.utf7.encode ['é'] = [0x2B, 0x41, 0x4F, 0x6B, 0x2D] := by decide +kernel
  have together : Charset.utf7.encode text = [0x2B, 0x41, 0x4F, 0x6B, 0x41, 0x36, 0x51, 0x2D] := by
    decide +kernel
  refine ⟨plain, known, rfl, lineEnds, keyEnds, ?_, ?_, by decide +kernel⟩
  · have sent : line = (.ok none, line.2) := by rw [← lineEnds]
    rw [(sendLine_writes rfl known plain sent).2, List.map_cons, List.map_cons, alone]
    rfl
  · have sent : key = (.ok (), key.2) := by rw [← keyEnds]
    rw [sendKey_writes rfl known sent, together]
    rfl

end Sender

end KeyFeed
