/-
This file says that a run does not depend on how the lines of its script end. A script may
have a byte order mark in front and carriage returns anywhere, as long as its text without
them is the same: the mark is dropped when the bytes are read, and the returns are dropped
from every line that is sent. So the two runs are the same in everything they do, not only
in what they send. Only a script that is to be repeated is left out, because returns alone
are repeated while nothing at all is not.
-/

import KeyFeed.Command.Program
import KeyFeed.Proofs.Charset.RoundTrip
import KeyFeed.Proofs.Typing.Returns

namespace KeyFeed

open KeyFeed.Run KeyFeed.Script

/-! ### Loading -/

namespace Script

/-- The bytes hold the text, in UTF-8, with carriage returns added anywhere in it, and with a byte
order mark in front or without. -/
def Spells (bytes : List UInt8) (text : List Char) : Prop :=
  ∃ inserted, clean inserted = text ∧
    (bytes = Utf8.encode inserted ∨ bytes = Utf8.mark ++ Utf8.encode inserted)

/-- A text that begins with no mark does so no more when returns are added. -/
theorem head?_ne_of_clean {text : List Char} {char : Char} (kept : char ≠ '\r')
    (other : (clean text).head? ≠ some char) : text.head? ≠ some char := by
  intro begins
  obtain ⟨rest, rfl⟩ := List.head?_eq_some_iff.mp begins
  rw [clean_cons_of_ne kept] at other
  exact other rfl

/-- Bytes that spell a text are read as that text and its returns. -/
theorem Spells.decode {bytes : List UInt8} {text : List Char} (spells : Spells bytes text)
    (unmarked : text.head? ≠ some Utf8.markChar) :
    ∃ inserted, clean inserted = text ∧ Utf8.decodeMarked bytes = .ok inserted := by
  obtain ⟨inserted, cleaned, plain | marked⟩ := spells
  · subst cleaned plain
    exact ⟨inserted, rfl, Utf8.decodeMarked_encode (head?_ne_of_clean (by decide) unmarked)⟩
  · subst marked
    exact ⟨inserted, cleaned, Utf8.decodeMarked_mark inserted⟩

/-- The two give the same for every path, but that one finds the bytes of a text where the other
one finds another spelling of it. -/
def Respelled (text : List Char) (bytes : List UInt8) (opening other : Opening) : Prop :=
  ∀ path, other path = opening path ∨
    opening path = .ok (Utf8.encode text) ∧ other path = .ok bytes

/-- A text in another spelling is the same text but for its returns. -/
theorem loadScript_respelled {text : List Char} (unmarked : text.head? ≠ some Utf8.markChar)
    {bytes : List UInt8} (spells : Spells bytes text) {opening other : Opening}
    (respelled : Respelled text bytes opening other) (path : String) :
    (loadScript other path).map clean = (loadScript opening path).map clean := by
  unfold loadScript
  rcases respelled path with same | ⟨plain, spelled⟩
  · rw [same]
  · obtain ⟨inserted, cleaned, reads⟩ := spells.decode unmarked
    rw [plain, spelled]
    dsimp only
    rw [reads, Utf8.decodeMarked_encode unmarked]
    dsimp only
    split
    · rfl
    · refine congrArg Except.ok ?_
      rw [← cleaned, clean_clean]

end Script

/-! ### Running -/

namespace Command

/-- Two outcomes that a function makes equal are the same refusal, or results that it makes
equal. -/
theorem outcomes_of_map_eq {Refusal First Second : Type} {view : First → Second}
    {outcome other : Except Refusal First} (same : other.map view = outcome.map view) :
    (∃ refusal, other = .error refusal ∧ outcome = .error refusal) ∨
      ∃ result resultToo, other = .ok result ∧ outcome = .ok resultToo ∧
        view result = view resultToo := by
  cases other with
  | error refusal =>
    cases outcome with
    | error refusalToo =>
      cases same
      exact Or.inl ⟨refusal, rfl, rfl⟩
    | ok result => cases same
  | ok result =>
    cases outcome with
    | error refusal => cases same
    | ok resultToo => exact Or.inr ⟨result, resultToo, rfl, rfl, Except.ok.inj same⟩

/-- A script without its returns. -/
def cleaned : String × List Char → String × List Char := fun (path, text) => (path, clean text)

theorem scriptOf_respelled {text : List Char} (unmarked : text.head? ≠ some Utf8.markChar)
    {bytes : List UInt8} (spells : Spells bytes text) {opening other : Opening}
    (respelled : Respelled text bytes opening other) (options : Options) :
    (scriptOf other options).map (·.map cleaned) =
      (scriptOf opening options).map (·.map cleaned) := by
  unfold scriptOf
  cases options.file with
  | none => rfl
  | some path =>
    dsimp only
    split
    · rfl
    · rcases outcomes_of_map_eq (loadScript_respelled unmarked spells respelled path) with
        ⟨refusal, refused, refusedToo⟩ | ⟨script, scriptToo, loaded, loadedToo, same⟩
      · rw [refused, refusedToo]
      · rw [loaded, loadedToo]
        show Except.ok (some (path, clean script)) = Except.ok (some (path, clean scriptToo))
        rw [same]

/-- A script that is sent once is sent as it is without its returns. -/
theorem sendFile_cleaned {options : Options} (once : options.again = none)
    (script : Option (String × List Char)) :
    sendFile options (script.map cleaned) = sendFile options script := by
  cases script with
  | none => rfl
  | some script =>
    obtain ⟨path, text⟩ := script
    unfold sendFile
    rw [once]
    dsimp only [Option.map_some, cleaned, Option.isSome_none]
    rw [Sender.sendScript_clean]

theorem runSession_cleaned {options : Options} (once : options.again = none)
    (script : Option (String × List Char)) :
    runSession options (script.map cleaned) = runSession options script := by
  unfold runSession holdSession workOrReport work
  rw [sendFile_cleaned once]

theorem runSession_congr {options : Options} (once : options.again = none)
    {script other : Option (String × List Char)}
    (same : other.map cleaned = script.map cleaned) :
    runSession options other = runSession options script := by
  rw [← runSession_cleaned once other, same, runSession_cleaned once]

/-- A run is the same, in its outcome and in all that it does, whether the file of its script holds
the bytes of a text or another spelling of it, with carriage returns anywhere and with or
without a byte order mark, unless the script is to be repeated. -/
theorem run_respelled {text : List Char} (unmarked : text.head? ≠ some Utf8.markChar)
    {bytes : List UInt8} (spells : Spells bytes text) {opening other : Opening}
    (respelled : Respelled text bytes opening other) {arguments : List String}
    (once : ∀ options, readArguments arguments = .ok options → options.again = none) (rig : Rig) :
    run other arguments rig = run opening arguments rig := by
  unfold run readOptions
  refine congrFun (congrArg (Link.findPorts >>= ·) (funext fun ports => ?_)) rig
  split
  · rfl
  · cases accepted : readArguments arguments with
    | error stop =>
      -- Nothing is loaded, so the two runs say the same and end.
      cases stop <;> simp only [bind_assoc, pure_bind]
    | ok options =>
      dsimp only
      rw [pure_bind, pure_bind]
      refine congrArg (record _ >>= ·) (funext fun _ => ?_)
      rcases outcomes_of_map_eq (scriptOf_respelled unmarked spells respelled options) with
        ⟨refusal, refused, refusedToo⟩ | ⟨script, scriptToo, loaded, loadedToo, same⟩
      · rw [refused, refusedToo]
      · rw [loaded, loadedToo]
        exact runSession_congr (once options accepted) same

/-- A mark, and returns inside a directive, at the end of its line and behind it. -/
theorem run_respelled_refused :
    let arguments := ["--no-interactive", "COM3", "9600", "8", "None", "One", "None", "keys.txt"]
    let text := "a~Zx\n".toList
    let bytes := Utf8.mark ++ Utf8.encode "a~\rZx\r\r\n\r".toList
    let opening : Opening := fun _ => .ok (Utf8.encode text)
    let other : Opening := fun _ => .ok bytes
    let first := start {} [] []
    text.head? ≠ some Utf8.markChar ∧ Spells bytes text ∧ Respelled text bytes opening other ∧
      (∀ options, readArguments arguments = .ok options → options.again = none) ∧
      (run opening arguments first).1.toOption = some .badDirective ∧
      run other arguments first = run opening arguments first := by
  intro arguments text bytes opening other first
  have unmarked : text.head? ≠ some Utf8.markChar := by decide
  have spells : Spells bytes text := ⟨"a~\rZx\r\r\n\r".toList, by decide, Or.inr rfl⟩
  have respelled : Respelled text bytes opening other := fun _ => Or.inr ⟨rfl, rfl⟩
  have once : ∀ options, readArguments arguments = .ok options → options.again = none := by
    intro options accepted
    have given : (readArguments arguments).toOption.map Options.again = some none := by
      decide +kernel
    rw [accepted] at given
    exact Option.some.inj given
  have refused : (run opening arguments first).1.toOption = some .badDirective := by decide +kernel
  exact ⟨unmarked, spells, respelled, once, refused,
    run_respelled unmarked spells respelled once first⟩

end Command

end KeyFeed
