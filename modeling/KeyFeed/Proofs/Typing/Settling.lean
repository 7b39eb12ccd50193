/-
This file says what a line of a script can make the sender wait for. Scanning follows the
grammar of directives, so a delay that is waited for is one of at least one second and at
most one day. A number of seconds that short is converted as it stands. So the length of the
pause is always found: sending a line does not end early because a number is too large,
unless the surroundings themselves fail in that way.
-/

import KeyFeed.Proofs.Script.Grammar
import KeyFeed.Proofs.Typing.Causes

namespace KeyFeed

open KeyFeed.Run KeyFeed.Script KeyFeed.Number

/-! ### The pause after a delay -/

namespace Script

/-- A delay that is waited for is one of at least one second and at most one day. -/
theorem seconds_of_needsSettle {line : List Char} {directive : Directive}
    (found : scan line = .ok (some directive)) (settles : directive.needsSettle = true) :
    1 ≤ directive.seconds ∧ directive.seconds ≤ longestDelay := by
  have waits : directive.kind = .delay ∧ 0 < directive.seconds := by
    simpa [Directive.needsSettle] using settles
  exact ⟨waits.2, seconds_le_of_scan found⟩

end Script

/-! ### What a line can stop for -/

namespace Sender

variable {sender : Sender} {failure : Failure}

/-- The steps for a line stop for want of an encoding, for want of a pause after a character, or at
a directive that is refused. -/
theorem stop_of_mem_lineSteps {raw : List Char} (member : .stop failure ∈ sender.lineSteps raw) :
    (∃ text, sender.bytes text = .error failure) ∨ failure = .blankPause ∨
      ∃ refusal, failure = .directive refusal := by
  rcases List.mem_append.mp member with typed | scanned
  · obtain ⟨char, _, ofChar⟩ := List.mem_flatMap.mp typed
    unfold charSteps pauseStep at ofChar
    split at ofChar
    · rename_i refused
      cases List.mem_singleton.mp ofChar
      exact Or.inl ⟨[char], refused⟩
    · split at ofChar
      · simp at ofChar
      · simp only [List.mem_cons, List.not_mem_nil, or_false, Step.stop.injEq] at ofChar
        rcases ofChar with impossible | same
        · cases impossible
        · exact Or.inr (Or.inl same)
  · cases found : scan (clean raw) with
    | error refusal =>
      rw [scanSteps, found] at scanned
      cases List.mem_singleton.mp scanned
      exact Or.inr (Or.inr ⟨refusal, rfl⟩)
    | ok directive => cases (firingSteps sender found).1 _ scanned

theorem bytes_ne_durationTooLong (sender : Sender) (text : List Char) :
    sender.bytes text ≠ .error .durationTooLong := by
  unfold bytes
  split
  · split <;> exact nofun
  · exact nofun

/-- The pause after a line is never too long for a number. -/
theorem stop_durationTooLong_not_mem (sender : Sender) (raw : List Char) :
    Step.stop .durationTooLong ∉ sender.lineSteps raw := by
  intro member
  rcases stop_of_mem_lineSteps member with ⟨text, refused⟩ | impossible | ⟨_, impossible⟩
  · exact sender.bytes_ne_durationTooLong text refused
  · cases impossible
  · cases impossible

/-- Sending a line ends as its steps do. -/
theorem sendLine_error {raw : List Char} {rig : Rig}
    (failed : (sender.sendLine raw rig).1 = .error failure) :
    (Step.performAll (sender.lineSteps raw) rig).1 = .error failure := by
  have same := congrFun (sender.sendLine_bind raw (pure ())) rig
  rw [bind_of_error (Prod.ext failed rfl : sender.sendLine raw rig = (.error failure, _))] at same
  have whole := congrArg Prod.fst same
  rw [bind_pure_unit] at whole
  exact whole.symm

/-- A line ends for a number that is too large only where the plan says so. -/
theorem sendLine_ne_durationTooLong (sender : Sender) {rig : Rig}
    (unplanned : ∀ fault ∈ rig.plan.faults, fault.failure ≠ .durationTooLong) (raw : List Char) :
    (sender.sendLine raw rig).1 ≠ .error .durationTooLong := by
  have confined : rig.plan.Confined (· ≠ .durationTooLong) :=
    .of_faults (fun _ => nofun) (fun _ => nofun) unplanned
  have each : ∀ step ∈ sender.lineSteps raw,
      FailsBy rig.plan (· ≠ .durationTooLong) step.perform := by
    intro step member
    cases step with
    | again notice => exact absurd member (sender.again_not_mem_lineSteps raw notice)
    | stop failure =>
      refine .fail ?_
      rintro rfl
      exact sender.stop_durationTooLong_not_mem raw member
    | _ => exact Step.perform_failsBy_of_isPlain confined rfl
  intro failed
  exact (Step.performAll_failsBy each rig rfl).2 _ (sendLine_error failed) rfl

/-- Scanning a line follows the grammar of directives: it finds the directive that the line carries,
finds nothing where there is no marker, and refuses every other line, which the refusal names;
a delay that the refusal has to show has few enough digits for that. Conversely, every whole
number of seconds up to one day is found behind a text without markers, if it has few enough
digits. So whatever line is sent, the sender waits for at least one second and at most one day,
the length of that pause is the sum of the two, and only the surroundings can make the line end
for a number that is too large. -/
theorem scan_grammar (sender : Sender) (line : List Char) :
    (∀ directive, scan line = .ok (some directive) ↔ Carries line directive) ∧
      (scan line = .ok none ↔ ¬immediateMarker <:+: line ∧ ¬delayMarker <:+: line) ∧
      ((∃ refusal, scan line = .error refusal) ↔
        delayMarker <:+: line ∧ ∀ directive, ¬Carries line directive) ∧
      (∀ refusal, scan line = .error refusal → refusal.line = some line ∧
        ∀ seconds, refusal.flaw = .tooLong seconds → seconds.natAbs < 10 ^ digitLimit) ∧
      (∀ seconds : Int, seconds ≤ longestDelay →
        (Nat.toDigits 10 seconds.natAbs).length ≤ digitLimit →
        ¬immediateMarker <:+: line → ¬delayMarker <:+: line →
        scan (line ++ delayMarker ++ (toString seconds).toList) = .ok (some (.delay seconds))) ∧
      (∀ directive, scan (clean line) = .ok (some directive) → directive.needsSettle = true →
        1 ≤ directive.seconds ∧ directive.seconds ≤ longestDelay ∧
          Clock.settleTime? sender.pacing directive.seconds =
            some (Float.ofInt directive.seconds + sender.pacing.settleMargin)) ∧
      ∀ rig : Rig, (∀ fault ∈ rig.plan.faults, fault.failure ≠ .durationTooLong) →
        (sender.sendLine line rig).1 ≠ .error .durationTooLong := by
  refine ⟨fun _ => scan_eq_some_iff, scan_eq_none_iff, scan_eq_error_iff, ?_, ?_, ?_, ?_⟩
  · exact fun refusal refused => ⟨refusal_line refused, fun _ => scan_tooLong refused⟩
  · intro seconds short few absent absentToo
    exact scan_eq_some_iff.mpr (carries_toString absent absentToo few short)
  · intro directive found settles
    obtain ⟨positive, short⟩ := seconds_of_needsSettle found settles
    exact ⟨positive, short, Clock.settleTime?_of_day positive short sender.pacing⟩
  · exact fun rig unplanned => sender.sendLine_ne_durationTooLong unplanned line

/-- The number of a delay may have a sign, leading zeros and blanks around it, and the seconds of a
delay are found behind a text without markers. -/
theorem scan_grammar_of_delay :
    scan ['a', '~', 'Z', '\t', '+', '0', '7', ' '] = .ok (some (.delay 7)) ∧
      scan (['a'] ++ delayMarker ++ (toString (-5 : Int)).toList) = .ok (some (.delay (-5))) := by
  have writes : Writes Text.isNumberBlank (['\t'] ++ ['+'] ++ ['0', '7'] ++ [' ']) 7 :=
    .intro (List.all_eq_true.mp rfl) (.plus 7) (by decide) (List.all_eq_true.mp rfl) (by decide)
  have carries : Carries ['a', '~', 'Z', '\t', '+', '0', '7', ' '] (.delay 7) :=
    .delay (by decide) ⟨['a'], rfl, by decide⟩ writes (by decide)
  obtain ⟨found, -⟩ := scan_grammar {} ['a', '~', 'Z', '\t', '+', '0', '7', ' ']
  obtain ⟨-, -, -, -, written, -⟩ := scan_grammar {} ['a']
  refine ⟨(found (.delay 7)).mpr carries, written (-5) ?_ ?_ ?_ ?_⟩
  · decide
  · decide
  · decide
  · decide

/-- A separator that is a blank for the pattern is none for the number, also next to a blank that is
not ASCII: the line is refused. -/
theorem scan_of_separator :
    ¬immediateMarker <:+: ['~', 'Z', '\x1c', '5', '\u00a0'] ∧
      Follows delayMarker ['~', 'Z', '\x1c', '5', '\u00a0'] ['\x1c', '5', '\u00a0'] ∧
      Writes Text.isBlank ['\x1c', '5', '\u00a0'] 5 ∧
      (∃ char ∈ ['\x1c', '5', '\u00a0'], 0x80 ≤ char.toNat) ∧ (5 : Int) ≤ longestDelay ∧
      scan ['~', 'Z', '\x1c', '5', '\u00a0'] =
        .error ⟨.unreadable (.malformed ['\x1c', '5', '\u00a0']),
          some ['~', 'Z', '\x1c', '5', '\u00a0']⟩ := by
  have writes : Writes Text.isBlank (['\x1c'] ++ [] ++ ['5'] ++ ['\u00a0']) 5 :=
    .intro (List.all_eq_true.mp rfl) (.absent 5) (by decide) (List.all_eq_true.mp rfl) (by decide)
  exact ⟨by decide, ⟨[], rfl, by decide⟩, writes, ⟨'\u00a0', by decide, by decide⟩, by decide,
    by decide⟩

end Sender

end KeyFeed
