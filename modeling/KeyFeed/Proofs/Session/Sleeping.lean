/-
This file says how long the sender sleeps. It sleeps after a character, for the seconds of a
delay and the margin, and between two looks for a key, each time as long as its pacing says.
Nothing else that is done in a session, be it by the listener, the console or the port, adds
a pause to those: the pauses of a session are the pauses of its sender.
-/

import KeyFeed.Proofs.Session.Abiding
import KeyFeed.Proofs.Typing.Settling

namespace KeyFeed

open KeyFeed.Run KeyFeed.Script

open Rig (Notes Keyed)

/-- The lengths for which a sender sleeps. -/
inductive Sender.Pauses (sender : Sender) : Float → Prop where
  /-- After a character of a script. -/
  | character {duration : Float} (paced : sender.pacing.perCharacter = .value duration) :
      Pauses sender duration
  /-- After a delay of a second to a day. -/
  | settle {seconds : Int} (least : 1 ≤ seconds) (most : seconds ≤ longestDelay) :
      Pauses sender (Float.ofInt seconds + sender.pacing.settleMargin)
  /-- Between two looks for a key. -/
  | poll : Pauses sender sender.pacing.perPoll

/-- Every pause that is added has an allowed length. -/
def Rig.Sleeps (allowed : Float → Prop) (rig next : Rig) : Prop :=
  ∀ duration, .slept duration ∈ next.events → .slept duration ∈ rig.events ∨ allowed duration

namespace Rig.Sleeps

variable {allowed : Float → Prop} {rig next : Rig}

instance (allowed : Float → Prop) : IsPreorder Rig (Rig.Sleeps allowed) where
  refl _ _ := Or.inl
  trans _ _ _ earlier later duration slept :=
    (later duration slept).elim (earlier duration) Or.inr

theorem of_same (same : next.events = rig.events) : rig.Sleeps allowed next := by
  intro duration slept
  rw [same] at slept
  exact Or.inl slept

theorem of_added {added : List Event} (grown : next.events.toList = rig.events.toList ++ added)
    (awake : ∀ event ∈ added, event.isWriter = false) : rig.Sleeps allowed next := by
  intro duration slept
  rw [← Array.mem_toList_iff, grown, List.mem_append, Array.mem_toList_iff] at slept
  refine Or.inl (slept.resolve_right fun member => ?_)
  cases awake _ member

theorem of_aside (aside : rig.Aside next) : rig.Sleeps allowed next := by
  obtain ⟨added, grown, own⟩ := aside.events
  exact of_added grown fun event member => Event.isWriter_of_isAside (own event member)

theorem of_keyed (keyed : rig.Keyed next) : rig.Sleeps allowed next := by
  obtain ⟨added, grown, texts⟩ := keyed.events
  exact of_added grown fun event member => Event.isWriter_of_isText (texts event member)

end Rig.Sleeps

open Rig (Sleeps)

section Allowed

variable {allowed : Float → Prop}

theorem record_sleeps {event : Event}
    (permitted : ∀ duration, event = .slept duration → allowed duration) :
    Leads (Sleeps allowed) (record event) := by
  intro rig duration slept
  refine (Array.mem_push.mp slept).imp id fun same => ?_
  exact permitted duration same.symm

theorem reach_sleeps (point : Point) : Leads (Sleeps allowed) (reach point) := by
  intro rig
  rw [reach_snd]
  exact .of_same rfl

theorem log_sleeps (level : Level) (message : String) :
    Leads (Sleeps allowed) (log level message) :=
  record_sleeps nofun

/-! ### The clock and the link -/

theorem Clock.sleep_sleeps {duration : Float} (permitted : allowed duration) :
    Leads (Sleeps allowed) (sleep duration) := by
  have begins : Leads (Sleeps allowed) (record (.slept duration)) :=
    record_sleeps fun _ same => by cases same; exact permitted
  refine begins.bind fun _ => (reach_sleeps _).bind fun _ => Leads.look fun rig => ?_
  have delivers : Leads (Sleeps allowed) (Echo.deliverAll (rig.plan.arrivals rig.tally.sleep)) :=
    (Echo.deliverAll_aside _).mono fun _ _ => .of_aside
  exact delivers.bind (fun _ => Console.passTime_keyed.mono fun _ _ => .of_keyed) rig

namespace Link

theorem write_sleeps (bytes : List UInt8) : Leads (Sleeps allowed) (write bytes) := by
  refine write_leads (fun event ofWrite => record_sleeps ?_) (fun point _ => reach_sleeps point)
    (dropPort_closePort_aside.mono fun _ _ => .of_aside) bytes
  rintro duration rfl
  cases ofWrite

theorem closeLink_sleeps : Leads (Sleeps allowed) closeLink := by
  have shuts : Leads (Sleeps allowed) shutPort :=
    (record_sleeps nofun).bind fun _ => reach_sleeps _
  have closes : Leads (Sleeps allowed) closePort :=
    shuts.bind fun _ => (Echo.deliver_aside _).mono fun _ _ => .of_aside
  exact closeLink_leads closes log_sleeps fun _ => .of_same rfl

theorem openLink_sleeps : Leads (Sleeps allowed) openLink := by
  have logs : Leads (Sleeps allowed) logOpened :=
    Leads.look fun rig => (Leads.orFail _ _).bind (fun _ => log_sleeps _ _) rig
  have obtains : Leads (Sleeps allowed) (change fun rig => { rig with port := .held true }) :=
    fun _ => .of_same rfl
  refine Leads.look fun rig => ?_
  split
  · exact log_sleeps _ _ rig
  · refine Leads.bind (record_sleeps nofun) (fun _ => ?_) rig
    refine (reach_sleeps .opening).attempt.bind fun outcome => ?_
    split
    · exact obtains.bind fun _ => logs
    · exact .ite ((log_sleeps _ _).bind fun _ => .fail _) (.fail _)

end Link

/-! ### Scripts -/

theorem PassNotice.nextPass_sleeps (notice : PassNotice) :
    Leads (Sleeps allowed) notice.nextPass := by
  refine nextPass_leads (fun _ => .of_same rfl) (fun event silent => record_sleeps ?_)
    Link.closeLink_sleeps notice
  rintro duration rfl
  cases silent

namespace Step

theorem perform_sleeps {step : Step}
    (permitted : ∀ duration, step = .sleep duration → allowed duration) :
    Leads (Sleeps allowed) step.perform := by
  cases step with
  | write bytes => exact Link.write_sleeps bytes
  | sleep duration => exact Clock.sleep_sleeps (permitted duration rfl)
  | note message => exact log_sleeps _ _
  | again notice => exact notice.nextPass_sleeps
  | stop failure => exact .fail failure

theorem performAll_sleeps {steps : List Step}
    (permitted : ∀ duration, .sleep duration ∈ steps → allowed duration) :
    Leads (Sleeps allowed) (performAll steps) := by
  induction steps with
  | nil => exact .pure ()
  | cons step rest inductionHypothesis =>
    refine (perform_sleeps fun duration same => ?_).bind fun _ => inductionHypothesis ?_
    · exact permitted duration (same ▸ List.mem_cons_self)
    · exact fun duration member => permitted duration (.tail step member)

end Step

end Allowed

namespace Sender

variable {sender : Sender} {duration : Float}

theorem pauses_of_mem_lineSteps {raw : List Char}
    (member : .sleep duration ∈ sender.lineSteps raw) : sender.Pauses duration := by
  rcases List.mem_append.mp member with typed | scanned
  · obtain ⟨char, _, ofChar⟩ := List.mem_flatMap.mp typed
    unfold charSteps pauseStep at ofChar
    split at ofChar
    · simp at ofChar
    · split at ofChar
      · rename_i paced
        simp only [List.mem_cons, List.not_mem_nil, or_false, reduceCtorEq, false_or,
          Step.sleep.injEq] at ofChar
        subst ofChar
        exact .character paced
      · simp at ofChar
  · unfold scanSteps directiveSteps at scanned
    split at scanned
    · simp at scanned
    · simp at scanned
    · rename_i directive found
      split at scanned
      · rename_i settles
        obtain ⟨least, most⟩ := seconds_of_needsSettle found settles
        rw [settleSteps, Clock.settleTime?_of_day least most] at scanned
        simp only [List.mem_cons, List.not_mem_nil, or_false, reduceCtorEq, false_or,
          Step.sleep.injEq] at scanned
        subst scanned
        exact .settle least most
      · simp at scanned

theorem pauses_of_mem_textSteps {text : List Char}
    (member : .sleep duration ∈ sender.textSteps text) : sender.Pauses duration := by
  obtain ⟨piece, _, ofLine⟩ := List.mem_flatMap.mp member
  exact pauses_of_mem_lineSteps ofLine

theorem pauses_of_mem_passSteps {notice : PassNotice} {text : List Char} {bound : Nat}
    (member : .sleep duration ∈ sender.passSteps notice text bound) : sender.Pauses duration := by
  induction bound with
  | zero => cases List.mem_singleton.mp member
  | succ bound inductionHypothesis =>
    rcases List.mem_append.mp member with inText | later
    · exact pauses_of_mem_textSteps inText
    · rcases List.mem_cons.mp later with impossible | inPasses
      · cases impossible
      · exact inductionHypothesis inPasses

/-- The pauses of a script, sent once or repeatedly, are those of its sender. -/
theorem sendScript_sleeps (sender : Sender) (notice : PassNotice) (text : List Char)
    (again : Bool) : Leads (Sleeps sender.Pauses) (sender.sendScript notice text again) := by
  intro rig
  have counts : rig.Sleeps sender.Pauses { rig with pass := 1 } := .of_same rfl
  have begins := IsTrans.trans _ _ _ counts (.of_keyed (ready_notes text again rig).keyed)
  rw [sendScript_apply]
  refine IsTrans.trans _ _ _ begins (Step.performAll_sleeps (fun duration member => ?_) _)
  unfold scriptSteps at member
  split at member
  · exact pauses_of_mem_passSteps member
  · exact pauses_of_mem_textSteps member

end Sender

/-! ### The pause after a character -/

/-- A pause that begins is among the events, however it ends. -/
theorem Clock.slept_mem_sleep (duration : Float) (rig : Rig) :
    .slept duration ∈ (sleep duration rig).2.events := by
  have begun : Event.slept duration ∈ (rig.events.push (.slept duration)).toList :=
    Array.mem_toList_iff.mpr Array.mem_push_self
  exact Array.mem_toList_iff.mp ((sleep_passes duration rig).grown.subset begun)

namespace Sender

theorem typeCharacters_sends (sender : Sender) (text : List Char) :
    Leads Rig.Sends (sender.typeCharacters text) := by
  have pauses : Leads Rig.Sends (Clock.pause sender.pacing.perCharacter) := by
    cases sender.pacing.perCharacter with
    | value duration => exact Clock.sleep_sends duration
    | blank => exact .fail _
  induction text with
  | nil => exact .pure ()
  | cons char rest inductionHypothesis =>
    have encodes : Leads Rig.Sends (sender.encode [char]) := .resume _
    exact encodes.bind fun bytes => (Link.write_sends bytes).bind fun _ => pauses.bind fun _ =>
      inductionHypothesis

/-- After a character that is written the sender sleeps as long as is given, however long that
is. -/
theorem slept_of_written {sender : Sender} {duration : Float}
    (paced : sender.pacing.perCharacter = .value duration) {char : Char} {bytes : List UInt8}
    (encoded : sender.bytes [char] = .ok bytes) {rig next : Rig}
    (written : Link.write bytes rig = (.ok (), next)) (rest : List Char) :
    .slept duration ∈ (sender.typeCharacters (char :: rest) rig).2.events := by
  have encodes : sender.encode [char] rig = (.ok bytes, rig) := by
    rw [encode, encoded]
    rfl
  have slept := Clock.slept_mem_sleep duration next
  rw [typeCharacters, bind_of_ok encodes, bind_of_ok written, paced]
  show _ ∈ ((Clock.sleep duration >>= fun _ => sender.typeCharacters rest) next).2.events
  rcases outcome : Clock.sleep duration next with ⟨failure | ⟨⟩, later⟩
  · rw [outcome] at slept
    rw [bind_of_error outcome]
    exact slept
  · rw [outcome] at slept
    rw [bind_of_ok outcome]
    have grown := (sender.typeCharacters_sends rest later).grown
    exact Array.mem_toList_iff.mp (grown.subset (Array.mem_toList_iff.mpr slept))

end Sender

/-! ### Sessions -/

namespace Console

variable {allowed : Float → Prop}

theorem start_sleeps : Leads (Sleeps allowed) start := by
  refine start_leads (fun event ofConsole => record_sleeps ?_) (reach_sleeps _) (reach_sleeps _)
    log_sleeps fun _ => .of_same rfl
  rintro duration rfl
  cases ofConsole

theorem stop_sleeps : Leads (Sleeps allowed) stop := by
  have restores : Leads (Sleeps allowed) (record .consoleRestored) := record_sleeps nofun
  exact stop_leads restores fun _ _ => .of_keyed

end Console

namespace Session

/-- The pauses of the interactive phase are those of its sender. -/
theorem interact_sleeps (sender : Sender) : Leads (Sleeps sender.Pauses) (interact sender) := by
  have forwards (bound : Nat) : Leads (Sleeps sender.Pauses) (forward sender bound) :=
    forward_leads (fun _ _ => .of_keyed) (Clock.sleep_sleeps .poll) Link.write_sleeps
      (fun _ => .of_same rfl) bound
  exact Console.start_sleeps.bind fun _ => Leads.look fun rig =>
    (forwards (forwardBound rig)).ensuring Console.stop_sleeps rig

variable {allowed : Float → Prop}

theorem openSession_sleeps : Leads (Sleeps allowed) openSession := by
  have runs : Leads (Sleeps allowed) (change fun rig => { rig with running := true }) :=
    fun _ => .of_same rfl
  have listens : Leads (Sleeps allowed) Echo.start :=
    (log_sleeps _ _).bind fun _ _ => .of_same rfl
  exact Link.openLink_sleeps.bind fun _ => runs.bind fun _ => listens.bind fun _ => log_sleeps _ _

theorem closeSession_sleeps : Leads (Sleeps allowed) closeSession := by
  have ends : Leads (Sleeps allowed) (change fun rig => { rig with running := false }) :=
    fun _ => .of_same rfl
  have joins : Leads (Sleeps allowed) Echo.join := by
    intro rig
    have sleeps : Sleeps allowed _ (Echo.join rig).2 := .of_aside (Echo.join_aside rig)
    exact sleeps
  exact ends.bind fun _ => joins.bind fun _ => Link.closeLink_sleeps.bind fun _ => log_sleeps _ _

end Session

end KeyFeed
