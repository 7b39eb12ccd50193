/-
This file says what a run that ends well guarantees. The status of success alone is
looked at: the port was granted; every call of the sender has passed, and nothing that
was read from the port failed at the transport, whether it arrived during a sleep or
while the listener was waited for; a script was sent as a whole, and once; and the
interactive phase was ended by a cancel key. A read that fails late, when the sender
makes no further call, fails nobody; only the fault that the listener keeps tells of it.
-/

import KeyFeed.Proofs.Command.Custody
import KeyFeed.Proofs.Session.Success

namespace KeyFeed.Command

open KeyFeed.Run KeyFeed.Script KeyFeed.Session

open Rig (Thrives Keyed)

/-! ### Where the status of success comes from -/

theorem verdict_ne_done {failure : Failure} {status : Status} {message : String}
    (found : verdict failure = some (status, message)) : status ≠ .done := by
  cases failure <;> cases found <;> exact nofun

/-- Work that fails is reported under another status than that of success. -/
theorem workOrReport_ok {options : Options} {script : Option (String × List Char)}
    {rig next : Rig} {status? : Option Status}
    (succeeded : workOrReport options script rig = (.ok status?, next)) :
    status? ≠ some .done ∧ (status? = none → work options script rig = (.ok (), next)) := by
  unfold workOrReport at succeeded
  rw [attempt_bind] at succeeded
  rcases worked : work options script rig with ⟨failure | _, middle⟩
  · rw [worked] at succeeded
    dsimp only at succeeded
    cases found : verdict failure with
    | none =>
      rw [found] at succeeded
      cases succeeded
    | some judged =>
      rw [found] at succeeded
      cases succeeded
      exact ⟨fun same => verdict_ne_done found (Option.some.inj same), nofun⟩
  · rw [worked] at succeeded
    cases succeeded
    exact ⟨nofun, fun _ => rfl⟩

theorem finalStatus_done {rig next : Rig} (done : finalStatus rig = (.ok .done, next)) :
    rig.listener.fault? = none ∧ next = rig := by
  unfold finalStatus at done
  rw [look_bind] at done
  cases fault : rig.listener.fault? with
  | none =>
    rw [fault] at done
    cases done
    exact ⟨rfl, rfl⟩
  | some kept =>
    rw [fault] at done
    cases done

theorem reportUnavailable_ne_done (reason port : String) (rig next : Rig) :
    reportUnavailable reason port rig ≠ (.ok .done, next) := by
  intro done
  obtain ⟨known, middle, _, later⟩ := bind_eq_ok_iff.mp done
  split at later
  · cases later
  · obtain ⟨_, _, _, impossible⟩ := bind_eq_ok_iff.mp later
    cases impossible

/-- A session that ends well is opened, works with success, and closes well, and nobody has met a
fault of the link. -/
theorem holdSession_done {options : Options} {script : Option (String × List Char)}
    {rig final : Rig} (done : holdSession options script rig = (.ok .done, final)) :
    ∃ opened worked, openSession rig = (.ok (), opened) ∧
      work options script opened = (.ok (), worked) ∧ final = (closeSession worked).2 ∧
      final.listener.fault? = none := by
  unfold holdSession at done
  rw [attempt_bind] at done
  rcases outcome : openSession rig with ⟨failure | _, opened⟩
  · rw [outcome] at done
    cases failure with
    | linkUnavailable reason port => exact absurd done (reportUnavailable_ne_done _ _ _ _)
    | _ => cases done
  · rw [outcome] at done
    obtain ⟨status?, closed, ensured, ended⟩ := bind_eq_ok_iff.mp done
    obtain ⟨worked, succeeded, closes⟩ := ensuring_eq_ok_iff.mp ensured
    obtain ⟨notDone, works⟩ := workOrReport_ok succeeded
    cases status? with
    | some status =>
      cases ended
      exact absurd rfl notDone
    | none =>
      obtain ⟨faultless, rfl⟩ := finalStatus_done ended
      refine ⟨opened, worked, rfl, works rfl, ?_, faultless⟩
      rw [closes]

/-! ### The script -/

/-- The state after a line was printed. -/
def said (line : String) (rig : Rig) : Rig :=
  { rig with events := rig.events.push (.printed (line ++ "\n")) }

theorem said_keyed (line : String) (rig : Rig) : rig.Keyed (said line rig) :=
  (say_notes line rig).keyed

theorem sendFile_thrives (options : Options) (script : Option (String × List Char)) :
    Achieves Thrives (sendFile options script) := by
  have printed (line : String) : Achieves Thrives (say line) :=
    Leads.achieves fun rig => Thrives.of_keyed (said_keyed line rig)
  unfold sendFile
  split
  · exact .pure ()
  · refine (printed _).bind fun _ => ?_
    exact (options.sender.sendScript_thrives _ _).bind fun _ => printed _

/-- A script is sent with success once, and what the adapter notices are its steps. -/
theorem sendFile_ok {options : Options} {path : String} {text : List Char} {rig next : Rig}
    (succeeded : sendFile options (some (path, text)) rig = (.ok (), next)) :
    (options.again = none ∨ text = []) ∧
      Step.outcome (options.sender.textSteps text) = .ok () ∧
      Event.only Event.isWriter next.events =
        Event.only Event.isWriter rig.events ++ Step.trace (options.sender.textSteps text) := by
  have silent (line : String) (rig : Rig) : Event.only Event.isWriter (said line rig).events =
      Event.only Event.isWriter rig.events := Event.only_push_of_not_sort rfl _
  obtain ⟨_, begun, announced, later⟩ := bind_eq_ok_iff.mp succeeded
  obtain ⟨_, sent, sends, ended⟩ := bind_eq_ok_iff.mp later
  obtain ⟨once, well, left⟩ := Sender.sendScript_ok sends
  cases announced
  cases ended
  refine ⟨once.imp_left fun never => by simpa using never, well, ?_⟩
  refine (silent "!!! END OF FILE" sent).trans (left.trans ?_)
  exact congrArg (· ++ _) (silent s!"Sending file [{path}]" rig)

theorem scriptOf_ok {opening : Opening} {options : Options} {script : Option (String × List Char)}
    (loaded : scriptOf opening options = .ok script) {path : String}
    (named : options.file = some path) (nonempty : path ≠ "") :
    ∃ text, script = some (path, text) := by
  unfold scriptOf at loaded
  rw [named] at loaded
  dsimp only at loaded
  rw [if_neg nonempty] at loaded
  cases read : loadScript opening path with
  | error refusal =>
    rw [read] at loaded
    cases loaded
  | ok text =>
    rw [read] at loaded
    cases loaded
    exact ⟨text, rfl⟩

/-! ### The interactive phase -/

theorem forwardKeys_ok {options : Options} (interactive : options.noInteractive = false)
    {rig next : Rig} (inactive : rig.keyboard.active = false)
    (succeeded : forwardKeys options rig = (.ok (), next)) :
    ∃ announced last ended,
      say "INTERACTIVE MODE: press ESC or CTRL+C to exit" rig = (.ok (), announced) ∧
      Console.start announced = (.ok (), Console.readied announced) ∧
      Forwards options.sender (Console.readied announced) last ∧ Ends last ended ∧
      (Console.restored ended).Keyed next := by
  unfold forwardKeys at succeeded
  rw [interactive] at succeeded
  obtain ⟨_, announced, printed, later⟩ := bind_eq_ok_iff.mp succeeded
  have notes := (say_notes _).achieves rig _ announced printed
  have stillInactive : announced.keyboard.active = false := by
    rw [notes.frame]
    exact inactive
  obtain ⟨begun, last, ended, forwards, ends, restored⟩ := interact_ok stillInactive later
  exact ⟨announced, last, ended, printed, begun, forwards, ends, restored⟩

/-! ### Work without harm -/

/-- Every call of the sender between two states has passed, no read has failed, and the listener
goes on. -/
structure Unharmed (rig next : Rig) : Prop where
  passed : ∀ point, point.isSending = true →
    Throughout (rig.plan.Passes point) (rig.tally.get point) (next.tally.get point)
  delivered : Throughout rig.plan.Delivers rig.tally.sleep next.tally.sleep
  listener : next.listener = .listening
  plan : next.plan = rig.plan
  finalArrivals : next.finalArrivals = rig.finalArrivals

namespace Unharmed

variable {rig next : Rig}

theorem of_thrives (attends : rig.Attends) (thrives : rig.Thrives next)
    (undisturbed : Throughout rig.plan.Undisturbed rig.tally.sleep next.tally.sleep)
    (kept : ¬next.Lost) : Unharmed rig next ∧ next.Attends := by
  rcases thrives.attends attends undisturbed with lost | ⟨still, delivered⟩
  · exact absurd lost kept
  · exact ⟨⟨thrives.passed, delivered, still.listener, thrives.plan, thrives.finalArrivals⟩, still⟩

/-- What makes no call and does not touch the listener does no harm. -/
theorem idle {last : Rig} (unharmed : Unharmed rig next)
    (tally : ∀ point, point.isSending = true → last.tally.get point = next.tally.get point)
    (listener : last.listener = next.listener) (plan : last.plan = next.plan)
    (finalArrivals : last.finalArrivals = next.finalArrivals) : Unharmed rig last where
  passed point sending := by
    rw [tally point sending]
    exact unharmed.passed point sending
  delivered := by
    rw [show last.tally.sleep = next.tally.sleep from tally .sleep rfl]
    exact unharmed.delivered
  listener := listener.trans unharmed.listener
  plan := plan.trans unharmed.plan
  finalArrivals := finalArrivals.trans unharmed.finalArrivals

end Unharmed

/-- The console is restored after rounds that came to an end, without harm unless the link is
lost; then it was a cancel key that ended them. -/
theorem unharmed_of_ends {rig last ended next : Rig} (attends : rig.Attends)
    (thrives : rig.Thrives last) (ends : Ends last ended)
    (keyed : (Console.restored ended).Keyed next)
    (undisturbed : Throughout rig.plan.Undisturbed rig.tally.sleep next.tally.sleep)
    (kept : ¬next.Lost) :
    Unharmed rig next ∧ ∃ key keys, last.isLive = true ∧
      last.keyboard.keys.read? = some (key, keys) ∧ key.isCancel = true ∧
      ended = cancelled keys last := by
  have restored := IsTrans.trans _ _ _ (Console.restored_thrives ended) (Thrives.of_keyed keyed)
  have sameCount : next.tally.sleep = ended.tally.sleep := by
    rw [keyed.frame]
    rfl
  rw [sameCount] at undisturbed
  rcases ends with ⟨dead, rfl⟩ | ⟨key, keys, live, pending, cancel, rfl⟩
  · have lastKept : ¬ended.Lost := fun lost => kept (restored.lost lost)
    obtain ⟨_, still⟩ := Unharmed.of_thrives attends thrives undisturbed lastKept
    rw [still.isLive] at dead
    cases dead
  · have lastKept : ¬last.Lost := fun lost => kept (restored.lost lost)
    obtain ⟨unharmed, _⟩ := Unharmed.of_thrives attends thrives undisturbed lastKept
    refine ⟨?_, key, keys, live, pending, cancel, rfl⟩
    rw [keyed.frame]
    refine unharmed.idle (fun point sending => ?_) rfl rfl rfl
    cases point <;> first | rfl | cases sending

/-- After the script was sent the console was made ready, keys were forwarded until a cancel key was
read, and the console was restored. -/
structure CancelledAfter (sender : Sender) (sent worked announced last : Rig) (key : Key)
    (keys : Keys) : Prop where
  printed : say "INTERACTIVE MODE: press ESC or CTRL+C to exit" sent = (.ok (), announced)
  begun : Console.start announced = (.ok (), Console.readied announced)
  forwards : Forwards sender (Console.readied announced) last
  live : last.isLive = true
  pending : last.keyboard.keys.read? = some (key, keys)
  cancel : key.isCancel = true
  keyed : (Console.restored (cancelled keys last)).Keyed worked

/-- Work that succeeds and has not lost the link has done no harm: the script was sent, and then
keys were forwarded until a cancel key was read, unless the options forbid it. -/
theorem work_ok {options : Options} {script : Option (String × List Char)} {rig worked : Rig}
    (attends : rig.Attends) (inactive : rig.keyboard.active = false)
    (succeeded : work options script rig = (.ok (), worked))
    (undisturbed : Throughout rig.plan.Undisturbed rig.tally.sleep worked.tally.sleep)
    (kept : ¬worked.Lost) :
    ∃ sent, sendFile options script rig = (.ok (), sent) ∧ Unharmed rig worked ∧
      ((options.noInteractive = true ∧ worked = sent) ∨
        (options.noInteractive = false ∧ ∃ announced last key keys,
          CancelledAfter options.sender sent worked announced last key keys)) := by
  obtain ⟨_, sent, sends, later⟩ := bind_eq_ok_iff.mp succeeded
  have thrives := sendFile_thrives options script rig _ sent sends
  refine ⟨sent, sends, ?_⟩
  cases interactive : options.noInteractive with
  | true =>
    rw [forwardKeys, interactive] at later
    cases later
    exact ⟨(Unharmed.of_thrives attends thrives undisturbed kept).1, Or.inl ⟨rfl, rfl⟩⟩
  | false =>
    have sending := (sendFile_sends options script).achieves rig _ sent sends
    obtain ⟨announced, last, ended, printed, begun, forwards, ends, keyed⟩ :=
      forwardKeys_ok interactive (sending.active.trans inactive) later
    have notes := (say_notes _).achieves sent _ announced printed
    have readied := IsTrans.trans _ _ _ (Thrives.of_keyed notes.keyed)
      (Console.readied_thrives announced)
    have thrivesOn := IsTrans.trans _ _ _ thrives (IsTrans.trans _ _ _ readied forwards.thrives)
    obtain ⟨unharmed, key, keys, live, pending, cancel, rfl⟩ :=
      unharmed_of_ends attends thrivesOn ends keyed undisturbed kept
    exact ⟨unharmed, Or.inr
      ⟨rfl, announced, last, key, keys,
        ⟨printed, begun, forwards, live, pending, cancel, keyed⟩⟩⟩

/-! ### The whole run -/

/-- The session was opened, the script was sent, the console was made ready, and keys were
forwarded round by round until a cancel key was read. -/
def EndedByKey (options : Options) (script : Option (String × List Char)) (ready final : Rig) :
    Prop :=
  ∃ opened sent announced begun last key keys,
    openSession ready = (.ok (), opened) ∧
    sendFile options script opened = (.ok (), sent) ∧
    say "INTERACTIVE MODE: press ESC or CTRL+C to exit" sent = (.ok (), announced) ∧
    Console.start announced = (.ok (), begun) ∧
    Forwards options.sender begun last ∧ last.isLive = true ∧
    last.keyboard.keys.read? = some (key, keys) ∧ key.isCancel = true ∧
    last.events.toList ++ [.logged .info "Cancel key pressed, ending session"] <+:
      final.events.toList

/-- What a run that ends well guarantees, with the state in which its session begins and the state
at the end. -/
structure Succeeded (options : Options) (script : Option (String × List Char))
    (settings : Link.Settings) (plan : Plan) (finalArrivals : List Arrival)
    (ready final : Rig) : Prop where
  /-- The port was asked for, and granted. -/
  opened : .opening settings ∈ final.events.toList ∧ plan.fault? .opening 1 = none
  /-- Every write, every emptying of the buffer of the port and every sleep has passed. -/
  calls : ∀ point, point.isSending = true →
    Throughout (plan.Passes point) 0 (final.tally.get point)
  /-- No read during a sleep failed at the transport. -/
  reads : Throughout plan.Delivers 0 final.tally.sleep
  /-- Nor did the read that is made while the listener is waited for. -/
  lastRead : ∀ arrival ∈ finalArrivals.head?, arrival.isFault = false
  /-- A script was not repeated unless it is empty, and was sent as a whole: on a calm rig it ends
  well and leaves just what was written before the console was asked for. -/
  sent : ∀ path, options.file = some path → path ≠ "" → ∃ text, script = some (path, text) ∧
    (options.again = none ∨ text = []) ∧ ∀ (quiet : Rig) (notice : PassNotice), quiet.Calm →
      let pass := options.sender.sendScript notice text false quiet
      pass.1 = .ok () ∧ Event.only Event.isWriter pass.2.events =
        Event.only Event.isWriter quiet.events ++
          (Event.beforeConsole final.events).filter Event.isWriter
  /-- The interactive phase was ended by a cancel key. -/
  cancelled : options.noInteractive = false → EndedByKey options script ready final

theorem readied_events (rig : Rig) :
    (Console.readied rig).events.toList =
      rig.events.toList ++
        [.consoleCreated, .consoleSetUp, .logged .debug "Keyboard reader started"] := by
  simp [Console.readied, Console.reading, Console.prepared, Console.created]

/-- What is added after the cancel key was read comes after the record of it. -/
theorem cancelled_grown {last worked : Rig} {keys : Keys}
    (keyed : (Console.restored (cancelled keys last)).Keyed worked) :
    last.events.toList ++ [.logged .info "Cancel key pressed, ending session"] <+:
      worked.events.toList := by
  obtain ⟨added, grown, _⟩ := keyed.events
  refine ⟨.consoleRestored :: added, ?_⟩
  rw [grown]
  simp [Console.restored, cancelled, Console.left]

namespace CancelledAfter

variable {sender : Sender} {sent worked announced last : Rig} {key : Key} {keys : Keys}

/-- The console was made ready soon after the script was sent, and before anything else. -/
theorem readied (cancels : CancelledAfter sender sent worked announced last key keys) :
    sent.Notes announced ∧ (Console.readied announced).events.toList <+: worked.events.toList := by
  refine ⟨(say_notes _).achieves _ _ _ cancels.printed, ?_⟩
  refine cancels.forwards.goesOn.grown.trans ?_
  exact (List.prefix_append _ _).trans (cancelled_grown cancels.keyed)

/-- A run whose work ends so was ended by a cancel key, whatever is added after it. -/
theorem endedByKey {options : Options} {script : Option (String × List Char)}
    {ready opened final : Rig}
    (cancels : CancelledAfter options.sender sent worked announced last key keys)
    (opens : openSession ready = (.ok (), opened))
    (sends : sendFile options script opened = (.ok (), sent))
    (grown : worked.events.toList <+: final.events.toList) :
    EndedByKey options script ready final :=
  ⟨opened, sent, announced, _, last, key, keys, opens, sends, cancels.printed, cancels.begun,
    cancels.forwards, cancels.live, cancels.pending, cancels.cancel,
    (cancelled_grown cancels.keyed).trans grown⟩

end CancelledAfter

/-- What was written before the console was asked for was written when the script was sent. -/
theorem work_writers {sent worked final : Rig} {added : List Event}
    (unused : Event.only Event.isConsole sent.events = [])
    (works : worked = sent ∨
      ∃ announced : Rig, sent.Notes announced ∧
        (Console.readied announced).events.toList <+: worked.events.toList)
    (grown : final.events.toList = worked.events.toList ++ added)
    (silent : ∀ event ∈ added, event.isWriter = false ∧ event.isConsole = false) :
    (Event.beforeConsole final.events).filter Event.isWriter =
      Event.only Event.isWriter sent.events := by
  rcases works with rfl | ⟨announced, notes, before⟩
  · have shape : final.events.toList = worked.events.toList ++ added ++ [] := by
      rw [grown, List.append_nil]
    exact Event.beforeConsole_writers unused silent (by simp) shape
  · obtain ⟨front, announces, texts⟩ := notes.events
    obtain ⟨rest, whole⟩ := before
    rw [readied_events, announces] at whole
    have shape : final.events.toList = sent.events.toList ++ front ++
        .consoleCreated :: .consoleSetUp :: .logged .debug "Keyboard reader started" ::
          (rest ++ added) := by
      rw [grown, ← whole]
      simp
    refine Event.beforeConsole_writers unused (fun event member => ?_) ?_ shape
    · exact ⟨Event.isWriter_of_isText (texts event member),
        Event.isConsole_of_isText (texts event member)⟩
    · intro event isFirst
      cases isFirst
      rfl

/-- The script that was sent in a session is the one that was asked for, as a whole and once. -/
theorem sendFile_whole {opening : Opening} {options : Options}
    {script : Option (String × List Char)} (loaded : scriptOf opening options = .ok script)
    {rig sent : Rig} (sends : sendFile options script rig = (.ok (), sent))
    (fresh : Event.only Event.isWriter rig.events = []) {path : String}
    (named : options.file = some path) (nonempty : path ≠ "") :
    ∃ text, script = some (path, text) ∧ (options.again = none ∨ text = []) ∧
      ∀ (quiet : Rig) (notice : PassNotice), quiet.Calm →
        let pass := options.sender.sendScript notice text false quiet
        pass.1 = .ok () ∧ Event.only Event.isWriter pass.2.events =
          Event.only Event.isWriter quiet.events ++ Event.only Event.isWriter sent.events := by
  obtain ⟨text, rfl⟩ := scriptOf_ok loaded named nonempty
  obtain ⟨once, well, left⟩ := sendFile_ok sends
  refine ⟨text, rfl, once, fun quiet notice calm => ?_⟩
  obtain ⟨ended, passes⟩ := options.sender.sendScript_calm calm notice text
  refine ⟨ended.trans well, passes.trans ?_⟩
  rw [left, fresh]
  rfl

/-- A session in which nothing was sent yet, and the console was not asked for. -/
structure Fresh (plan : Plan) (finalArrivals : List Arrival) (rig : Rig) : Prop where
  plan : rig.plan = plan
  finalArrivals : rig.finalArrivals = finalArrivals
  uncounted : ∀ point, point.isSending = true → rig.tally.get point = 0
  inactive : rig.keyboard.active = false
  unwritten : Event.only Event.isWriter rig.events = []
  unshown : Event.only Event.isConsole rig.events = []

section Session

variable {plan : Plan} {finalArrivals : List Arrival} {batches : List (List Keystroke)}

section Opened

variable {settings : Link.Settings} {ready : Rig}
  (begins : { start plan finalArrivals batches with settings := settings }.Notes ready)
include begins

theorem fresh_opened (short : String) : Fresh plan finalArrivals (opened short ready) := by
  have silent (sort : Event → Bool) (foreign : ∀ event, event.isText = true → sort event = false) :
      Event.only sort ready.events = [] := begins.keyed.only_of_foreign foreign
  refine ⟨?_, ?_, fun point sending => ?_, ?_, ?_, ?_⟩
  · show ready.plan = plan
    rw [begins.frame]
    rfl
  · show ready.finalArrivals = finalArrivals
    rw [begins.frame]
    rfl
  · show (ready.tally.bump .opening).get point = 0
    rw [begins.frame]
    cases point <;> first | rfl | cases sending
  · show ready.keyboard.active = false
    rw [begins.frame]
    rfl
  · rw [Event.only_append (opened_events short ready),
      silent Event.isWriter fun event => Event.isWriter_of_isText]
    rfl
  · rw [Event.only_append (opened_events short ready),
      silent Event.isConsole fun event => Event.isConsole_of_isText]
    rfl

theorem attends_opened (orderly : plan.Orderly) (short : String) :
    (opened short ready).Attends := by
  have output : (opened short ready).sink = .output := by
    show ready.sink = .output
    rw [begins.frame]
    rfl
  refine ⟨rfl, rfl, rfl, output, ?_⟩
  rw [(fresh_opened begins short).plan]
  exact orderly

end Opened

/-- Closing a session makes none of the calls that sending makes. -/
theorem closeSession_sending {point : Point} (sending : point.isSending = true) (rig : Rig) :
    (closeSession rig).2.tally.get point = rig.tally.get point := by
  refine closeSession_tally ?_ ?_ rig
  · rintro rfl
    cases sending
  · rintro rfl
    cases sending

/-- Where the link is not lost, the read that is made while the listener is waited for has not failed
at the transport. -/
theorem isFault_of_kept {worked : Rig} {arrival : Arrival} (listening : worked.listener = .listening)
    (orderly : worked.plan.Orderly) (kept : ¬(closeSession worked).2.Lost)
    (isFirst : worked.finalArrivals.head? = some arrival) : arrival.isFault = false :=
  Bool.eq_false_iff.mpr fun fault => kept (closeSession_of_fault listening orderly isFirst fault)

theorem holdSession_succeeds {opening : Opening} {options : Options}
    {script : Option (String × List Char)} {settings : Link.Settings} {ready final : Rig}
    (loaded : scriptOf opening options = .ok script) (orderly : plan.Orderly)
    (begins : { start plan finalArrivals batches with settings := settings }.Notes ready)
    (undisturbed : Throughout plan.Undisturbed 0 final.tally.sleep)
    (done : holdSession options script ready = (.ok .done, final)) :
    Succeeded options script settings plan finalArrivals ready final := by
  obtain ⟨opened, worked, opens, works, rfl, faultless⟩ := holdSession_done done
  have closed : ready.port.isOpen = false := by
    rw [begins.frame]
    rfl
  obtain ⟨granted, short, rfl⟩ := openSession_ok closed opens
  have fresh := fresh_opened begins short
  have attends := attends_opened begins orderly short
  have kept : ¬(closeSession worked).2.Lost := by
    rintro ⟨fault, ended⟩
    rw [ended] at faultless
    cases faultless
  have sameCount : (closeSession worked).2.tally.sleep = worked.tally.sleep :=
    @closeSession_sending .sleep rfl worked
  have unslept : (opened short ready).tally.sleep = 0 := fresh.uncounted .sleep rfl
  rw [sameCount, ← unslept, ← fresh.plan] at undisturbed
  obtain ⟨sent, sends, unharmed, ways⟩ :=
    work_ok attends fresh.inactive works undisturbed fun lost => kept (closeSession_lost lost)
  have sending := (sendFile_sends options script).achieves _ _ _ sends
  obtain ⟨added, grown, silent⟩ := closeSession_adds worked
  refine ⟨⟨?_, ?_⟩, fun point calls => ?_, ?_, fun arrival isFirst => ?_,
    fun path named nonempty => ?_, fun interactive => ?_⟩
  · have keeps := (work_keeps options script).achieves _ _ _ works
    have sameSettings : ready.settings = settings := by rw [begins.frame]
    rw [grown]
    refine List.mem_append_left added (keeps.grown.subset ?_)
    rw [opened_events, ← sameSettings]
    simp
  · rw [begins.frame] at granted
    exact granted
  · have passed := unharmed.passed point calls
    rwa [fresh.plan, fresh.uncounted point calls, ← closeSession_sending calls worked] at passed
  · have delivered := unharmed.delivered
    rwa [fresh.plan, unslept, ← sameCount] at delivered
  · refine isFault_of_kept unharmed.listener ?_ kept ?_
    · rw [unharmed.plan, fresh.plan]
      exact orderly
    · rw [unharmed.finalArrivals, fresh.finalArrivals]
      exact isFirst
  · have writers : (Event.beforeConsole (closeSession worked).2.events).filter Event.isWriter =
        Event.only Event.isWriter sent.events := by
      refine work_writers (sending.only_isConsole.trans fresh.unshown) ?_ grown silent
      refine ways.imp And.right ?_
      rintro ⟨_, announced, last, key, keys, cancels⟩
      exact ⟨announced, cancels.readied⟩
    rw [writers]
    exact sendFile_whole loaded sends fresh.unwritten named nonempty
  · rcases ways with ⟨forbidden, _⟩ | ⟨_, announced, last, key, keys, cancels⟩
    · rw [interactive] at forbidden
      cases forbidden
    · refine cancels.endedByKey opens sends ?_
      rw [grown]
      exact List.prefix_append _ _

end Session

/-- A run without a help option, around which closing the port fails at the transport only and
in whose sleeps no read is interrupted, ends with the status of success only if nothing went
wrong: see the parts of `Succeeded`. -/
theorem run_done {opening : Opening} {arguments : List String} {plan : Plan}
    {finalArrivals : List Arrival} {batches : List (List Keystroke)}
    (noHelp : readArguments arguments ≠ .error .help) (orderly : plan.Orderly)
    (undisturbed : Throughout plan.Undisturbed 0
      (run opening arguments (start plan finalArrivals batches)).2.tally.sleep)
    (done : (run opening arguments (start plan finalArrivals batches)).1 = .ok .done) :
    ∃ options script settings ready, readArguments arguments = .ok options ∧
      scriptOf opening options = .ok script ∧ options.settings? = some settings ∧
      { start plan finalArrivals batches with settings := settings }.Notes ready ∧
      Succeeded options script settings plan finalArrivals ready
        (run opening arguments (start plan finalArrivals batches)).2 := by
  rcases run_cases opening arguments (start plan finalArrivals batches) with
    ⟨begun, comes⟩ | ⟨_, early⟩
  · refine ⟨begun.options, begun.script, begun.settings, begun.ready, begun.accepted, begun.loaded,
      begun.completed, begun.begins, ?_⟩
    rw [comes] at undisturbed done ⊢
    exact holdSession_succeeds begun.loaded orderly begun.begins undisturbed (Prod.ext done rfl)
  · rw [done] at early
    exact absurd early.help_of_done noHelp

/-- A script of one line is sent, a key is forwarded, the escape key ends the run; bytes arrive
during a sleep and at the end, and closing the port fails. -/
theorem run_done_by_escape :
    let arguments := ["COM3", "9600", "8", "None", "One", "None", "keys.txt"]
    let opening : Opening := fun _ => .ok [0x61, 0x0A]
    let plan : Plan :=
      { faults := [⟨.close, 1, .transport "port is gone"⟩]
        duringSleep := [(1, [.bytes [0x6F]])] }
    let finalArrivals := [.bytes [0x6B]]
    let batches : List (List Keystroke) := [[.key ['x'], .key Key.escape]]
    let ended := run opening arguments (start plan finalArrivals batches)
    readArguments arguments ≠ .error .help ∧ plan.Orderly ∧
      Throughout plan.Undisturbed 0 ended.2.tally.sleep ∧ ended.1 = .ok .done ∧
      ∃ options script settings ready, readArguments arguments = .ok options ∧
        scriptOf opening options = .ok script ∧ options.settings? = some settings ∧
        { start plan finalArrivals batches with settings := settings }.Notes ready ∧
        Succeeded options script settings plan finalArrivals ready ended.2 := by
  intro arguments opening plan finalArrivals batches ended
  have noHelp : readArguments arguments ≠ .error .help := by
    intro help
    have accepted : (readArguments arguments).isOk = true := by decide +kernel
    rw [help] at accepted
    cases accepted
  have orderly : plan.Orderly := by
    intro fault member _
    rw [List.mem_singleton.mp member]
    rfl
  have undisturbed : Throughout plan.Undisturbed 0 ended.2.tally.sleep := by
    intro count _ _ arrival member
    obtain ⟨planned, isPlanned, arrives⟩ := Plan.mem_duringSleep_of_mem_arrivals member
    rw [List.mem_singleton.mp isPlanned] at arrives
    rw [List.mem_singleton.mp arrives]
    rfl
  have done : ended.1 = .ok .done := by
    have status : ended.1.toOption = some .done := by decide +kernel
    generalize ended.1 = outcome at status
    cases outcome with
    | error failure => cases status
    | ok status => exact congrArg Except.ok (Option.some.inj status)
  exact ⟨noHelp, orderly, undisturbed, done, run_done noHelp orderly undisturbed done⟩

end KeyFeed.Command
