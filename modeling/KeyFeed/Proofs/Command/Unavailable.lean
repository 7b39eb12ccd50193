/-
This file says what a run reports when the port cannot be opened: the reason, and, when the
machine does not have the port, a second line with the ports that it has. That line, the
list of ports and the answer whether a port is available rest on one and the same list.
-/

import KeyFeed.Proofs.Command.Verdict
import KeyFeed.Proofs.Link.Listing

namespace KeyFeed.Command

open KeyFeed.Run KeyFeed.Script KeyFeed.Session

open Rig (Unreported)

/-! ### The report -/

/-- What is reported about a port that cannot be opened. -/
def unavailableReport (ports : List Link.PortInfo) (reason port : String) (known : Bool) :
    String :=
  if known then reason
  else s!"{reason}\nPort {port} not found. Available ports: {Link.portNames ports}"

theorem reports_of_reported {rig next : Rig} (unreported : rig.Unreported next) (message : String) :
    Event.only Event.isReport (next.events.push (.reported message)) =
      Event.only Event.isReport rig.events ++ [.reported message] := by
  rw [Event.only_push_of_sort rfl, unreported.reports]

/-- One report is made of a port that cannot be opened. -/
theorem reportUnavailable_reports (rig : Rig)
    (lists : ∀ failure, rig.plan.ports = .error failure → failure.isSystem = true)
    (reason port : String) :
    ∃ known final, reportUnavailable reason port rig = (.ok .linkUnavailable, final) ∧
      (known = true ↔ Link.Available (Link.portsOf rig.plan) port) ∧
      Event.only Event.isReport final.events =
        Event.only Event.isReport rig.events ++
          [.reported
            (unavailableReport (Link.sortPorts (Link.portsOf rig.plan)) reason port known ++
              "\n")] := by
  obtain ⟨known, next, asked, unreported, available⟩ := Link.isAvailable_of_listing rig lists port
  refine ⟨known, ?_⟩
  unfold reportUnavailable
  rw [bind_of_ok asked]
  cases known with
  | true => exact ⟨_, rfl, available, reports_of_reported unreported _⟩
  | false =>
    have listsToo : ∀ failure, next.plan.ports = .error failure → failure.isSystem = true := by
      rw [unreported.plan]
      exact lists
    obtain ⟨last, listed, unreportedToo⟩ := Link.findPorts_of_listing next listsToo
    rw [unreported.plan] at listed
    rw [if_neg Bool.false_ne_true, bind_of_ok listed]
    exact ⟨_, rfl, available,
      reports_of_reported (IsTrans.trans _ _ _ unreported unreportedToo) _⟩

/-! ### The run -/

/-- A session whose port is refused tells the user nothing yet. -/
theorem openSession_of_unavailable {rig : Rig} {failure : Failure}
    (closed : rig.port.isOpen = false)
    (planned : rig.plan.fault? .opening (rig.tally.opening + 1) = some failure)
    (refused : failure.isRefusedOpening = true) :
    ∃ next, openSession rig =
        (.error (.linkUnavailable failure.message rig.settings.port), next) ∧
      rig.Unreported next := by
  have reached : reach .opening { rig with events := rig.events.push (.opening rig.settings) } =
      (.error failure, Link.asked rig) := reach_of_planned planned
  have asked : rig.Unreported (Link.asked rig) := ⟨rfl, Event.only_push_of_not_sort rfl rig.events⟩
  have failed : Link.openLink rig =
      (.error (.linkUnavailable failure.message rig.settings.port),
        { Link.asked rig with
          events := (Link.asked rig).events.push
            (.logged .error s!"Failed to open {rig.settings.port}: {failure.message}") }) := by
    unfold Link.openLink
    rw [look_bind, closed]
    simp only [Bool.false_eq_true, if_false, record_bind, attempt_bind, reached, refused, if_true]
    rfl
  exact ⟨_, bind_of_error failed _, IsTrans.trans _ _ _ asked (.push rfl _)⟩

section Run

variable {opening : Opening} {arguments : List String} {plan : Plan} {options : Options}
  {script : Option (String × List Char)} {settings : Link.Settings} {failure : Failure}

/-- A run comes to the opening of its session without a report. -/
theorem run_eq_holdSession (finalArrivals : List Arrival) (batches : List (List Keystroke))
    (lists : ∀ failure, plan.ports = .error failure → failure.isSystem = true)
    (accepted : readArguments arguments = .ok options)
    (loaded : scriptOf opening options = .ok script)
    (completed : options.settings? = some settings) :
    ∃ ready, run opening arguments (start plan finalArrivals batches) =
        holdSession options script ready ∧
      ready.settings = settings ∧ ready.port = .none ∧ ready.tally.opening = 0 ∧
      (start plan finalArrivals batches).Unreported ready := by
  obtain ⟨next, listed, unreported⟩ :=
    Link.findPorts_of_listing (start plan finalArrivals batches) lists
  have notes : (start plan finalArrivals batches).Notes next := by
    have led := findPorts_notes (start plan finalArrivals batches)
    rwa [listed] at led
  let logging : Rig :=
    { next with
      events := next.events.push (.loggingStarted (if options.verbose then .debug else .warning)) }
  let noted : Rig :=
    { logging with
      events := logging.events.push (.logged .debug s!"Link settings: {settings.full}") }
  refine ⟨{ noted with settings := settings }, ?_, rfl, ?_, ?_, ?_⟩
  · have given := ne_nil_of_accepted accepted
    unfold run
    rw [bind_of_ok listed, if_neg (by simpa using given),
      bind_of_ok (readOptions_of_accepted accepted _ next)]
    dsimp only
    rw [record_bind, loaded]
    dsimp only
    unfold runSession settingsOf
    rw [completed]
    rfl
  · show next.port = .none
    rw [notes.frame]
    rfl
  · show next.tally.opening = 0
    rw [notes.tally]
    rfl
  · have logged : next.Unreported logging := .push rfl next
    have settled : logging.Unreported { noted with settings := settings } :=
      ⟨rfl, Event.only_push_of_not_sort rfl logging.events⟩
    exact IsTrans.trans _ _ _ unreported (IsTrans.trans _ _ _ logged settled)

/-- The one report of a run whose port is refused. -/
theorem run_of_refused (finalArrivals : List Arrival) (batches : List (List Keystroke))
    (lists : ∀ failure, plan.ports = .error failure → failure.isSystem = true)
    (accepted : readArguments arguments = .ok options)
    (loaded : scriptOf opening options = .ok script)
    (completed : options.settings? = some settings)
    (planned : plan.fault? .opening 1 = some failure)
    (refused : failure.isRefusedOpening = true) :
    ∃ known final, run opening arguments (start plan finalArrivals batches) =
        (.ok .linkUnavailable, final) ∧
      (known = true ↔ Link.Available (Link.portsOf plan) options.port) ∧
      Event.only Event.isReport final.events =
        [.reported (unavailableReport (Link.sortPorts (Link.portsOf plan)) failure.message
          options.port known ++ "\n")] := by
  obtain ⟨ready, comes, settled, unheld, uncounted, unreported⟩ :=
    run_eq_holdSession finalArrivals batches lists accepted loaded completed
  have planToo : ready.plan = plan := unreported.plan
  have closed : ready.port.isOpen = false := by rw [unheld]; rfl
  obtain ⟨next, failed, unreportedToo⟩ := openSession_of_unavailable closed
    (by rw [planToo, uncounted]; exact planned) refused
  have nextPlan : next.plan = plan := unreportedToo.plan.trans planToo
  have port : ready.settings.port = options.port := by
    obtain ⟨handshake, _, rfl⟩ := Option.map_eq_some_iff.mp completed
    rw [settled]
  obtain ⟨known, final, reported, available, reports⟩ := reportUnavailable_reports next
    (by rw [nextPlan]; exact lists) failure.message options.port
  rw [nextPlan] at available reports
  refine ⟨known, final, ?_, available, ?_⟩
  · rw [comes]
    unfold holdSession
    rw [attempt_bind, failed, port]
    exact reported
  · rw [reports, (IsTrans.trans _ _ _ unreported unreportedToo : Unreported _ next).reports]
    rfl

end Run

/-- All who ask for the ports of the machine see one list. It holds what the machine gives, sorted
by the codes of the names, and where names are equal in the order given; it is empty when the
system cannot answer. A port is available when it is an address or stands in that list. When
the port of a run is refused, the run reports the reason, and beside it the names in that list
exactly when the port is not available. -/
theorem ports_agree (opening : Opening) (arguments : List String) (plan : Plan)
    (finalArrivals : List Arrival) (batches : List (List Keystroke))
    (lists : ∀ failure, plan.ports = .error failure → failure.isSystem = true) :
    let first := start plan finalArrivals batches
    let ports := Link.portsOf plan
    let listed := Link.sortPorts ports
    let names := listed.map (·.name)
    (listed.Perm ports ∧
        (listed.Pairwise fun first second => Link.codes first.name ≤ Link.codes second.name) ∧
        ∀ name, listed.filter (·.name = name) = ports.filter (·.name = name)) ∧
      (∀ rig, rig.plan = plan → (Link.findPorts rig).1 = .ok listed) ∧
      (∀ failure, plan.ports = .error failure → listed = []) ∧
      (∀ rig query, rig.plan = plan → ∃ known, (Link.isAvailable query rig).1 = .ok known ∧
        (known = true ↔
          "://".toList <:+: query.toList ∨ ∃ port ∈ ports, port.name = query)) ∧
      ∀ options script settings failure, readArguments arguments = .ok options →
        scriptOf opening options = .ok script → options.settings? = some settings →
        plan.fault? .opening 1 = some failure → failure.isRefusedOpening = true →
        ∃ known final, (Link.isAvailable options.port first).1 = .ok known ∧
          run opening arguments first = (.ok .linkUnavailable, final) ∧
          Event.only Event.isReport final.events =
            if known then [.reported (failure.message ++ "\n")] else
            let shown := if names = [] ∨ names = [""] then "none" else ", ".intercalate names
            [.reported
             s!"{failure.message}\nPort {options.port} not found. Available ports: {shown}\n"] := by
  intro first ports listed names
  refine ⟨⟨Link.sortPorts_perm ports, Link.sortPorts_ascending ports, Link.sortPorts_filter ports⟩,
    ?_, ?_, ?_, ?_⟩
  · rintro rig rfl
    obtain ⟨next, found, _⟩ := Link.findPorts_of_listing rig lists
    rw [found]
  · intro failure failed
    have none : ports = [] := by
      show Link.portsOf plan = []
      rw [Link.portsOf, failed]
    show Link.sortPorts ports = []
    rw [none, Link.sortPorts, List.mergeSort_nil]
  · rintro rig query rfl
    obtain ⟨known, next, asked, _, available⟩ := Link.isAvailable_of_listing rig lists query
    exact ⟨known, by rw [asked], available⟩
  · intro options script settings failure accepted loaded completed planned refused
    obtain ⟨known, next, asked, _, available⟩ :=
      Link.isAvailable_of_listing first lists options.port
    obtain ⟨knownToo, final, comes, availableToo, reports⟩ :=
      run_of_refused finalArrivals batches lists accepted loaded completed planned refused
    obtain rfl : knownToo = known := Bool.eq_iff_iff.mpr (availableToo.trans available.symm)
    refine ⟨knownToo, final, by rw [asked], comes, ?_⟩
    rw [reports]
    unfold unavailableReport
    cases knownToo with
    | true => rfl
    | false =>
      rw [if_neg Bool.false_ne_true, if_neg Bool.false_ne_true, Link.portNames_eq]
      simp only [String.append_assoc]
      rfl

/-- The port of the run is not among those of the machine, which are not sorted and of which two
have one name. -/
theorem ports_agree_of_missing :
    let arguments := ["COM7", "9600", "8", "None", "One", "None"]
    let port (name description : String) : Link.PortInfo := ⟨name, some description, none, none, ""⟩
    let ports := [port "COM3" "first", port "COM10" "", port "COM3" "second"]
    let plan : Plan :=
      { faults := [⟨.opening, 1, .transport "busy"⟩], ports := .ok ports }
    let first := start plan [] []
    (∀ failure, plan.ports = .error failure → failure.isSystem = true) ∧
      Link.sortPorts ports = [port "COM10" "", port "COM3" "first", port "COM3" "second"] ∧
      ∃ final, run (fun _ => .error .missing) arguments first = (.ok .linkUnavailable, final) ∧
        Event.only Event.isReport final.events =
          [.reported "busy\nPort COM7 not found. Available ports: COM10, COM3, COM3\n"] := by
  intro arguments port ports plan first
  have lists : ∀ failure, plan.ports = .error failure → failure.isSystem = true := by
    intro failure failed
    cases failed
  have sorted : Link.sortPorts ports =
      [port "COM10" "", port "COM3" "first", port "COM3" "second"] := by
    simp [Link.sortPorts, ports, port, List.mergeSort, List.MergeSort.Internal.splitInTwo]
  have agree := ports_agree (fun _ => .error .missing) arguments plan [] [] lists
  refine ⟨lists, sorted, ?_⟩
  cases accepted : readArguments arguments with
  | error stop =>
    have read : (readArguments arguments).isOk = true := by decide +kernel
    rw [accepted] at read
    cases read
  | ok options =>
    have kept : (readArguments arguments).toOption.map (fun options =>
        (options.port, options.file, options.handshake.value?.isSome)) =
        some ("COM7", none, true) := by
      decide +kernel
    rw [accepted] at kept
    simp only [Except.toOption, Option.map_some, Option.some.injEq, Prod.mk.injEq] at kept
    obtain ⟨port, file, shook⟩ := kept
    have loaded : scriptOf (fun _ => .error .missing) options = .ok none := by
      rw [scriptOf, file]
    obtain ⟨settings, completed⟩ : ∃ settings, options.settings? = some settings := by
      obtain ⟨handshake, given⟩ := Option.isSome_iff_exists.mp shook
      exact ⟨_, congrArg (Option.map _) given⟩
    obtain ⟨_, _, _, asked, refused⟩ := agree
    obtain ⟨known, final, answer, comes, reports⟩ :=
      refused options none settings (.transport "busy") accepted loaded completed rfl rfl
    obtain ⟨knownToo, answerToo, available⟩ := asked first options.port rfl
    obtain rfl : knownToo = known := by
      rw [answerToo] at answer
      exact Except.ok.inj answer
    rw [port] at available
    obtain rfl : knownToo = false := by
      rw [← Bool.not_eq_true, available]
      decide
    refine ⟨final, comes, ?_⟩
    rw [reports, port]
    dsimp only
    rw [show Link.portsOf plan = ports from rfl, sorted]
    rfl

end KeyFeed.Command
