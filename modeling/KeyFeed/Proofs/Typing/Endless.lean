/-
This file says when a repeated script is repeated without end. The plan speaks of finitely
many calls, and so does an observer of the passes. After so many passes that every call of
a pass is counted beyond that, a pass meets neither a fault nor an arrival, and the link is
left alone: what a pass comes to then depends only on whether the link holds a port, and the
pass does not change that. So if one more pass succeeds, all later ones do.
-/

import KeyFeed.Proofs.Typing.Alone

namespace KeyFeed

open KeyFeed.Run

/-! ### Beyond the plan -/

theorem Plan.fault?_of_beyond {plan : Plan} {count : Nat} (beyond : plan.horizon < count)
    (point : Point) : plan.fault? point count = none := by
  refine Option.map_eq_none_iff.mpr (List.find?_eq_none.mpr fun fault member => ?_)
  have early := Plan.count_le_horizon member
  have other : fault.count ≠ count := by omega
  simp [other]

theorem Plan.arrivals_of_beyond {plan : Plan} {count : Nat} (beyond : plan.horizon < count) :
    plan.arrivals count = [] := by
  have unplanned : plan.duringSleep.lookup count = none := by
    refine List.lookup_eq_none_iff.mpr fun planned member => ?_
    have early : planned.1 ≤ plan.horizon :=
      (le_foldl_max Prod.fst plan.duringSleep _).2 planned member
    have other : count ≠ planned.1 := by omega
    simpa using other
  rw [Plan.arrivals, unplanned]
  rfl

/-! ### What concerns the sender -/

/-- The event is one of the sender: the port takes or refuses bytes, a pause, or another pass. -/
def Event.isSender : Event → Bool
  | wrote _ => true
  | writeFailed _ => true
  | slept _ => true
  | repeated _ => true
  | _ => false

/-- What neither the sender nor the user does. -/
structure Rig.Spares (rig next : Rig) : Prop where
  /-- Everything that is not named here is unchanged. -/
  frame : next =
    { rig with
      tally := next.tally
      events := next.events
      port := next.port
      running := next.running
      listener := next.listener }
  /-- No call of the sender is counted. -/
  tally : ∀ point, point.isSending = true → next.tally.get point = rig.tally.get point
  /-- No event of the sender is added. -/
  events : Event.only Event.isSender next.events = Event.only Event.isSender rig.events

namespace Rig.Spares

variable {rig next : Rig}

instance : IsPreorder Rig Rig.Spares where
  refl _ := ⟨rfl, fun _ _ => rfl, rfl⟩
  trans _ _ _ earlier later :=
    ⟨by rw [later.frame, earlier.frame],
      fun point sending => (later.tally point sending).trans (earlier.tally point sending),
      later.events.trans earlier.events⟩

theorem of_aside (aside : rig.Aside next) : rig.Spares next where
  frame := aside.frame
  tally point sending := by
    refine aside.tally point ?_ ?_
    · rintro rfl
      cases sending
    · rintro rfl
      cases sending
  events := aside.only_of_foreign fun event => by
    cases event <;> simp [Event.isAside, Event.isSender]

theorem push {event : Event} (foreign : event.isSender = false) (rig : Rig) :
    rig.Spares { rig with events := rig.events.push event } :=
  ⟨rfl, fun _ _ => rfl, Event.only_push_of_not_sort foreign rig.events⟩

end Rig.Spares

open Rig (Spares)

namespace Link

theorem closePort_spares : Leads Spares closePort := by
  have asked : Leads Spares (record .portClosed) := fun rig => Spares.push rfl rig
  have counted : Leads Spares (reach .close) := by
    intro rig
    rw [reach_snd]
    exact .of_aside (.count (Or.inl rfl) rig)
  exact (asked.bind fun _ => counted).bind fun _ =>
    (Echo.deliver_aside _).mono fun _ _ => Spares.of_aside

theorem closeLink_spares : Leads Spares closeLink := by
  have logs (level : Level) (message : String) : Leads Spares (log level message) :=
    fun rig => Spares.push rfl rig
  have forgets : Leads Spares (change fun rig => { rig with port := .none }) :=
    fun _ => ⟨rfl, fun _ _ => rfl, rfl⟩
  have quietly : Leads Spares closeQuietly := by
    refine closePort_spares.attempt.bind fun outcome => ?_
    split
    · exact .pure ()
    · exact .ite (logs _ _) (.fail _)
  refine Leads.look fun rig => ?_
  split
  · exact (quietly.ensuring forgets).bind (fun _ => logs _ _) rig
  · exact Leads.pure () rig

end Link

/-! ### Counts -/

/-- The step begins another pass. -/
def Step.isAgain : Step → Bool
  | again _ => true
  | _ => false

/-- What steps that pass have added to the counts. -/
structure Rig.Counts (steps : List Step) (rig next : Rig) : Prop where
  plan : next.plan = rig.plan
  keyboard : next.keyboard = rig.keyboard
  tally : ∀ point, point.isSending = true →
    next.tally.get point = rig.tally.get point + steps.countP (Step.isCall point)
  pass : next.pass = rig.pass + steps.countP Step.isAgain

namespace Rig.Counts

theorem nil (rig : Rig) : rig.Counts [] rig := ⟨rfl, rfl, fun _ _ => rfl, rfl⟩

theorem append {front back : List Step} {first middle last : Rig}
    (earlier : first.Counts front middle) (later : middle.Counts back last) :
    first.Counts (front ++ back) last where
  plan := later.plan.trans earlier.plan
  keyboard := later.keyboard.trans earlier.keyboard
  tally point sending := by
    rw [later.tally point sending, earlier.tally point sending, List.countP_append, Nat.add_assoc]
  pass := by rw [later.pass, earlier.pass, List.countP_append, Nat.add_assoc]

/-- A step that only the listener accompanies. -/
theorem of_spares {step : Step} {rig next : Rig} (spares : rig.Spares next)
    (uncalled : ∀ point, step.isCall point = false) (same : step.isAgain = false) :
    rig.Counts [step] next where
  plan := by rw [spares.frame]
  keyboard := by rw [spares.frame]
  tally point sending := by simp [uncalled, spares.tally point sending]
  pass := by
    rw [spares.frame]
    simp [same]

end Rig.Counts

open Rig (Counts)

theorem Clock.sleep_counts {rig next : Rig} (away : rig.keyboard.active = false) {duration : Float}
    (slept : sleep duration rig = (.ok (), next)) : rig.Counts [.sleep duration] next := by
  obtain ⟨passed, _⟩ := sleep_ok slept
  rw [sleep_of_passed away passed] at slept
  cases slept
  have aside :=
    Echo.deliverAll_aside (rig.plan.arrivals (rig.tally.sleep + 1)) (asleep duration rig)
  have spares := Spares.of_aside aside
  refine ⟨aside.plan, aside.keyboard, fun point sending => ?_, by rw [spares.frame]; rfl⟩
  rw [spares.tally point sending]
  cases point <;> simp_all [Step.isCall, Point.isSending, Tally.get, asleep, Tally.bump]

theorem Link.write_counts {rig next : Rig} {bytes : List UInt8}
    (wrote : write bytes rig = (.ok (), next)) : rig.Counts [.write bytes] next := by
  obtain ⟨_, _, rfl⟩ := write_ok wrote
  refine ⟨rfl, rfl, fun point sending => ?_, rfl⟩
  cases point <;>
    simp_all [Step.isCall, Point.isSending, Tally.get, Link.emptied, Link.written, Tally.bump]

theorem PassNotice.tell_spares (notice : PassNotice) (pass : Nat) (rig : Rig) :
    (notice.tell pass rig).2.plan = rig.plan ∧ (notice.tell pass rig).2.keyboard = rig.keyboard ∧
      (notice.tell pass rig).2.pass = rig.pass ∧
      ∀ point, point.isSending = true →
        (notice.tell pass rig).2.tally.get point = rig.tally.get point := by
  cases notice with
  | silent => exact ⟨rfl, rfl, rfl, fun _ _ => rfl⟩
  | observer stopAt closeAt =>
    unfold tell
    dsimp only
    rw [record_bind]
    split
    · exact ⟨rfl, rfl, rfl, fun _ _ => rfl⟩
    · split
      · have spares := Link.closeLink_spares { rig with events := rig.events.push (.repeated pass) }
        refine ⟨by rw [spares.frame], by rw [spares.frame], by rw [spares.frame], spares.tally⟩
      · exact ⟨rfl, rfl, rfl, fun _ _ => rfl⟩
  | output => exact ⟨rfl, rfl, rfl, fun _ _ => rfl⟩

namespace Step

theorem perform_counts {rig next : Rig} (away : rig.keyboard.active = false) {step : Step}
    (performed : step.perform rig = (.ok (), next)) : rig.Counts [step] next := by
  cases step with
  | write bytes => exact Link.write_counts performed
  | sleep duration => exact Clock.sleep_counts away performed
  | note message =>
    cases performed
    exact .of_spares (.push rfl rig) (fun _ => rfl) rfl
  | again notice =>
    obtain ⟨plan, keyboard, pass, tally⟩ :=
      notice.tell_spares (rig.pass + 1) (PassNotice.begun rig)
    have told : (notice.tell (rig.pass + 1) (PassNotice.begun rig)) = (.ok (), next) := performed
    rw [told] at plan keyboard pass tally
    exact ⟨plan, keyboard, tally, pass⟩
  | stop failure => cases performed

theorem performAll_counts {rig next : Rig} (away : rig.keyboard.active = false) {steps : List Step}
    (performed : performAll steps rig = (.ok (), next)) : rig.Counts steps next := by
  induction steps generalizing rig with
  | nil =>
    cases performed
    exact .nil next
  | cons step rest inductionHypothesis =>
    obtain ⟨_, middle, first, others⟩ := bind_eq_ok_iff.mp performed
    have counts := perform_counts away first
    exact counts.append (inductionHypothesis (counts.keyboard ▸ away) others)

/-! ### Beyond the horizon -/

/-- The step succeeds where the plan has nothing left for it, given whether the link holds a
port. -/
def isFeasible (held : Bool) : Step → Bool
  | write _ => held
  | stop _ => false
  | _ => true

end Step

/-- The plan has nothing left for the steps, and the observer of the passes has nothing left to
do. -/
structure Rig.Past (notice : PassNotice) (steps : List Step) (rig : Rig) : Prop where
  away : rig.keyboard.active = false
  counts : ∀ step ∈ steps, ∀ point, point.isSending = true → step.isCall point = true →
    rig.plan.horizon ≤ rig.tally.get point
  pass : notice.horizon ≤ rig.pass

namespace PassNotice

/-- Late passes are only told of. -/
theorem tell_of_past {notice : PassNotice} {pass : Nat} (past : notice.horizon < pass) (rig : Rig) :
    ∃ events, notice.tell pass rig = (.ok (), { rig with events := events }) := by
  cases notice with
  | silent => exact ⟨rig.events, rfl⟩
  | observer stopAt closeAt =>
    have unstopped : stopAt ≠ some pass := by
      rintro rfl
      exact absurd past (Nat.not_lt_of_le (Nat.le_max_left _ _))
    have unclosed : closeAt ≠ some pass := by
      rintro rfl
      exact absurd past (Nat.not_lt_of_le (Nat.le_max_right _ _))
    unfold tell
    dsimp only
    rw [record_bind, if_neg unstopped, if_neg unclosed]
    exact ⟨_, rfl⟩
  | output => exact ⟨_, rfl⟩

end PassNotice

namespace Rig.Past

variable {notice : PassNotice} {steps : List Step} {rig next : Rig}

/-- More calls and passes leave the plan behind even further. -/
theorem of_counts (past : rig.Past notice steps) {made : List Step}
    (counts : rig.Counts made next) : next.Past notice steps where
  away := by rw [counts.keyboard]; exact past.away
  counts step member point sending called := by
    rw [counts.plan, counts.tally point sending]
    exact Nat.le_trans (past.counts step member point sending called) (Nat.le_add_right _ _)
  pass := by
    rw [counts.pass]
    exact Nat.le_trans past.pass (Nat.le_add_right _ _)

theorem fault?_eq_none (past : rig.Past notice steps) {step : Step} (member : step ∈ steps)
    {point : Point} (sending : point.isSending = true) (called : step.isCall point = true) :
    rig.plan.fault? point (rig.tally.get point + 1) = none :=
  Plan.fault?_of_beyond (Nat.lt_succ_of_le (past.counts step member point sending called)) point

/-- A feasible step succeeds, and leaves the port to the link. -/
theorem perform_of_feasible (past : rig.Past notice steps) {step : Step} (member : step ∈ steps)
    (told : ∀ other, step = .again other → other = notice)
    (feasible : step.isFeasible rig.port.isHeld = true) :
    ∃ next, step.perform rig = (.ok (), next) ∧ next.port = rig.port := by
  cases step with
  | write bytes =>
    have taken : rig.plan.fault? .write (rig.tally.get .write + 1) = none :=
      past.fault?_eq_none member rfl rfl
    have flushed : rig.plan.fault? .flush (rig.tally.get .flush + 1) = none :=
      past.fault?_eq_none member rfl rfl
    exact ⟨_, Link.write_of_passed feasible taken flushed bytes, rfl⟩
  | sleep duration =>
    have passed : rig.plan.fault? .sleep (rig.tally.get .sleep + 1) = none :=
      past.fault?_eq_none member rfl rfl
    have late : rig.plan.horizon < rig.tally.sleep + 1 :=
      Nat.lt_succ_of_le (past.counts _ member .sleep rfl rfl)
    refine ⟨_, Clock.sleep_of_passed past.away passed duration, ?_⟩
    rw [Plan.arrivals_of_beyond late]
    rfl
  | note message => exact ⟨_, rfl, rfl⟩
  | again other =>
    obtain rfl := told other rfl
    obtain ⟨events, told⟩ :=
      PassNotice.tell_of_past (Nat.lt_succ_of_le past.pass) (PassNotice.begun rig)
    exact ⟨_, told, rfl⟩
  | stop failure => cases feasible

end Rig.Past

/-- A step that is not feasible fails. -/
theorem Step.feasible_of_ok {step : Step} {rig next : Rig}
    (performed : step.perform rig = (.ok (), next)) : step.isFeasible rig.port.isHeld = true := by
  cases step with
  | write bytes =>
    cases held : rig.port.isHeld with
    | true => rfl
    | false =>
      rw [show (write bytes).perform rig = _ from Link.write_of_lost held bytes] at performed
      cases performed
  | stop failure => cases performed
  | _ => rfl

namespace Rig.Past

variable {notice : PassNotice} {steps : List Step} {rig : Rig}

/-- Beyond the plan steps succeed exactly when they are feasible. -/
theorem performAll_iff (past : rig.Past notice steps)
    (told : ∀ other, .again other ∈ steps → other = notice) {made : List Step}
    (among : ∀ step ∈ made, step ∈ steps) :
    (∃ next, Step.performAll made rig = (.ok (), next)) ↔
      ∀ step ∈ made, step.isFeasible rig.port.isHeld = true := by
  induction made generalizing rig with
  | nil => exact ⟨fun _ => nofun, fun _ => ⟨rig, rfl⟩⟩
  | cons step rest inductionHypothesis =>
    obtain ⟨member, others⟩ := List.forall_mem_cons.mp among
    have toldStep : ∀ other, step = .again other → other = notice :=
      fun other same => told other (same ▸ member)
    rw [List.forall_mem_cons]
    constructor
    · rintro ⟨final, performed⟩
      obtain ⟨_, middle, first, later⟩ := bind_eq_ok_iff.mp performed
      have feasible := Step.feasible_of_ok first
      obtain ⟨next, again, port⟩ := past.perform_of_feasible member toldStep feasible
      rw [first] at again
      cases again
      have counts := Step.perform_counts past.away first
      have rest := (inductionHypothesis (past.of_counts counts) others).mp ⟨final, later⟩
      rw [port] at rest
      exact ⟨feasible, rest⟩
    · rintro ⟨feasible, feasibleRest⟩
      obtain ⟨next, first, port⟩ := past.perform_of_feasible member toldStep feasible
      have counts := Step.perform_counts past.away first
      rw [← port] at feasibleRest
      obtain ⟨final, later⟩ :=
        (inductionHypothesis (past.of_counts counts) others).mpr feasibleRest
      exact ⟨final, (bind_of_ok first _).trans later⟩

end Rig.Past

/-! ### Passes -/

namespace Sender

open Step

variable (sender : Sender) (notice : PassNotice) (text : List Char)

/-- The steps of one pass. -/
def round : List Step := sender.textSteps text ++ [.again notice]

/-- The steps of so many passes. -/
def rounds (count : Nat) : List Step := (List.replicate count (sender.round notice text)).flatten

theorem passSteps_eq (bound : Nat) :
    sender.passSteps notice text bound =
      sender.rounds notice text bound ++ [.stop .unfinished] := by
  induction bound with
  | zero => rfl
  | succ bound inductionHypothesis =>
    rw [passSteps, inductionHypothesis, rounds, rounds, List.replicate_succ, List.flatten_cons,
      round]
    simp

theorem rounds_add (first second : Nat) :
    sender.rounds notice text (first + second) =
      sender.rounds notice text first ++ sender.rounds notice text second := by
  rw [rounds, ← List.replicate_append_replicate, List.flatten_append]
  rfl

theorem countP_rounds (sort : Step → Bool) (count : Nat) :
    (sender.rounds notice text count).countP sort =
      count * (sender.round notice text).countP sort := by
  rw [rounds, List.countP_flatten, List.map_replicate, List.sum_replicate_nat]

variable {sender notice text}

theorem mem_round_of_mem_rounds {count : Nat} {step : Step}
    (member : step ∈ sender.rounds notice text count) : step ∈ sender.round notice text := by
  obtain ⟨steps, among, inside⟩ := List.mem_flatten.mp member
  rwa [List.eq_of_mem_replicate among] at inside

theorem eq_of_again_mem_round {other : PassNotice}
    (member : .again other ∈ sender.round notice text) : other = notice := by
  rcases List.mem_append.mp member with inText | last
  · exact absurd inText (sender.again_not_mem_textSteps text other)
  · cases List.mem_singleton.mp last
    rfl

/-- After so many passes the plan has nothing left for a pass. -/
theorem past_of_rounds {rig next : Rig} (away : rig.keyboard.active = false) {count : Nat}
    (many : rig.plan.horizon + notice.horizon ≤ count)
    (passed : performAll (sender.rounds notice text count) rig = (.ok (), next)) :
    next.Past notice (sender.round notice text) := by
  have counts := performAll_counts away passed
  refine ⟨by rw [counts.keyboard]; exact away, fun step member point sending called => ?_, ?_⟩
  · have positive : 0 < (sender.round notice text).countP (isCall point) :=
      List.countP_pos_iff.mpr ⟨step, member, called⟩
    have grown := Nat.mul_le_mul_left count positive
    rw [counts.plan, counts.tally point sending, sender.countP_rounds]
    omega
  · have positive : 0 < (sender.round notice text).countP isAgain :=
      List.countP_pos_iff.mpr ⟨.again notice, List.mem_append_right _ (List.mem_singleton_self _),
        rfl⟩
    have grown := Nat.mul_le_mul_left count positive
    rw [counts.pass, sender.countP_rounds]
    omega

/-- Passes that succeed do so from the first one on. -/
theorem rounds_of_more {rig last : Rig} {fewer more : Nat} (less : fewer ≤ more)
    (passed : performAll (sender.rounds notice text more) rig = (.ok (), last)) :
    ∃ next, performAll (sender.rounds notice text fewer) rig = (.ok (), next) := by
  obtain ⟨others, rfl⟩ := Nat.exists_eq_add_of_le less
  rw [rounds_add, performAll_append] at passed
  obtain ⟨_, next, begun, _⟩ := bind_eq_ok_iff.mp passed
  exact ⟨next, begun⟩

/-- A pass that fails ends every repetition that comes to it. -/
theorem rounds_of_fewer {rig last : Rig} {failure : Failure} {fewer more : Nat}
    (less : fewer ≤ more)
    (failed : performAll (sender.rounds notice text fewer) rig = (.error failure, last)) :
    performAll (sender.rounds notice text more) rig = (.error failure, last) := by
  obtain ⟨others, rfl⟩ := Nat.exists_eq_add_of_le less
  rw [rounds_add, performAll_append]
  exact bind_of_error failed _

/-- When as many passes succeed as are made at most, every number of passes does. -/
theorem rounds_endless {rig last : Rig} (away : rig.keyboard.active = false)
    (passed : performAll (sender.rounds notice text (passBound rig.plan notice)) rig =
      (.ok (), last)) (count : Nat) :
    ∃ next, performAll (sender.rounds notice text count) rig = (.ok (), next) := by
  let early := rig.plan.horizon + notice.horizon
  have told : ∀ other, .again other ∈ sender.round notice text → other = notice :=
    fun _ => eq_of_again_mem_round
  have among (number : Nat) : ∀ step ∈ sender.rounds notice text number,
      step ∈ sender.round notice text := fun _ => mem_round_of_mem_rounds
  rw [show passBound rig.plan notice = early + 3 from rfl, rounds_add, performAll_append] at passed
  obtain ⟨_, middle, begun, ended⟩ := bind_eq_ok_iff.mp passed
  have past := past_of_rounds away (Nat.le_refl early) begun
  -- A step of a later pass is a step of the pass that comes next.
  have feasible : ∀ step ∈ sender.round notice text, step.isFeasible middle.port.isHeld = true := by
    intro step member
    refine (past.performAll_iff told (among 3)).mp ⟨last, ended⟩ step ?_
    exact List.mem_flatten.mpr ⟨_, List.mem_replicate.mpr ⟨by decide, rfl⟩, member⟩
  obtain ⟨next, later⟩ := (past.performAll_iff told (among count)).mpr
    fun step member => feasible step (among count step member)
  have whole : performAll (sender.rounds notice text (early + count)) rig = (.ok (), next) := by
    rw [rounds_add, performAll_append, bind_of_ok begun]
    exact later
  exact rounds_of_more (Nat.le_add_left count early) whole

end Sender

end KeyFeed
