/-
This file holds the activities: functions from the state of the rig to an outcome
and the next state. An activity that fails keeps the state it has reached, so
what happened before the failure stays visible.
-/

import KeyFeed.Rig.State

namespace KeyFeed

/-- An activity with a result. -/
def Run (Result : Type) : Type := Rig → Except Failure Result × Rig

namespace Run

variable {First Second Result : Type}

/-- The activity that does nothing. -/
def done (result : Result) : Run Result := fun rig => (.ok result, rig)

/-- The activity that fails. -/
def fail (failure : Failure) : Run Result := fun rig => (.error failure, rig)

/-- One activity and then, unless it fails, another one that depends on its result. -/
def andThen (first : Run First) (second : First → Run Second) : Run Second := fun rig =>
  match first rig with
  | (.ok result, next) => second result next
  | (.error failure, next) => (.error failure, next)

instance : Monad Run where
  pure := done
  bind := andThen

/-- The state itself. -/
def look : Run Rig := fun rig => (.ok rig, rig)

/-- Changes the state. -/
def change (update : Rig → Rig) : Run Unit := fun rig => (.ok (), update rig)

/-- The outcome of an activity; this does not fail. -/
def attempt (activity : Run Result) : Run (Except Failure Result) := fun rig =>
  let (outcome, next) := activity rig
  (.ok outcome, next)

/-- Goes on with a known outcome. -/
def resume : Except Failure Result → Run Result
  | .ok result => done result
  | .error failure => fail failure

/-- An activity and after it, whatever its outcome, another one. A failure of the second one
replaces the outcome of the first. -/
def ensuring (activity : Run Result) (after : Run Unit) : Run Result := do
  let outcome ← attempt activity
  after
  resume outcome

theorem bind_apply (first : Run First) (second : First → Run Second) (rig : Rig) :
    (first >>= second) rig =
      match first rig with
      | (.ok result, next) => second result next
      | (.error failure, next) => (.error failure, next) := rfl

@[simp] theorem change_apply (update : Rig → Rig) (rig : Rig) :
    change update rig = (.ok (), update rig) := rfl

theorem done_id_map (activity : Run Result) : id <$> activity = activity := by
  funext rig
  show andThen activity (fun result => done (id result)) rig = activity rig
  unfold andThen done
  split <;> simp_all

theorem andThen_assoc (activity : Run First) (second : First → Run Second)
    (third : Second → Run Result) :
    activity >>= second >>= third = activity >>= fun result => second result >>= third := by
  funext rig
  show andThen (andThen activity second) third rig =
    andThen activity (fun result => andThen (second result) third) rig
  unfold andThen
  cases activity rig with
  | mk outcome next => cases outcome <;> rfl

instance : LawfulMonad Run :=
  LawfulMonad.mk' Run done_id_map (fun _ _ => rfl) andThen_assoc

/-! ### Outcomes of activities in a row -/

theorem bind_of_ok {first : Run First} {rig next : Rig} {result : First}
    (succeeded : first rig = (.ok result, next)) (second : First → Run Second) :
    (first >>= second) rig = second result next := by
  rw [bind_apply, succeeded]

theorem bind_of_error {first : Run First} {rig next : Rig} {failure : Failure}
    (failed : first rig = (.error failure, next)) (second : First → Run Second) :
    (first >>= second) rig = (.error failure, next) := by
  rw [bind_apply, failed]

/-- Two activities in a row succeed exactly when both do. -/
theorem bind_eq_ok_iff {first : Run First} {second : First → Run Second} {rig final : Rig}
    {result : Second} :
    (first >>= second) rig = (.ok result, final) ↔
      ∃ middle next, first rig = (.ok middle, next) ∧ second middle next = (.ok result, final) := by
  rw [bind_apply]
  rcases first rig with ⟨failure | middle, next⟩
  · simp
  · constructor
    · intro succeeded
      exact ⟨middle, next, rfl, succeeded⟩
    · rintro ⟨_, _, same, succeeded⟩
      cases same
      exact succeeded

@[simp] theorem look_bind (second : Rig → Run Second) (rig : Rig) :
    (look >>= second) rig = second rig rig := rfl

@[simp] theorem change_bind (update : Rig → Rig) (second : Unit → Run Second) (rig : Rig) :
    (change update >>= second) rig = second () (update rig) := rfl

@[simp] theorem attempt_bind (activity : Run First) (second : Except Failure First → Run Second)
    (rig : Rig) :
    (attempt activity >>= second) rig = second (activity rig).1 (activity rig).2 := rfl

@[simp] theorem resume_apply (outcome : Except Failure Result) (rig : Rig) :
    resume outcome rig = (outcome, rig) := by
  cases outcome <;> rfl

/-- What is left to do afterwards decides about the outcome only when it fails. -/
theorem ensuring_apply (activity : Run Result) (after : Run Unit) (rig : Rig) :
    ensuring activity after rig =
      match after (activity rig).2 with
      | (.ok (), final) => ((activity rig).1, final)
      | (.error failure, final) => (.error failure, final) := by
  unfold ensuring
  rw [attempt_bind, bind_apply]
  split <;> simp_all

/-- What is left to do afterwards is done in any case. -/
theorem ensuring_snd (activity : Run Result) (after : Run Unit) (rig : Rig) :
    (ensuring activity after rig).2 = (after (activity rig).2).2 := by
  rw [ensuring_apply]
  rcases after (activity rig).2 with ⟨failure | _, final⟩ <;> rfl

/-- An activity and what is left to do afterwards succeed exactly when both do. -/
theorem ensuring_eq_ok_iff {activity : Run Result} {after : Run Unit} {rig final : Rig}
    {result : Result} :
    ensuring activity after rig = (.ok result, final) ↔
      ∃ middle, activity rig = (.ok result, middle) ∧ after middle = (.ok (), final) := by
  rw [ensuring_apply]
  rcases activity rig with ⟨outcome, middle⟩
  dsimp only
  rcases ended : after middle with ⟨failure | _, last⟩
  · constructor
    · intro impossible
      cases impossible
    · rintro ⟨_, same, succeeded⟩
      cases same
      rw [ended] at succeeded
      cases succeeded
  · constructor
    · intro succeeded
      cases succeeded
      exact ⟨middle, rfl, ended⟩
    · rintro ⟨_, same, succeeded⟩
      cases same
      rw [ended] at succeeded
      cases succeeded
      rfl

/-! ### Events and planned faults -/

/-- Adds an event. -/
def record (event : Event) : Run Unit :=
  change fun rig => { rig with events := rig.events.push event }

/-- Adds a record to the log. -/
def log (level : Level) (message : String) : Run Unit := record (.logged level message)

/-- Counts a call at a point, and fails if the plan says so. -/
def reach (point : Point) : Run Unit := fun rig =>
  let tally := rig.tally.bump point
  let next := { rig with tally := tally }
  match rig.plan.fault? point (tally.get point) with
  | none => (.ok (), next)
  | some failure => (.error failure, next)

/-- The outcome of what can be refused. -/
def orFail {Refusal : Type} (failure : Refusal → Failure) :
    Except Refusal Result → Run Result
  | .ok result => done result
  | .error refusal => fail (failure refusal)

@[simp] theorem record_apply (event : Event) (rig : Rig) :
    record event rig = (.ok (), { rig with events := rig.events.push event }) := rfl

@[simp] theorem record_bind (event : Event) (second : Unit → Run Second) (rig : Rig) :
    (record event >>= second) rig = second () { rig with events := rig.events.push event } := rfl

@[simp] theorem log_bind (level : Level) (message : String) (second : Unit → Run Second)
    (rig : Rig) :
    (log level message >>= second) rig =
      second () { rig with events := rig.events.push (.logged level message) } := rfl

@[simp] theorem log_apply (level : Level) (message : String) (rig : Rig) :
    log level message rig =
      (.ok (), { rig with events := rig.events.push (.logged level message) }) := rfl

/-- A call that the plan lets pass. -/
theorem reach_of_passed {point : Point} {rig : Rig}
    (passed : rig.plan.fault? point (rig.tally.get point + 1) = none) :
    reach point rig = (.ok (), { rig with tally := rig.tally.bump point }) := by
  unfold reach
  simp only [Tally.get_bump_self, passed]

/-- A call that the plan lets fail. -/
theorem reach_of_planned {point : Point} {rig : Rig} {failure : Failure}
    (planned : rig.plan.fault? point (rig.tally.get point + 1) = some failure) :
    reach point rig = (.error failure, { rig with tally := rig.tally.bump point }) := by
  unfold reach
  simp only [Tally.get_bump_self, planned]

/-- Whether it passes or fails, a call is counted. -/
theorem reach_snd (point : Point) (rig : Rig) :
    (reach point rig).2 = { rig with tally := rig.tally.bump point } := by
  unfold reach
  dsimp only
  split <;> rfl

@[simp] theorem orFail_ok {Refusal : Type} (failure : Refusal → Failure) (result : Result) :
    (orFail failure (.ok result) : Run Result) = pure result := rfl

end Run

end KeyFeed
