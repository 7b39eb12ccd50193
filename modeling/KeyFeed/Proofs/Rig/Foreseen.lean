/-
This file says which failures are foreseen at each call to the surroundings, and carries
the causes for which an activity fails from its parts to the whole. A cause is judged under
a plan, which no activity changes: so what the plan foresees bounds what every call of the
activity can come to.
-/

import KeyFeed.Proofs.Rig.Activity

namespace KeyFeed

open KeyFeed.Run

/-! ### What is foreseen -/

/-- The failure is one that a call at the point is prepared for. A sleep is prepared for the user
alone, and an observer of the echo for everything. -/
def Point.foresees : Point → Failure → Bool
  | opening, failure => failure.isRefusedOpening
  | write, failure => failure.isTransport
  | flush, failure => failure.isTransport
  | close, failure => failure.isTransport
  | sleep, failure => !failure.isOrdinary
  | sink, _ => true
  | consoleCreation, failure => failure.isConsole
  | consoleSetUp, failure => failure.isConsole
  | consoleRestoring, failure => failure.isOrdinary

/-- Every failure of the plan is foreseen where it comes up. -/
structure Plan.Foreseen (plan : Plan) : Prop where
  faults : ∀ fault ∈ plan.faults, fault.point.foresees fault.failure = true
  ports : ∀ failure, plan.ports = .error failure → failure.isSystem = true

theorem Plan.Foreseen.fault {plan : Plan} (foreseen : plan.Foreseen) {point : Point} {count : Nat}
    {failure : Failure} (planned : plan.fault? point count = some failure) :
    point.foresees failure = true := by
  obtain ⟨fault, found, rfl⟩ := Option.map_eq_some_iff.mp planned
  have same : fault.point = point ∧ fault.count = count := by
    simpa using List.find?_some found
  rw [← same.1]
  exact foreseen.faults fault (List.mem_of_find?_eq_some found)

namespace Run

variable {First Second Result : Type} {plan : Plan} {sort : Failure → Prop}

/-! ### Causes -/

/-- Under the plan, which the activity keeps, it fails for causes of the sort alone. -/
def FailsBy (plan : Plan) (sort : Failure → Prop) (activity : Run Result) : Prop :=
  ∀ rig, rig.plan = plan → (activity rig).2.plan = plan ∧
    ∀ failure, (activity rig).1 = .error failure → sort failure

namespace FailsBy

theorem mono {larger : Failure → Prop} {activity : Run Result} (fails : FailsBy plan sort activity)
    (implies : ∀ failure, sort failure → larger failure) : FailsBy plan larger activity := by
  intro rig planned
  obtain ⟨kept, causes⟩ := fails rig planned
  exact ⟨kept, fun failure failed => implies failure (causes failure failed)⟩

theorem pure (result : Result) : FailsBy plan sort (pure result : Run Result) :=
  fun _ planned => ⟨planned, by intro failure failed; cases failed⟩

theorem fail {failure : Failure} (belongs : sort failure) :
    FailsBy plan sort (Run.fail failure : Run Result) :=
  fun _ planned => ⟨planned, by intro other failed; cases failed; exact belongs⟩

theorem change {update : Rig → Rig} (keeps : ∀ rig, (update rig).plan = rig.plan) :
    FailsBy plan sort (Run.change update) :=
  fun rig planned => ⟨(keeps rig).trans planned, by intro failure failed; cases failed⟩

theorem record (event : Event) : FailsBy plan sort (Run.record event) := change fun _ => rfl

theorem log (level : Level) (message : String) : FailsBy plan sort (Run.log level message) :=
  record _

/-- What never fails needs to keep the plan only. -/
theorem of_neverFails {activity : Run Unit} (safe : NeverFails activity)
    (keeps : ∀ rig, (activity rig).2.plan = rig.plan) : FailsBy plan sort activity := by
  intro rig planned
  refine ⟨(keeps rig).trans planned, fun failure failed => ?_⟩
  rw [safe rig] at failed
  cases failed

theorem look {second : Rig → Run Second} (fails : ∀ rig, FailsBy plan sort (second rig)) :
    FailsBy plan sort (Run.look >>= second) := fun rig => fails rig rig

theorem ite {condition : Prop} [Decidable condition] {first second : Run Result}
    (holds : condition → FailsBy plan sort first) (fails : ¬condition → FailsBy plan sort second) :
    FailsBy plan sort (if condition then first else second) := by
  by_cases met : condition
  · rw [if_pos met]
    exact holds met
  · rw [if_neg met]
    exact fails met

theorem bind {first : Run First} {second : First → Run Second} (begins : FailsBy plan sort first)
    (ends : ∀ result, FailsBy plan sort (second result)) :
    FailsBy plan sort (first >>= second) := by
  intro rig planned
  obtain ⟨kept, causes⟩ := begins rig planned
  rcases outcome : first rig with ⟨failure | result, middle⟩
  · rw [outcome] at kept causes
    rw [bind_of_error outcome]
    refine ⟨kept, fun other failed => ?_⟩
    cases failed
    exact causes failure rfl
  · rw [outcome] at kept
    rw [bind_of_ok outcome]
    exact ends result middle kept

/-- Two activities in a row from one state: the second one is judged in the states it can find. -/
theorem bind_at {first : Run First} {second : First → Run Second} {rig : Rig}
    (begins : FailsBy plan sort first) (planned : rig.plan = plan)
    (ends : ∀ result middle, first rig = (.ok result, middle) → middle.plan = plan →
      ∀ failure, (second result middle).1 = .error failure → sort failure) :
    ∀ failure, ((first >>= second) rig).1 = .error failure → sort failure := by
  obtain ⟨kept, causes⟩ := begins rig planned
  intro failure failed
  rcases outcome : first rig with ⟨cause | result, middle⟩
  · rw [outcome] at causes
    rw [bind_of_error outcome] at failed
    cases failed
    exact causes failure rfl
  · rw [outcome] at kept
    rw [bind_of_ok outcome] at failed
    exact ends result middle outcome kept failure failed

/-- What is done about a failure relies on its cause. -/
theorem attempt {inner : Failure → Prop} {activity : Run First}
    {second : Except Failure First → Run Second} (fails : FailsBy plan inner activity)
    (passed : ∀ result, FailsBy plan sort (second (.ok result)))
    (failed : ∀ failure, inner failure → FailsBy plan sort (second (.error failure))) :
    FailsBy plan sort (Run.attempt activity >>= second) := by
  intro rig planned
  obtain ⟨kept, causes⟩ := fails rig planned
  rw [attempt_bind]
  rcases outcome : (activity rig).1 with failure | result
  · exact failed failure (causes failure outcome) _ kept
  · exact passed result _ kept

theorem ensuring {activity : Run Result} {after : Run Unit} (fails : FailsBy plan sort activity)
    (ends : FailsBy plan sort after) : FailsBy plan sort (Run.ensuring activity after) :=
  attempt fails (fun result => ends.bind fun _ => pure result)
    fun _ belongs => ends.bind fun _ => fail belongs

end FailsBy

/-- A call fails as the plan says. -/
theorem reach_failsBy_planned (plan : Plan) (point : Point) :
    FailsBy plan (fun failure => ∃ count, plan.fault? point count = some failure)
      (reach point) := by
  intro rig planned
  subst planned
  refine ⟨by rw [reach_snd], fun failure failed => ?_⟩
  cases due : rig.plan.fault? point (rig.tally.get point + 1) with
  | none =>
    rw [reach_of_passed due] at failed
    cases failed
  | some other =>
    rw [reach_of_planned due] at failed
    cases failed
    exact ⟨_, due⟩

/-- A call fails as it is foreseen. -/
theorem reach_failsBy (foreseen : plan.Foreseen) (point : Point) :
    FailsBy plan (fun failure => point.foresees failure = true) (reach point) :=
  (reach_failsBy_planned plan point).mono fun _ ⟨_, due⟩ => foreseen.fault due

end Run

end KeyFeed
