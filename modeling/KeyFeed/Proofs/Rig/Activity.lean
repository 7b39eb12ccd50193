/-
This file carries facts about activities from their parts to the whole. A relation
between states that is reflexive and transitive holds between the state before an
activity and the state after it as soon as it holds for each part, because the parts
follow each other. There are two forms: `Leads` speaks of every outcome, and `Achieves`
of the activities that do not fail, where each part may rely on the success of the
others. Besides, some activities do not fail from any state.
-/

import KeyFeed.Rig.Run
import Mathlib.Order.Defs.Unbundled

namespace KeyFeed.Run

variable {First Second Result : Type} {relation : Rig → Rig → Prop}

/-! ### Whatever the outcome -/

/-- The activity leads from every state to a related one, whatever its outcome. -/
def Leads (relation : Rig → Rig → Prop) (activity : Run Result) : Prop :=
  ∀ rig, relation rig (activity rig).2

theorem Leads.mono {larger : Rig → Rig → Prop} {activity : Run Result}
    (leads : Leads relation activity)
    (implies : ∀ rig next, relation rig next → larger rig next) : Leads larger activity :=
  fun rig => implies rig _ (leads rig)

/-- What depends on the state is judged in that state. -/
theorem Leads.look {second : Rig → Run Second}
    (leads : ∀ rig, relation rig (second rig rig).2) : Leads relation (Run.look >>= second) :=
  leads

theorem Leads.attempt {activity : Run Result} (leads : Leads relation activity) :
    Leads relation (Run.attempt activity) := leads

theorem Leads.ite {condition : Prop} [Decidable condition] {first second : Run Result}
    (holds : Leads relation first) (fails : Leads relation second) :
    Leads relation (if condition then first else second) := by
  split
  · exact holds
  · exact fails

section Preorder

variable [IsPreorder Rig relation]

theorem Leads.pure (result : Result) : Leads relation (pure result : Run Result) :=
  fun rig => Std.Refl.refl rig

theorem Leads.fail (failure : Failure) : Leads relation (Run.fail failure : Run Result) :=
  fun rig => Std.Refl.refl rig

theorem Leads.resume (outcome : Except Failure Result) : Leads relation (Run.resume outcome) := by
  cases outcome with
  | ok result => exact Leads.pure result
  | error failure => exact Leads.fail failure

theorem Leads.orFail {Refusal : Type} (failure : Refusal → Failure)
    (outcome : Except Refusal Result) : Leads relation (Run.orFail failure outcome) := by
  cases outcome with
  | ok result => exact Leads.pure result
  | error refusal => exact Leads.fail (failure refusal)

/-- Two activities in a row, of which the second one is judged in the state that it finds. -/
theorem Leads.bind_at {first : Run First} {second : First → Run Second}
    (leads : Leads relation first)
    (next : ∀ rig result middle, first rig = (.ok result, middle) →
      relation middle (second result middle).2) : Leads relation (first >>= second) := by
  intro rig
  have begun := leads rig
  rcases outcome : first rig with ⟨failure | result, middle⟩
  · rw [bind_of_error outcome]
    rwa [outcome] at begun
  · rw [bind_of_ok outcome]
    rw [outcome] at begun
    exact IsTrans.trans rig middle _ begun (next rig result middle outcome)

theorem Leads.bind {first : Run First} {second : First → Run Second}
    (leads : Leads relation first) (next : ∀ result, Leads relation (second result)) :
    Leads relation (first >>= second) :=
  leads.bind_at fun _ result middle _ => next result middle

theorem Leads.ensuring {activity : Run Result} {after : Run Unit}
    (leads : Leads relation activity) (last : Leads relation after) :
    Leads relation (Run.ensuring activity after) :=
  leads.attempt.bind fun outcome => last.bind fun _ => Leads.resume outcome

end Preorder

/-! ### When the activity succeeds -/

/-- The activity leads from every state in which it succeeds to a related one. -/
def Achieves (relation : Rig → Rig → Prop) (activity : Run Result) : Prop :=
  ∀ rig result next, activity rig = (.ok result, next) → relation rig next

theorem Leads.achieves {activity : Run Result} (leads : Leads relation activity) :
    Achieves relation activity := by
  intro rig result next succeeded
  have led := leads rig
  rwa [succeeded] at led

theorem Achieves.fail (failure : Failure) : Achieves relation (Run.fail failure : Run Result) := by
  intro rig result next impossible
  cases impossible

section Preorder

variable [IsPreorder Rig relation]

theorem Achieves.pure (result : Result) : Achieves relation (pure result : Run Result) :=
  (Leads.pure result).achieves

theorem Achieves.bind {first : Run First} {second : First → Run Second}
    (achieves : Achieves relation first) (next : ∀ result, Achieves relation (second result)) :
    Achieves relation (first >>= second) := by
  intro rig result final succeeded
  obtain ⟨middle, halfway, begun, ended⟩ := bind_eq_ok_iff.mp succeeded
  exact IsTrans.trans rig halfway final (achieves rig middle halfway begun)
    (next middle halfway result final ended)

end Preorder

/-! ### Without failure -/

/-- The activity succeeds from every state. -/
def NeverFails (activity : Run Unit) : Prop := ∀ rig, (activity rig).1 = .ok ()

theorem NeverFails.apply {activity : Run Unit} (safe : NeverFails activity) (rig : Rig) :
    activity rig = (.ok (), (activity rig).2) := Prod.ext (safe rig) rfl

theorem NeverFails.look {second : Rig → Run Unit} (safe : ∀ rig, NeverFails (second rig)) :
    NeverFails (Run.look >>= second) := fun rig => safe rig rig

theorem NeverFails.bind {first : Run Unit} {second : Unit → Run Unit} (begins : NeverFails first)
    (ends : NeverFails (second ())) : NeverFails (first >>= second) := by
  intro rig
  rw [bind_of_ok (begins.apply rig)]
  exact ends _

/-- Whatever an activity comes to, what follows succeeds. -/
theorem NeverFails.attempt {activity : Run Result} {second : Except Failure Result → Run Unit}
    (safe : ∀ outcome, NeverFails (second outcome)) :
    NeverFails (Run.attempt activity >>= second) := fun rig => safe _ (activity rig).2

end KeyFeed.Run
