import Mathlib.Logic.Relation

/-!
# Runs that end

A step relation may be taken in any way. `Ends` says that every run from a state
arrives at a goal after finitely many steps, `EndsWithin` bounds their number.
-/

namespace Stitch.Foundation.Ending

variable {State : Type}

inductive Ends (step : State → State → Prop) (goal : State → Prop) : State → Prop where
  | reached {state : State} (there : goal state) : Ends step goal state
  | move {state some : State} (enabled : step state some)
      (later : ∀ next, step state next → Ends step goal next) : Ends step goal state

inductive EndsWithin (step : State → State → Prop) (goal : State → Prop) : Nat → State → Prop where
  | reached {count : Nat} {state : State} (there : goal state) :
      EndsWithin step goal count state
  | move {count : Nat} {state some : State} (enabled : step state some)
      (later : ∀ next, step state next → EndsWithin step goal count next) :
      EndsWithin step goal (count + 1) state

variable {step : State → State → Prop} {goal weaker : State → Prop}
variable {count : Nat} {state : State}

theorem ends_within_imp (ends : EndsWithin step goal count state)
    (implied : ∀ state, goal state → weaker state) : EndsWithin step weaker count state := by
  induction ends with
  | reached there => exact .reached (implied _ there)
  | move enabled _ ih => exact .move enabled ih

theorem ends_within_succ (ends : EndsWithin step goal count state) :
    EndsWithin step goal (count + 1) state := by
  induction ends with
  | reached there => exact .reached there
  | move enabled _ ih => exact .move enabled ih

theorem ends_of_ends_within (ends : EndsWithin step goal count state) : Ends step goal state := by
  induction ends with
  | reached there => exact .reached there
  | move enabled _ ih => exact .move enabled ih

theorem ends_within_keeps {Kept : State → Prop}
    (keeps : ∀ state next, Kept state → step state next → Kept next) (kept : Kept state)
    (ends : EndsWithin step goal count state) :
    EndsWithin step (fun state => goal state ∧ Kept state) count state := by
  induction ends with
  | reached there => exact .reached ⟨there, kept⟩
  | move enabled _ ih =>
    exact .move enabled (fun next taken => ih next taken (keeps _ next kept taken))

/-- When no step leads out of the goal, a run that cannot go on has arrived. -/
theorem goal_of_path {last : State} (still : ∀ state next, goal state → ¬step state next)
    (ends : EndsWithin step goal count state) (path : Relation.ReflTransGen step state last)
    (stuck : ∀ next, ¬step last next) : goal last := by
  induction ends with
  | reached there =>
    rcases path.cases_head with rfl | ⟨next, taken, _⟩
    · exact there
    · exact absurd taken (still _ next there)
  | move enabled _ ih =>
    rcases path.cases_head with rfl | ⟨next, taken, later⟩
    · exact absurd enabled (stuck _)
    · exact ih next taken later

/-- A run that returns to `Kept` again and again does not end. -/
theorem not_ends_of_rounds (Kept : State → Prop)
    (still : ∀ state next, goal state → ¬step state next)
    (round : ∀ state, Kept state → ∃ next, Relation.TransGen step state next ∧ Kept next)
    {kept : State} (path : Relation.ReflTransGen step state kept) (holds : Kept kept) :
    ¬Ends step goal state := by
  intro ends
  induction ends generalizing kept with
  | reached there =>
    obtain ⟨next, again, _⟩ := round kept holds
    obtain ⟨other, taken, _⟩ := Relation.TransGen.head'_iff.mp (again.trans_right path)
    exact still _ other there taken
  | move _ _ ih =>
    obtain ⟨next, again, later⟩ := round kept holds
    obtain ⟨other, taken, rest⟩ := Relation.TransGen.head'_iff.mp (again.trans_right path)
    exact ih other taken rest later

end Stitch.Foundation.Ending
