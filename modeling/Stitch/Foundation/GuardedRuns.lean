import Mathlib.Logic.Basic

/-!
# Runs of a step function under a condition

A system is a partial step function. `Reaches` collects the states of the runs whose every action
meets a condition, `replay` follows one given list of actions.
-/

namespace Stitch.Foundation.GuardedRuns

variable {State Action : Type}

inductive Reaches (step : State → Action → Option State) (allowed : State → Action → Prop)
    (first : State) : State → Prop where
  | start : Reaches step allowed first first
  | next {state after : State} (action : Action) (before : Reaches step allowed first state)
      (permitted : allowed state action) (taken : step state action = some after) :
      Reaches step allowed first after

variable {step : State → Action → Option State} {allowed : State → Action → Prop}
  {first state : State}

theorem reaches_invariant (Holds : State → Prop) (initial : Holds first)
    (kept : ∀ before action after, Holds before → allowed before action →
      step before action = some after → Holds after)
    (run : Reaches step allowed first state) : Holds state := by
  induction run with
  | start => exact initial
  | next action _ permitted taken ih => exact kept _ action _ ih permitted taken

/-- A token that never goes back, and goes up with every change of what is viewed, tells the
changes of a whole run. -/
theorem reaches_detects {View : Type} (token : State → Nat) (view : State → View)
    (tells : ∀ before action after, allowed before action → step before action = some after →
      token before < token after ∨ token before = token after ∧ view before = view after)
    (run : Reaches step allowed first state) :
    token first < token state ∨ token first = token state ∧ view first = view state := by
  induction run with
  | start => exact .inr ⟨rfl, rfl⟩
  | next action _ permitted taken ih =>
    rcases tells _ action _ permitted taken with rises | ⟨stays, seen⟩
    · rcases ih with rose | ⟨stayed, _⟩
      · exact .inl (Nat.lt_trans rose rises)
      · exact .inl (stayed ▸ rises)
    · rw [← stays, ← seen]
      exact ih

theorem reaches_weaken {weaker : State → Action → Prop}
    (weakens : ∀ state action, allowed state action → weaker state action)
    (run : Reaches step allowed first state) : Reaches step weaker first state := by
  induction run with
  | start => exact .start
  | next action _ permitted taken ih => exact ih.next action (weakens _ action permitted) taken

def replay (step : State → Action → Option State) (allowed : State → Action → Prop)
    [∀ state action, Decidable (allowed state action)] : State → List Action → Option State
  | state, [] => some state
  | state, action :: rest =>
    if allowed state action then
      (step state action).bind (fun after => replay step allowed after rest)
    else none

theorem reaches_of_replay [∀ state action, Decidable (allowed state action)]
    {before : State} {actions : List Action} (run : Reaches step allowed first before)
    (followed : replay step allowed before actions = some state) :
    Reaches step allowed first state := by
  induction actions generalizing before with
  | nil =>
    rw [← Option.some.inj followed]
    exact run
  | cons action rest ih =>
    rw [replay] at followed
    by_cases permitted : allowed before action
    · rw [if_pos permitted] at followed
      obtain ⟨after, taken, later⟩ := Option.bind_eq_some_iff.mp followed
      exact ih (run.next action permitted taken) later
    · rw [if_neg permitted] at followed
      cases followed

end Stitch.Foundation.GuardedRuns
