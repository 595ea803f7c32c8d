import Stitch.Foundation.FallibleState

/-!
# Programs that take turns

A program on a shared state is a sequence of atomic steps; between two of them other programs
may run. `Ensures` says what a program ends with when the others respect a relation, `interleave`
runs two programs by a schedule.
-/

namespace Stitch.Foundation.Interleaving

open FallibleState

/-- A finished program, or an atomic step and what is left to do after it. -/
inductive Steps (State Failure Result : Type) where
  | done (outcome : Except Failure Result)
  | step (effect : State → State) (rest : State → Steps State Failure Result)

variable {State Failure Result Other Left Right : Type}

def resume (next : Result → Steps State Failure Other) :
    Except Failure Result → Steps State Failure Other
  | .ok result => next result
  | .error failure => .done (.error failure)

def followedBy : Steps State Failure Result → (Result → Steps State Failure Other) →
    Steps State Failure Other
  | .done outcome, next => resume next outcome
  | .step effect rest, next => .step effect (fun state => followedBy (rest state) next)

instance : Monad (Steps State Failure) where
  pure result := .done (.ok result)
  bind := followedBy

def atomic (program : Fallible State Failure Result) : Steps State Failure Result :=
  .step (fun state => (program state).2) (fun state => .done (program state).1)

def tried : Steps State Failure Result → Steps State Failure (Except Failure Result)
  | .done outcome => .done (.ok outcome)
  | .step effect rest => .step effect (fun state => tried (rest state))

def alone : Steps State Failure Result → Fallible State Failure Result
  | .done outcome => settle outcome
  | .step effect rest => fun state => alone (rest state) (effect state)

def ended : Steps State Failure Result → Option (Except Failure Result)
  | .done outcome => some outcome
  | .step _ _ => none

theorem done_of_ended {program : Steps State Failure Result} {outcome : Except Failure Result}
    (finished : ended program = some outcome) : program = .done outcome := by
  cases program with
  | done result => exact congrArg Steps.done (Option.some.inj finished)
  | step effect rest => cases finished

inductive Turn where
  | left
  | right
  deriving DecidableEq

def advance (state : State) : Steps State Failure Result → State × Steps State Failure Result
  | .done outcome => (state, .done outcome)
  | .step effect rest => (effect state, rest state)

def advances : Nat → State → Steps State Failure Result → State × Steps State Failure Result
  | 0, state, program => (state, program)
  | turns + 1, state, program => advances turns (advance state program).1 (advance state program).2

def interleave : List Turn → State → Steps State Failure Left → Steps State Failure Right →
    State × Steps State Failure Left × Steps State Failure Right
  | [], state, left, right => (state, left, right)
  | .left :: schedule, state, left, right =>
    interleave schedule (advance state left).1 (advance state left).2 right
  | .right :: schedule, state, left, right =>
    interleave schedule (advance state right).1 left (advance state right).2

/-- The right program takes no step between the first and the last one of the left. -/
def InOnePiece (schedule : List Turn) (state : State) (left : Steps State Failure Left)
    (right : Steps State Failure Right) : Prop :=
  ∃ early turns rest,
    schedule = List.replicate early .right ++ (List.replicate turns .left ++ rest) ∧
      (ended (advances turns (advances early state right).1 left).2).isSome

section

variable {rely : State → State → Prop} {Holds : State → Prop}

/-- However the state changes between the steps, within the relation, the program ends
with an outcome and a state of the given kind. -/
def Ensures (rely : State → State → Prop) (post : Except Failure Result → State → Prop) :
    Steps State Failure Result → State → Prop
  | .done outcome, state => ∀ after, rely state after → post outcome after
  | .step effect rest, state =>
    ∀ middle, rely state middle → Ensures rely post (rest middle) (effect middle)

/-- Every step from a state with the property leads to one. -/
def Maintains (Holds : State → Prop) : Steps State Failure Result → Prop
  | .done _ => True
  | .step effect rest =>
    ∀ state, Holds state → Holds (effect state) ∧ Maintains Holds (rest state)

variable {post : Except Failure Result → State → Prop} {program : Steps State Failure Result}
  {state : State}

theorem ensures_weaken {weaker : Except Failure Result → State → Prop}
    (weakens : ∀ outcome state, post outcome state → weaker outcome state)
    (ensured : Ensures rely post program state) : Ensures rely weaker program state := by
  induction program generalizing state with
  | done outcome =>
    intro after moved
    exact weakens outcome after (ensured after moved)
  | step effect rest ih =>
    intro middle moved
    exact ih middle (ensured middle moved)

variable {next : Result → Steps State Failure Other}

theorem ensures_bind (reflexive : ∀ state, rely state state)
    {post : Except Failure Other → State → Prop}
    (first : Ensures rely (fun outcome state => Ensures rely post (resume next outcome) state)
      program state) :
    Ensures rely post (program >>= next) state := by
  induction program generalizing state with
  | done outcome => exact first state (reflexive state)
  | step effect rest ih =>
    intro middle moved
    exact ih middle (first middle moved)

theorem ensures_atomic {program : Fallible State Failure Result}
    (ensured : ∀ middle, rely state middle → ∀ after, rely (program middle).2 after →
      post (program middle).1 after) :
    Ensures rely post (atomic program) state :=
  ensured

theorem ensures_tried {post : Except Failure (Except Failure Result) → State → Prop}
    (ensured : Ensures rely (fun outcome => post (.ok outcome)) program state) :
    Ensures rely post (tried program) state := by
  induction program generalizing state with
  | done outcome => exact ensured
  | step effect rest ih =>
    intro middle moved
    exact ih middle (ensured middle moved)

theorem alone_of_ensures (reflexive : ∀ state, rely state state)
    (ensured : Ensures rely post program state) :
    post (alone program state).1 (alone program state).2 := by
  induction program generalizing state with
  | done outcome => exact ensured state (reflexive state)
  | step effect rest ih => exact ih state (ensured state (reflexive state))

theorem alone_keeps (kept : Maintains Holds program) (holds : Holds state) :
    Holds (alone program state).2 := by
  induction program generalizing state with
  | done outcome => exact holds
  | step effect rest ih => exact ih state (kept state holds).2 (kept state holds).1

theorem maintains_bind (first : Maintains Holds program)
    (second : ∀ result, Maintains Holds (next result)) : Maintains Holds (program >>= next) := by
  induction program with
  | done outcome =>
    cases outcome with
    | ok result => exact second result
    | error failure => exact trivial
  | step effect rest ih =>
    intro state holds
    exact ⟨(first state holds).1, ih state (first state holds).2⟩

theorem maintains_atomic {program : Fallible State Failure Result} (kept : Keeps Holds program) :
    Maintains Holds (atomic program) :=
  fun state holds => ⟨kept state holds, trivial⟩

theorem maintains_tried (kept : Maintains Holds program) : Maintains Holds (tried program) := by
  induction program with
  | done outcome => exact trivial
  | step effect rest ih =>
    intro state holds
    exact ⟨(kept state holds).1, ih state (kept state holds).2⟩

end

theorem alone_bind (program : Steps State Failure Result)
    (next : Result → Steps State Failure Other) :
    alone (program >>= next) = (alone program >>= fun result => alone (next result)) := by
  funext state
  induction program generalizing state with
  | done outcome =>
    cases outcome with
    | ok result | error failure => rfl
  | step effect rest ih => exact ih state (effect state)

theorem alone_atomic (program : Fallible State Failure Result) :
    alone (atomic program) = program := rfl

theorem alone_tried (program : Steps State Failure Result) :
    alone (tried program) = attempt (alone program) := by
  funext state
  induction program generalizing state with
  | done outcome => rfl
  | step effect rest ih => exact ih state (effect state)

theorem alone_tried_bind (program : Steps State Failure Result)
    (next : Except Failure Result → Steps State Failure Other) (state : State) :
    alone (tried program >>= next) state =
      alone (next (alone program state).1) (alone program state).2 := by
  rw [alone_bind, alone_tried, bind_attempt]

theorem alone_atomic_bind {program : Fallible State Failure Result} {result : Result}
    {state after : State} (ran : program state = (.ok result, after))
    (next : Result → Steps State Failure Other) :
    alone (atomic program >>= next) state = alone (next result) after := by
  rw [alone_bind, alone_atomic]
  exact bind_of_ok ran

section

variable {state after : State} {program : Steps State Failure Result}
  {outcome : Except Failure Result} {left : Steps State Failure Left}
  {right : Steps State Failure Right} {leftOutcome : Except Failure Left}
  {rightOutcome : Except Failure Right} {schedule : List Turn} {turns : Nat}

theorem alone_of_advances (finished : (advances turns state program).2 = .done outcome) :
    alone program state = (outcome, (advances turns state program).1) := by
  induction turns generalizing state program with
  | zero =>
    change program = .done outcome at finished
    rw [finished]
    rfl
  | succ turns ih =>
    cases program with
    | done result => exact ih finished
    | step effect rest =>
      have ran := ih finished
      exact ran

theorem advances_keeps {Holds : State → Prop} (kept : Maintains Holds program)
    (holds : Holds state) :
    Holds (advances turns state program).1 ∧ Maintains Holds (advances turns state program).2 := by
  induction turns generalizing state program with
  | zero => exact ⟨holds, kept⟩
  | succ turns ih =>
    cases program with
    | done result => exact ih kept holds
    | step effect rest => exact ih (kept state holds).2 (kept state holds).1

theorem interleave_lefts (turns : Nat) (schedule : List Turn) (state : State)
    (left : Steps State Failure Left) (right : Steps State Failure Right) :
    interleave (List.replicate turns .left ++ schedule) state left right =
      interleave schedule (advances turns state left).1 (advances turns state left).2 right := by
  induction turns generalizing state left with
  | zero => rfl
  | succ turns ih => exact ih _ _

theorem interleave_rights (turns : Nat) (schedule : List Turn) (state : State)
    (left : Steps State Failure Left) (right : Steps State Failure Right) :
    interleave (List.replicate turns .right ++ schedule) state left right =
      interleave schedule (advances turns state right).1 left (advances turns state right).2 := by
  induction turns generalizing state right with
  | zero => rfl
  | succ turns ih => exact ih _ _

theorem interleave_after_left (finished : interleave schedule state (.done leftOutcome) right =
      (after, left, .done rightOutcome)) :
    left = .done leftOutcome ∧ alone right state = (rightOutcome, after) := by
  induction schedule generalizing state right with
  | nil =>
    cases finished
    exact ⟨rfl, rfl⟩
  | cons turn rest ih =>
    cases turn with
    | left => exact ih finished
    | right =>
      cases right with
      | done outcome => exact ih finished
      | step effect next =>
        have ran := ih finished
        exact ran

/-- A program in one piece runs as it does alone, and the other one then goes on alone. -/
theorem interleave_in_one_piece (piece : InOnePiece schedule state left right)
    (finished : interleave schedule state left right =
      (after, .done leftOutcome, .done rightOutcome)) :
    ∃ early middle, alone left (advances early state right).1 = (leftOutcome, middle) ∧
      alone (advances early state right).2 middle = (rightOutcome, after) := by
  obtain ⟨early, turns, rest, same, returned⟩ := piece
  obtain ⟨outcome, returned⟩ := Option.isSome_iff_exists.mp returned
  have done := done_of_ended returned
  rw [same, interleave_rights, interleave_lefts, done] at finished
  obtain ⟨same, second⟩ := interleave_after_left finished
  have first := alone_of_advances done
  cases same
  exact ⟨early, _, first, second⟩

end

end Stitch.Foundation.Interleaving
