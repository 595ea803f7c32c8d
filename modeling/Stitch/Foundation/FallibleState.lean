import Mathlib.Logic.Basic

/-!
# Programs that fail and keep their state

A program reads and changes a state and either returns a result or fails. A
failure ends the program but undoes nothing: the state it had reached stays.
-/

namespace Stitch.Foundation.FallibleState

def Fallible (State Failure Result : Type) : Type :=
  State → Except Failure Result × State

variable {State Failure Result Other Item : Type}

def andThen (program : Fallible State Failure Result)
    (next : Result → Fallible State Failure Other) : Fallible State Failure Other :=
  fun state =>
    match program state with
    | (.ok result, after) => next result after
    | (.error failure, after) => (.error failure, after)

instance : Monad (Fallible State Failure) where
  pure result := fun state => (.ok result, state)
  bind := andThen

def inspect (component : State → Result) : Fallible State Failure Result :=
  fun state => (.ok (component state), state)

def change (update : State → State) : Fallible State Failure Unit :=
  fun state => (.ok (), update state)

/-- A program whose outcome is known beforehand. -/
def settle (outcome : Except Failure Result) : Fallible State Failure Result :=
  fun state => (outcome, state)

/-- The failure of a program is handed on as a result, so that what follows still runs. -/
def attempt (program : Fallible State Failure Result) :
    Fallible State Failure (Except Failure Result) :=
  fun state => (.ok (program state).1, (program state).2)

/-- The program on every item in turn, up to its first failure. -/
def each (program : Item → Fallible State Failure Unit) :
    List Item → Fallible State Failure Unit
  | [] => pure ()
  | item :: rest => do
    program item
    each program rest

def gather (program : Item → Fallible State Failure Result) :
    List Item → Fallible State Failure (List Result)
  | [] => pure []
  | item :: rest => do
    let first ← program item
    let later ← gather program rest
    pure (first :: later)

variable {program : Fallible State Failure Result} {next : Result → Fallible State Failure Other}
  {middle state : State}

theorem bind_of_ok {result : Result} (first : program state = (.ok result, middle)) :
    (program >>= next) state = next result middle := by
  change andThen program next state = _
  rw [andThen, first]

theorem bind_of_error {failure : Failure} (first : program state = (.error failure, middle)) :
    (program >>= next) state = (.error failure, middle) := by
  change andThen program next state = _
  rw [andThen, first]

/-- When the outcome of the second program does not depend on the state it runs in, the outcome of
both is computed from the outcome of the first. -/
theorem outcome_bind (answer : Result → Except Failure Other)
    (answers : ∀ result state, (next result state).1 = answer result)
    (program : Fallible State Failure Result) (state : State) :
    ((program >>= next) state).1 = (program state).1.bind answer := by
  change (andThen program next state).1 = _
  unfold andThen
  cases program state with
  | mk outcome after =>
    cases outcome with
    | error failure => rfl
    | ok result => exact answers result after

theorem state_then_pure (program : Fallible State Failure Result) (value : Result → Other)
    (state : State) :
    ((program >>= fun result => pure (value result)) state).2 = (program state).2 := by
  change (andThen program _ state).2 = _
  unfold andThen
  cases program state with
  | mk outcome after =>
    cases outcome with
    | error failure | ok result => rfl

theorem bind_inspect (component : State → Result)
    (next : Result → Fallible State Failure Other) (state : State) :
    (inspect component >>= next) state = next (component state) state :=
  bind_of_ok rfl

theorem bind_attempt (program : Fallible State Failure Result)
    (next : Except Failure Result → Fallible State Failure Other) (state : State) :
    (attempt program >>= next) state = next (program state).1 (program state).2 :=
  bind_of_ok rfl

theorem bind_ok_iff {final : State} {value : Other} :
    (program >>= next) state = (.ok value, final) ↔
      ∃ result middle, program state = (.ok result, middle) ∧
        next result middle = (.ok value, final) := by
  change andThen program next state = _ ↔ _
  unfold andThen
  constructor
  · intro finished
    cases first : program state with
    | mk outcome middle =>
      rw [first] at finished
      cases outcome with
      | ok result => exact ⟨result, middle, rfl, finished⟩
      | error failure => cases finished
  · intro parts
    obtain ⟨result, middle, first, second⟩ := parts
    rw [← second]
    exact bind_of_ok first

theorem ended_ok {run : Except Failure Unit × State} (well : run.1.isOk = true) :
    run = (.ok (), run.2) := by
  obtain ⟨outcome, state⟩ := run
  cases outcome with
  | error failure => cases well
  | ok result => rfl

theorem each_append (program : Item → Fallible State Failure Unit) (items later : List Item)
    (state : State) :
    each program (items ++ later) state =
      (each program items >>= fun _ => each program later) state := by
  induction items generalizing state with
  | nil => rfl
  | cons item rest ih =>
    cases ran : program item state with
    | mk outcome after =>
      cases outcome with
      | error failure =>
        have stopped : each program (item :: rest) state = (.error failure, after) :=
          bind_of_error ran
        rw [bind_of_error stopped]
        exact bind_of_error ran
      | ok result =>
        have continued : each program (item :: rest) state = each program rest after :=
          bind_of_ok ran
        have shared : (each program (item :: rest) >>= fun _ => each program later) state =
            (each program rest >>= fun _ => each program later) after := by
          change andThen (each program (item :: rest)) _ state =
            andThen (each program rest) _ after
          rw [andThen, andThen, continued]
        rw [shared, ← ih after]
        exact bind_of_ok ran

/-- The program returns from every state. -/
def Succeeds (program : Fallible State Failure Result) : Prop :=
  ∀ state, ∃ result after, program state = (.ok result, after)

theorem succeeds_pure (result : Result) :
    Succeeds (pure result : Fallible State Failure Result) := fun state =>
  ⟨result, state, rfl⟩

theorem succeeds_inspect (component : State → Result) :
    Succeeds (inspect component : Fallible State Failure Result) := fun state =>
  ⟨component state, state, rfl⟩

theorem succeeds_attempt (program : Fallible State Failure Result) :
    Succeeds (attempt program) := fun state =>
  ⟨(program state).1, (program state).2, rfl⟩

theorem succeeds_bind (first : Succeeds program) (second : ∀ result, Succeeds (next result)) :
    Succeeds (program >>= next) := by
  intro state
  obtain ⟨result, middle, ran⟩ := first state
  rw [bind_of_ok ran]
  exact second result middle

theorem outcome_of_succeeds (succeeds : Succeeds program) (outcome : Except Failure Other)
    (state : State) :
    ((program >>= fun _ => settle outcome) state).1 = outcome := by
  obtain ⟨result, middle, ran⟩ := succeeds state
  rw [bind_of_ok ran]
  rfl

theorem gather_ok {program : Item → Fallible State Failure Result} {value : Item → Result}
    (returns : ∀ item state result after,
      program item state = (.ok result, after) → result = value item) {items : List Item}
    {after : State} {results : List Result}
    (finished : gather program items state = (.ok results, after)) :
    results = items.map value := by
  induction items generalizing state results with
  | nil =>
    cases finished
    rfl
  | cons item rest ih =>
    obtain ⟨first, middle, ran, continued⟩ := bind_ok_iff.mp finished
    obtain ⟨later, last, gathered, returned⟩ := bind_ok_iff.mp continued
    cases returned
    rw [List.map_cons, returns item state first middle ran, ih gathered]

/-- The property survives the program, whether it returns or fails. -/
def Keeps (Holds : State → Prop) (program : Fallible State Failure Result) : Prop :=
  ∀ state, Holds state → Holds (program state).2

variable {Holds : State → Prop}

theorem Keeps.after {program : Fallible State Failure Result} (kept : Keeps Holds program)
    {state final : State} {outcome : Except Failure Result} (holds : Holds state)
    (ran : program state = (outcome, final)) : Holds final := by
  have reached := kept state holds
  rw [ran] at reached
  exact reached

theorem keeps_pure (result : Result) :
    Keeps Holds (pure result : Fallible State Failure Result) :=
  fun _ holds => holds

theorem keeps_inspect (component : State → Result) :
    Keeps Holds (inspect component : Fallible State Failure Result) :=
  fun _ holds => holds

theorem keeps_settle (outcome : Except Failure Result) :
    Keeps Holds (settle outcome : Fallible State Failure Result) :=
  fun _ holds => holds

theorem keeps_change {update : State → State}
    (kept : ∀ state, Holds state → Holds (update state)) :
    Keeps Holds (change update : Fallible State Failure Unit) :=
  kept

theorem keeps_bind (first : Keeps Holds program) (second : ∀ result, Keeps Holds (next result)) :
    Keeps Holds (program >>= next) := by
  intro state holds
  change Holds (andThen program next state).2
  unfold andThen
  have middle := first state holds
  cases ran : program state with
  | mk outcome after =>
    rw [ran] at middle
    cases outcome with
    | ok result => exact second result after middle
    | error failure => exact middle

theorem keeps_attempt (kept : Keeps Holds program) :
    Keeps Holds (attempt program) :=
  kept

theorem keeps_each {program : Item → Fallible State Failure Unit} (items : List Item)
    (kept : ∀ item ∈ items, Keeps Holds (program item)) : Keeps Holds (each program items) := by
  induction items with
  | nil => exact keeps_pure ()
  | cons item rest ih =>
    apply keeps_bind (kept item List.mem_cons_self)
    intro _
    exact ih (fun later member => kept later (List.mem_cons_of_mem item member))

theorem keeps_gather {program : Item → Fallible State Failure Result}
    (kept : ∀ item, Keeps Holds (program item)) (items : List Item) :
    Keeps Holds (gather program items) := by
  induction items with
  | nil => exact keeps_pure []
  | cons item rest ih =>
    apply keeps_bind (kept item)
    intro _
    apply keeps_bind ih
    intro _
    exact keeps_pure _

end Stitch.Foundation.FallibleState
