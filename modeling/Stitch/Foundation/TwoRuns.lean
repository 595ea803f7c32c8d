import Stitch.Foundation.FallibleState

/-!
# Two runs side by side

Started in related states, a program returns the same and ends in related states.
-/

namespace Stitch.Foundation.TwoRuns

open FallibleState

section

variable {State Failure Result Other Item : Type}

def Agrees (Related : State → State → Prop) (program : Fallible State Failure Result) : Prop :=
  ∀ first second, Related first second →
    (program first).1 = (program second).1 ∧ Related (program first).2 (program second).2

variable {Related : State → State → Prop}

theorem agrees_settle (outcome : Except Failure Result) :
    Agrees Related (settle outcome : Fallible State Failure Result) :=
  fun _ _ related => ⟨rfl, related⟩

theorem agrees_pure (result : Result) :
    Agrees Related (pure result : Fallible State Failure Result) :=
  agrees_settle (.ok result)

theorem agrees_inspect {component : State → Result}
    (same : ∀ first second, Related first second → component first = component second) :
    Agrees Related (inspect component : Fallible State Failure Result) :=
  fun first second related => ⟨congrArg Except.ok (same first second related), related⟩

theorem agrees_change {update : State → State}
    (kept : ∀ first second, Related first second → Related (update first) (update second)) :
    Agrees Related (change update : Fallible State Failure Unit) :=
  fun first second related => ⟨rfl, kept first second related⟩

theorem agrees_bind {program : Fallible State Failure Result}
    {next : Result → Fallible State Failure Other} (agrees : Agrees Related program)
    (later : ∀ result, Agrees Related (next result)) : Agrees Related (program >>= next) := by
  intro first second related
  obtain ⟨same, after⟩ := agrees first second related
  change (andThen program next first).1 = (andThen program next second).1 ∧
    Related (andThen program next first).2 (andThen program next second).2
  unfold andThen
  cases ran : program first with
  | mk outcome middle =>
    cases ranSecond : program second with
    | mk outcomeSecond middleSecond =>
      rw [ran, ranSecond] at same after
      cases same
      cases outcome with
      | ok result => exact later result middle middleSecond after
      | error failure => exact ⟨rfl, after⟩

theorem agrees_each {program : Item → Fallible State Failure Unit}
    (agrees : ∀ item, Agrees Related (program item)) (items : List Item) :
    Agrees Related (each program items) := by
  induction items with
  | nil => exact agrees_pure ()
  | cons item rest ih =>
    apply agrees_bind (agrees item)
    intro _
    exact ih

end

section

variable {State Request Answer : Type}

/-- Serve the requests in order; keep the answers given in states that are watched. -/
def serveAll (serve : Request → State → Answer × State) (watched : State → Bool) :
    State → List Request → List Answer × State
  | state, [] => ([], state)
  | state, request :: rest =>
    let later := serveAll serve watched (serve request state).2 rest
    (if watched state then (serve request state).1 :: later.1 else later.1, later.2)

def Meets (serve : Request → State → Answer × State) (allowed : State → Request → Prop) :
    State → List Request → Prop
  | _, [] => True
  | state, request :: rest =>
    allowed state request ∧ Meets serve allowed (serve request state).2 rest

instance decidableMeets (serve : Request → State → Answer × State)
    (allowed : State → Request → Prop) [∀ state request, Decidable (allowed state request)] :
    (state : State) → (requests : List Request) → Decidable (Meets serve allowed state requests)
  | _, [] => isTrue trivial
  | state, request :: rest =>
    have := decidableMeets serve allowed (serve request state).2 rest
    inferInstanceAs (Decidable (_ ∧ _))

theorem serve_all_agrees {serve : Request → State → Answer × State} {watched : State → Bool}
    {allowed : State → Request → Prop} {Related : State → State → Prop}
    (watches : ∀ first second, Related first second → watched first = watched second)
    (kept : ∀ first second request, Related first second → allowed first request →
      allowed second request →
      (watched first = true → (serve request first).1 = (serve request second).1) ∧
        Related (serve request first).2 (serve request second).2)
    {requests : List Request} {first second : State} (related : Related first second)
    (meets : Meets serve allowed first requests)
    (meetsSecond : Meets serve allowed second requests) :
    (serveAll serve watched first requests).1 = (serveAll serve watched second requests).1 ∧
      Related (serveAll serve watched first requests).2
        (serveAll serve watched second requests).2 := by
  induction requests generalizing first second with
  | nil => exact ⟨rfl, related⟩
  | cons request rest ih =>
    obtain ⟨same, after⟩ := kept first second request related meets.1 meetsSecond.1
    obtain ⟨answers, final⟩ := ih after meets.2 meetsSecond.2
    refine ⟨?_, final⟩
    have seen := watches first second related
    unfold serveAll
    dsimp only
    rw [← seen, answers]
    cases watching : watched first with
    | false => rfl
    | true => rw [same watching]

end

end Stitch.Foundation.TwoRuns
