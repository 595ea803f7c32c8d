import Stitch.Client.EventReplay
import Stitch.Client.ScopeReplacement

/-!
# Listing rows from either layer

`Store::list` and `Store::child_count` ask the persistence layer when there is one and the
memory cache otherwise. Over the persistence layer a scope is compared whenever one is given;
over the memory cache for scoped entities only, and a scope not given counts as the empty name.
The database of either layer refuses to compare a field that the entity's schema does not declare.
-/

namespace Stitch.Client.Listing

open Foundation.FallibleState Mutations LocalRows
open EventReplay (Quiet)
open ScopeReplacement (boards boardRow taskRow startState)

inductive SortDirection where
  | asc
  | desc
  deriving DecidableEq, Repr

structure SortField where
  field : String
  direction : SortDirection
  deriving DecidableEq

structure ListFilter where
  scopeId : Option String
  sort : List SortField
  projection : List String
  deriving DecidableEq

/-- A filter of the database; the client compares for equality only. -/
structure Filter where
  field : String
  value : Value
  deriving DecidableEq

def Filter.passes (filter : Filter) (row : Record) : Bool :=
  row.lookup filter.field == some filter.value

/-- The fields that each configured entity declares. `register_schemas` gives them to the database
of either layer. -/
abbrev Schemas := List (String × List String)

/-- The database filters an entity by the fields of its schema only, if it has one. -/
def Filter.admitted (schemas : Schemas) (entity : String) (filter : Filter) : Bool :=
  (schemas.lookup entity).all (fun fields => fields.contains filter.field)

/-- What the database answers to a list, when the call itself does not fail. -/
def answer (schemas : Schemas) (db : Db) (entity : String) (filters : List Filter) :
    Except Error (List Record) :=
  if filters.all (Filter.admitted schemas entity) then
    .ok (db.list entity (fun row => filters.all (fun filter => filter.passes row)))
  else .error (.mqdb ("list:" ++ entity) .other)

section

-- `arrange` is what the database makes of the selected rows: it sorts and projects them.
variable [Database] (config : StoreConfig) (schemas : Schemas)
  (arrange : List SortField → List String → List Record → List Record)

def scopeFilter (scope : String) : Filter := ⟨config.scopeField, .string scope⟩

/-- `PersistenceLayer::list_with_projection`. -/
def listWithProjection (db : Db) (entity : String) (filters : List Filter)
    (sort : List SortField) (projection : List String) : StoreM (List Record) := do
  dbCall
  let rows ← settle (answer schemas db entity filters)
  pure (arrange sort projection rows)

def listFilters (entity scope : String) : List Filter :=
  if isScoped config entity then [scopeFilter config scope] else []

def memoryList (entity scope : String) : StoreM (List Record) := do
  dbCall
  let db ← inspect LocalState.memory
  settle (answer schemas db entity (listFilters config entity scope))

def list (entity : String) (filter : Option ListFilter) : StoreM (List Record) := do
  match ← inspect LocalState.persistence with
  | some db =>
    listWithProjection schemas arrange db entity
      ((filter.bind ListFilter.scopeId).map (scopeFilter config)).toList
      ((filter.map ListFilter.sort).getD []) ((filter.map ListFilter.projection).getD [])
  | none => memoryList config schemas entity ((filter.bind ListFilter.scopeId).getD "")

def childCount (entity scope : String) : StoreM Nat := do
  match ← inspect LocalState.persistence with
  | some db => do
    let rows ← listWithProjection schemas arrange db entity [scopeFilter config scope] [] []
    pure rows.length
  | none => do
    let rows ← memoryList config schemas entity scope
    pure rows.length

end

section

variable {Result : Type}

/-- Both calls succeed with results that are alike, or both fail with the same error. -/
def Agree (Same : Result → Result → Prop) : Except Error Result → Except Error Result → Prop
  | .ok left, .ok right => Same left right
  | .error left, .error right => left = right
  | _, _ => False

def Plain (filter : Option ListFilter) : Prop :=
  ∀ asked ∈ filter, asked.sort = [] ∧ asked.projection = []

/-- The database does not fail and the rows are in the memory cache, with no persistence. -/
structure CachedOnly (db : Db) (state : LocalState) : Prop where
  faults : state.faults = []
  persistence : state.persistence = none
  memory : state.memory = db

/-- A comparison of lists that sees whether a filter left a row out. -/
structure Counts (Same : List Record → List Record → Prop) : Prop where
  refl : ∀ rows, Same rows rows
  symm : ∀ left right, Same left right → Same right left
  filtered : ∀ rows filter, Same (rows.filter filter) rows ↔ ∀ row ∈ rows, filter row = true

theorem length_counts : Counts (fun left right => left.length = right.length) where
  refl _ := rfl
  symm _ _ := Eq.symm
  filtered _ _ := List.length_filter_eq_length_iff

theorem perm_counts : Counts List.Perm where
  refl := List.Perm.refl
  symm _ _ := List.Perm.symm
  filtered rows filter := by
    constructor
    · intro same
      exact List.length_filter_eq_length_iff.mp same.length_eq
    · intro all
      rw [List.filter_eq_self.mpr all]

theorem list_filtered (db : Db) (entity : String) (filter : Record → Bool) :
    db.list entity filter = (db.list entity (fun _ => true)).filter filter := by
  rw [Db.list, Db.list, List.filter_filterMap]
  apply List.filterMap_congr
  intro entry _
  by_cases ours : entry.1.1 = entity
  · cases passes : filter entry.2 with
    | true | false => simp [ours, passes, Option.filter_some]
  · simp [ours]

variable [Database] {config : StoreConfig} {schemas : Schemas} {db : Db} {entity : String}

/-- The database compares the scope of the entity's rows, and they all name the scope. -/
def AllName (config : StoreConfig) (schemas : Schemas) (db : Db) (entity scope : String) : Prop :=
  (scopeFilter config scope).admitted schemas entity = true ∧
    ∀ row ∈ db.list entity (fun _ => true), row.lookup config.scopeField = some (.string scope)

variable {Same : List Record → List Record → Prop}

omit [Database] in
theorem answer_all (db : Db) :
    answer schemas db entity [] = .ok (db.list entity (fun _ => true)) := rfl

theorem answer_scoped (db : Db) (scope : String) :
    answer schemas db entity [scopeFilter config scope] =
      if (scopeFilter config scope).admitted schemas entity then
        .ok ((db.list entity (fun _ => true)).filter (scopeFilter config scope).passes)
      else .error (.mqdb ("list:" ++ entity) .other) := by
  rw [answer, ← list_filtered]
  simp only [List.all_cons, List.all_nil, Bool.and_true]

theorem scoped_agrees_all_iff (counts : Counts Same) (db : Db) (scope : String) :
    Agree Same (answer schemas db entity [scopeFilter config scope])
        (answer schemas db entity []) ↔ AllName config schemas db entity scope := by
  rw [answer_scoped, answer_all, AllName]
  cases (scopeFilter config scope).admitted schemas entity with
  | false => exact ⟨False.elim, fun admitted => absurd admitted.1 Bool.false_ne_true⟩
  | true =>
    refine (counts.filtered _ _).trans ?_
    simp only [Filter.passes, scopeFilter, beq_iff_eq, true_and]

omit [Database] in
theorem agree_symm (counts : Counts Same) {left right : Except Error (List Record)} :
    Agree Same left right ↔ Agree Same right left := by
  cases left with
  | ok left =>
    cases right with
    | ok right => exact ⟨counts.symm _ _, counts.symm _ _⟩
    | error failure => exact Iff.rfl
  | error failure =>
    cases right with
    | ok right => exact Iff.rfl
    | error other => exact eq_comm

omit [Database] in
theorem agree_refl (counts : Counts Same) (result : Except Error (List Record)) :
    Agree Same result result := by
  cases result with
  | ok rows => exact counts.refl rows
  | error failure => exact rfl

/-- The two layers agree when a scope is given for scoped entities only, and otherwise when every
row passes the one comparison that is made. -/
theorem answers_agree_iff (counts : Counts Same) (db : Db) (scope : Option String) :
    Agree Same (answer schemas db entity (scope.map (scopeFilter config)).toList)
        (answer schemas db entity (listFilters config entity (scope.getD ""))) ↔
      (isScoped config entity = scope.isSome ∨
        AllName config schemas db entity (scope.getD "")) := by
  rw [listFilters]
  cases isScoped config entity with
  | true =>
    cases scope with
    | some given => exact iff_of_true (agree_refl counts _) (.inl rfl)
    | none =>
      refine (agree_symm counts).trans ((scoped_agrees_all_iff counts db _).trans ?_)
      simp
  | false =>
    cases scope with
    | some given =>
      refine (scoped_agrees_all_iff counts db given).trans ?_
      simp
    | none => exact iff_of_true (agree_refl counts _) (.inl rfl)

variable {arrange : List SortField → List String → List Record → List Record} {state : LocalState}

omit [Database] in
theorem list_with_projection_calm (plain : ∀ rows, arrange [] [] rows = rows)
    (calm : state.faults = []) (filters : List Filter) :
    listWithProjection schemas arrange db entity filters [] [] state =
      (answer schemas db entity filters, state) := by
  rw [listWithProjection, bind_of_ok (db_call_calm calm)]
  cases answered : answer schemas db entity filters with
  | error failure => rfl
  | ok rows =>
    exact congrArg (fun arranged => (Except.ok arranged, state)) (plain rows)

theorem memory_list_cached (cached : CachedOnly db state) (scope : String) :
    memoryList config schemas entity scope state =
      (answer schemas db entity (listFilters config entity scope), state) := by
  rw [memoryList, bind_of_ok (db_call_calm cached.faults), bind_inspect, cached.memory]
  rfl

theorem list_persisted (plain : ∀ rows, arrange [] [] rows = rows) (quiet : Quiet db state)
    {filter : Option ListFilter} (unordered : Plain filter) :
    list config schemas arrange entity filter state =
      (answer schemas db entity ((filter.bind ListFilter.scopeId).map (scopeFilter config)).toList,
        state) := by
  have sort : (filter.map ListFilter.sort).getD [] = [] := by
    cases filter with
    | none => rfl
    | some asked => exact (unordered asked rfl).1
  have projection : (filter.map ListFilter.projection).getD [] = [] := by
    cases filter with
    | none => rfl
    | some asked => exact (unordered asked rfl).2
  rw [list, bind_inspect, quiet.persistence]
  dsimp only
  rw [sort, projection, list_with_projection_calm plain quiet.faults]

theorem list_cached (cached : CachedOnly db state) (filter : Option ListFilter) :
    list config schemas arrange entity filter state =
      (answer schemas db entity
        (listFilters config entity ((filter.bind ListFilter.scopeId).getD "")), state) := by
  rw [list, bind_inspect, cached.persistence]
  exact memory_list_cached cached _

omit [Database] in
/-- A count is the length of the list, or its error. -/
theorem counted {program : StoreM (List Record)} {result : Except Error (List Record)}
    (ran : program state = (result, state)) :
    (do let rows ← program; pure rows.length : StoreM Nat) state =
      (result.map List.length, state) := by
  cases result with
  | ok rows => exact bind_of_ok ran
  | error failure => exact bind_of_error ran

theorem child_count_persisted (plain : ∀ rows, arrange [] [] rows = rows) (quiet : Quiet db state)
    (scope : String) :
    childCount config schemas arrange entity scope state =
      ((answer schemas db entity [scopeFilter config scope]).map List.length, state) := by
  rw [childCount, bind_inspect, quiet.persistence]
  exact counted (list_with_projection_calm plain quiet.faults _)

theorem child_count_cached (cached : CachedOnly db state) (scope : String) :
    childCount config schemas arrange entity scope state =
      ((answer schemas db entity (listFilters config entity scope)).map List.length, state) := by
  rw [childCount, bind_inspect, cached.persistence]
  exact counted (memory_list_cached cached scope)

omit [Database] in
theorem agree_lengths {left right : Except Error (List Record)} :
    Agree Eq (left.map List.length) (right.map List.length) ↔
      Agree (fun left right => left.length = right.length) left right := by
  cases left with
  | ok rows | error failure =>
    cases right with
    | ok others | error other => exact Iff.rfl

/-- A plain listing is the same from both layers exactly when a scope is given for the entities
that have one and only for them, or the database compares the scope field and every row of the
entity names the scope that is given (the empty name when none is). A count of children is the
same exactly when the entity has a scope, or the field is compared and every row names the given
one. -/
theorem listing_same_from_layers_iff (config : StoreConfig) (schemas : Schemas)
    (arrange : List SortField → List String → List Record → List Record)
    (plain : ∀ rows, arrange [] [] rows = rows) (entity : String) (db : Db)
    (persisted cached : LocalState) (quiet : Quiet db persisted) (only : CachedOnly db cached) :
    (∀ filter, Plain filter →
      (Agree List.Perm (list config schemas arrange entity filter persisted).1
          (list config schemas arrange entity filter cached).1 ↔
        isScoped config entity = (filter.bind ListFilter.scopeId).isSome ∨
          AllName config schemas db entity ((filter.bind ListFilter.scopeId).getD ""))) ∧
    ∀ scope,
      Agree Eq (childCount config schemas arrange entity scope persisted).1
          (childCount config schemas arrange entity scope cached).1 ↔
        isScoped config entity = true ∨ AllName config schemas db entity scope := by
  constructor
  · intro filter unordered
    rw [list_persisted plain quiet unordered, list_cached only filter]
    exact answers_agree_iff perm_counts db (filter.bind ListFilter.scopeId)
  · intro scope
    rw [child_count_persisted plain quiet scope, child_count_cached only scope, agree_lengths]
    exact answers_agree_iff length_counts db (some scope)

end

section

def boardDb : Db := createRows [("board", boardRow), ("task", taskRow)]

def persistedBoard : LocalState := startState (some boardDb)

def cachedBoard : LocalState := { startState none with memory := boardDb }

def boardSchemas : Schemas :=
  [("board", ["id", "name"]), ("task", ["id", "boardId", "title", "done"])]

def asStored : List SortField → List String → List Record → List Record := fun _ _ rows => rows

def ofScope (scope : String) : Option ListFilter :=
  some { scopeId := some scope, sort := [], projection := [] }

theorem of_scope_plain (scope : String) : Plain (ofScope scope) := by
  intro asked same
  cases same
  exact ⟨rfl, rfl⟩

theorem tasks_of_board_from_layers :
    Agree List.Perm (list boards boardSchemas asStored "task" (ofScope "b1") persistedBoard).1
        (list boards boardSchemas asStored "task" (ofScope "b1") cachedBoard).1 ∧
      Agree Eq (childCount boards boardSchemas asStored "task" "b1" persistedBoard).1
        (childCount boards boardSchemas asStored "task" "b1" cachedBoard).1 := by
  obtain ⟨lists, counts⟩ := listing_same_from_layers_iff boards boardSchemas asStored
    (fun _ => rfl) "task" boardDb persistedBoard cachedBoard ⟨rfl, rfl⟩ ⟨rfl, rfl, rfl⟩
  exact ⟨(lists _ (of_scope_plain "b1")).mpr (.inl (by decide)),
    (counts "b1").mpr (.inl (by decide))⟩

/-- Without a filter the memory cache lists no task. With a scope the persistence layer refuses to
list or count the boards, whose schema has no scope field. -/
theorem layers_list_differently :
    (list boards boardSchemas asStored "task" none persistedBoard).1 =
        .ok [Database.created taskRow] ∧
      (list boards boardSchemas asStored "task" none cachedBoard).1 = .ok [] ∧
      (list boards boardSchemas asStored "board" (ofScope "b1") persistedBoard).1 =
        .error (.mqdb "list:board" .other) ∧
      (list boards boardSchemas asStored "board" (ofScope "b1") cachedBoard).1 =
        .ok [Database.created boardRow] ∧
      (childCount boards boardSchemas asStored "board" "b1" persistedBoard).1 =
        .error (.mqdb "list:board" .other) ∧
      (childCount boards boardSchemas asStored "board" "b1" cachedBoard).1 = .ok 1 := by
  have quiet : Quiet boardDb persistedBoard := ⟨rfl, rfl⟩
  have only : CachedOnly boardDb cachedBoard := ⟨rfl, rfl, rfl⟩
  have unfiltered : Plain none := by
    intro asked never
    cases never
  have tasks : answer boardSchemas boardDb "task" [] = .ok [Database.created taskRow] :=
    congrArg Except.ok (by decide)
  have unnamed : answer boardSchemas boardDb "task" (listFilters boards "task" "") = .ok [] :=
    congrArg Except.ok (by decide)
  have refused : answer boardSchemas boardDb "board" [scopeFilter boards "b1"] =
      .error (.mqdb "list:board" .other) := if_neg (by decide)
  have boardList : answer boardSchemas boardDb "board" (listFilters boards "board" "b1") =
      .ok [Database.created boardRow] := congrArg Except.ok (by decide)
  rw [list_persisted (fun _ => rfl) quiet unfiltered, list_cached only none,
    list_persisted (fun _ => rfl) quiet (of_scope_plain "b1"), list_cached only (ofScope "b1"),
    child_count_persisted (fun _ => rfl) quiet, child_count_cached only]
  refine ⟨tasks, unnamed, refused, boardList, ?_, ?_⟩
  · rw [refused]
    rfl
  · rw [boardList]
    rfl

end

end Stitch.Client.Listing
