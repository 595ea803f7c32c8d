import Stitch.Client.RefusedEdits

/-!
# Creating a row whose id exists

`Store::create` of a local row looks for the id in the memory cache only. A row that is persisted
but not cached is replaced by the new one, and deleted when the broker refuses the insert.
-/

namespace Stitch.Client.LocalCreate

open Foundation.FallibleState Mutations Consolidation LocalRows EventReplay
open SyncRequests EditRollback
open ScopeReplacement (boards taskRow)
open RefusedMutations (createTask denied engineFacing stored taskStored)
open RefusedEdits (taskPersisted)

def createKey (call : CreateCall) : RowKey := (call.entity, call.id)

section

variable [Database] {config : StoreConfig} {call : CreateCall} {state : LocalState}

theorem create_row_carries (config : StoreConfig) (call : CreateCall) :
    (call.row config).lookup "id" = some (.string call.id) := by
  rw [CreateCall.row]
  split_ifs with missing
  · have different : "id" ≠ config.scopeField := by
      intro same
      rw [← same, Finmap.lookup_insert] at missing
      simp at missing
    rw [Finmap.lookup_insert_of_ne _ different, Finmap.lookup_insert]
  · exact Finmap.lookup_insert _

structure Created (config : StoreConfig) (call : CreateCall) (state : LocalState) : Prop where
  calm : state.faults = []
  cached : cachedAt (createKey call) state =
    some (cachedAgain config call.entity call.id (call.effectiveScope config) (call.row config))
  stored : storedAt (createKey call) state = some (some (storedAgain call.id (call.row config)))

theorem create_locally_cached (calm : state.faults = [])
    (cached : (cachedAt (createKey call) state).isSome) :
    createLocally config call state =
      (.error (.conflict call.entity call.id), state) := by
  rw [createLocally, bind_of_ok (db_call_calm calm), bind_inspect]
  exact congrFun (if_pos cached) state

theorem create_locally_uncached (calm : state.faults = [])
    (absent : cachedAt (createKey call) state = none) (configured : state.persistence.isSome) :
    ∃ after, createLocally config call state = (.ok (), after) ∧
      Created config call after := by
  have carried := create_row_carries config call
  obtain ⟨memory, written, cached⟩ : ∃ memory, (memoryCreate config call.entity
      (call.effectiveScope config) (call.row config) state).2 = _ ∧ _ :=
    memory_created carried calm
  have ran : memoryCreate config call.entity (call.effectiveScope config)
      (call.row config) state = (.ok (), { state with memory := memory }) := by
    refine Prod.ext ?_ written
    rw [memory_create_calm config calm]
  obtain ⟨db, persisted, stored⟩ : ∃ db, (accessorCreate config call.entity
      (call.row config) { state with memory := memory }).2 = _ ∧ _ :=
    stored_created carried calm configured
  have created : Created config call { state with memory := memory, persistence := some db } :=
    ⟨calm, cached, congrArg some stored⟩
  have unseen : (state.memory.rows.lookup (call.entity, call.id)).isSome = false := by
    change (cachedAt (createKey call) state).isSome = false
    rw [absent]
    rfl
  rw [createLocally, bind_of_ok (db_call_calm calm), bind_inspect, unseen,
    if_neg Bool.false_ne_true, bind_of_ok ran, bind_inspect, if_pos configured, bind_attempt,
    persisted]
  split_ifs with target
  · refine ⟨_, enqueue_calm created.calm _, ?_⟩
    exact ⟨created.calm, created.cached, created.stored⟩
  · exact ⟨_, rfl, created⟩

end

section

variable {call : CreateCall} {state : LocalState} {entity id : String}

theorem lookup_after_delete (db : Db) (entity id : String) :
    ((db.delete entity id).getD db).rows.lookup (entity, id) = none := by
  rw [Db.lookup_deleted, if_pos rfl]

theorem memory_delete_calm (calm : state.faults = []) :
    (memoryDelete entity id state).2 =
      { state with memory := (state.memory.delete entity id).getD state.memory } := by
  rw [memoryDelete, bind_of_ok (db_call_calm calm), bind_of_ok (db_call_calm calm), bind_inspect]
  cases state.memory.delete entity id with
  | none | some after => rfl

structure Gone (key : RowKey) (state : LocalState) : Prop where
  cached : cachedAt key state = none
  stored : storedAt key state = some none

def rowDeleted (entity id : String) (state : LocalState) : LocalState :=
  { state with
    memory := (state.memory.delete entity id).getD state.memory
    persistence := state.persistence.map (fun db => (db.delete entity id).getD db) }

theorem rollback_row_calm (calm : state.faults = []) :
    rollbackLocalRow entity id state = (.ok (), rowDeleted entity id state) := by
  rw [rollbackLocalRow, bind_attempt, memory_delete_calm calm, bind_inspect]
  cases held : state.persistence with
  | none =>
    rw [Option.isSome_none, if_neg Bool.false_ne_true, rowDeleted, held, Option.map_none]
    rfl
  | some db =>
    have quiet : Quiet db
        { state with memory := (state.memory.delete entity id).getD state.memory } := ⟨calm, held⟩
    rw [held] at quiet
    rw [Option.isSome_some, if_pos rfl, bind_attempt, delete_row_quiet quiet, rowDeleted, held]
    rfl

theorem rollback_create_gone (calm : state.faults = []) (configured : state.persistence.isSome)
    (scope : String) :
    ∃ after, rollbackLocalCreate entity id scope state = (.ok (), after) ∧
      Gone (entity, id) after := by
  obtain ⟨db, held⟩ := Option.isSome_iff_exists.mp configured
  have deletedCalm : (rowDeleted entity id state).faults = [] := calm
  rw [rollbackLocalCreate, bind_of_ok (rollback_row_calm calm), bind_attempt,
    remove_queued_calm deletedCalm]
  refine ⟨_, rfl, lookup_after_delete state.memory entity id, ?_⟩
  rw [storedAt, rowDeleted, held]
  exact congrArg some (lookup_after_delete db entity id)

variable [Database] {config : StoreConfig}

theorem create_answered_left (created : Created config call state) (scope : String)
    (answer : Except Error String) :
    Created config call (createAnswered call.entity call.id scope answer state).2 ∨
      Gone (createKey call) (createAnswered call.entity call.id scope answer state).2 := by
  have configured : state.persistence.isSome := by
    rw [← stored_at_is_some (createKey call), created.stored]
    rfl
  obtain ⟨emptied, ran, gone⟩ : ∃ emptied,
      rollbackLocalCreate call.entity call.id scope state = (.ok (), emptied) ∧
        Gone (createKey call) emptied := rollback_create_gone created.calm configured scope
  cases answer with
  | ok _ =>
    left
    rw [createAnswered, bind_attempt, remove_queued_calm created.calm]
    exact ⟨created.calm, created.cached, created.stored⟩
  | error err =>
    rw [createAnswered]
    split_ifs with transient denied rejected
    · exact .inl created
    · rw [bind_of_ok ran]
      exact .inr gone
    · rw [bind_of_ok ran]
      exact .inr gone
    · exact .inl created

end

section

/-- The rows in memory and in persistence and the queue are as before the call. -/
structure Unchanged (before after : LocalState) : Prop where
  memory : after.memory = before.memory
  persistence : after.persistence = before.persistence
  queue : after.queue = before.queue

variable [Database] {config : StoreConfig} {call : CreateCall} {state : LocalState}

theorem create_uncached_left (engine : Engine) (calm : state.faults = [])
    (absent : cachedAt (createKey call) state = none) (configured : state.persistence.isSome) :
    Created config call (create config call engine state).2 ∨
      Gone (createKey call) (create config call engine state).2 := by
  obtain ⟨written, ran, created⟩ : ∃ written, createLocally config call state = _ ∧ _ :=
    create_locally_uncached calm absent configured
  rw [create, bind_of_ok ran]
  split_ifs with sent
  · exact create_answered_left created _ _
  · exact .inl created

/-- A local create of an id that exists locally is refused without effect exactly when the
row is in memory. -/
theorem local_create_refused_iff (config : StoreConfig) (call : CreateCall)
    (engine : Engine) (state : LocalState) (calm : state.faults = [])
    (present : (cachedAt (createKey call) state).isSome ∨
      ∃ row, storedAt (createKey call) state = some (some row)) :
    ((create config call engine state).1 = .error (.conflict call.entity call.id) ∧
        Unchanged state (create config call engine state).2) ↔
      (cachedAt (createKey call) state).isSome := by
  constructor
  · intro refused
    obtain ⟨_, unchanged⟩ := refused
    obtain cached | ⟨row, stored⟩ := present
    · exact cached
    · by_contra uncached
      rw [Bool.not_eq_true, Option.isSome_eq_false_iff, Option.isNone_iff_eq_none] at uncached
      have configured : state.persistence.isSome := by
        rw [← stored_at_is_some (createKey call), stored]
        rfl
      obtain created | gone : Created config call (create config call engine state).2 ∨ _ :=
        create_uncached_left engine calm uncached configured
      · have cached := created.cached
        rw [cachedAt, unchanged.memory] at cached
        rw [cachedAt, cached] at uncached
        cases uncached
      · have deleted := gone.stored
        rw [storedAt, unchanged.persistence] at deleted
        rw [storedAt, deleted] at stored
        cases stored
  · intro cached
    have refused : createLocally config call state = _ := create_locally_cached calm cached
    rw [create, bind_of_error refused]
    exact ⟨rfl, rfl, rfl, rfl⟩

end

section

theorem cached_task_refused :
    (create boards createTask (engineFacing [stored, stored]) taskStored).1 =
        .error (.conflict "task" "t1") ∧
      Unchanged taskStored
        (create boards createTask (engineFacing [stored, stored]) taskStored).2 :=
  (local_create_refused_iff boards createTask (engineFacing [stored, stored])
    taskStored rfl (.inl (by decide))).mpr (by decide)

def recreateTask : CreateCall :=
  { createTask with data := taskRow.insert "done" (.number 5) }

/-- The persisted task of a scope that is not loaded is replaced when the broker accepts the
create, and gone when the broker denies it. -/
theorem persisted_task_replaced :
    storedAt ("task", "t1") taskPersisted = some (some (Database.created taskRow)) ∧
      (create boards recreateTask (engineFacing [stored, stored])
        taskPersisted).1 = .ok "t1" ∧
      storedAt ("task", "t1") (create boards recreateTask
        (engineFacing [stored, stored]) taskPersisted).2 =
          some (some (Database.created (taskRow.insert "done" (.number 5)))) ∧
      (create boards recreateTask (engineFacing [denied, stored])
        taskPersisted).1 = .error (.ownership "task" "t1") ∧
      storedAt ("task", "t1") (create boards recreateTask
        (engineFacing [denied, stored]) taskPersisted).2 = some none := by
  decide

end

end Stitch.Client.LocalCreate
