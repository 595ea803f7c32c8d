import Stitch.Client.StoreEdits

/-!
# Writing a pre-image back

When the broker denies an edit, the call takes its mutation out of the queue, deletes the row
from memory and from persistence and creates it again from the pre-image.
-/

namespace Stitch.Client.EditRollback

open Foundation.FallibleState Foundation.Interleaving Mutations Consolidation
open LocalRows EventReplay SyncRequests StoreEdits

def cachedAt (key : RowKey) (state : LocalState) : Option Record :=
  state.memory.rows.lookup key

def storedAt (key : RowKey) (state : LocalState) : Option (Option Record) :=
  state.persistence.map (fun db => db.rows.lookup key)

theorem stored_at_is_some (key : RowKey) (state : LocalState) :
    (storedAt key state).isSome = state.persistence.isSome := by
  rw [storedAt, Option.isSome_map]

section

variable {state : LocalState} {entity id : String}

variable (calm : state.faults = [])

include calm

theorem memory_read_calm (entity id : String) :
    memoryRead entity id state = (.ok (cachedAt (entity, id) state), state) :=
  bind_of_ok (db_call_calm calm)

theorem memory_remove_calm :
    ∃ after, (memoryRemove entity id state).2 = { state with memory := after } := by
  rw [memoryRemove, bind_of_ok (db_call_calm calm), bind_inspect]
  cases state.memory.delete entity id with
  | none => exact ⟨state.memory, rfl⟩
  | some after => exact ⟨after, rfl⟩

theorem stored_remove_calm (configured : state.persistence.isSome) :
    ∃ after, (storedRemove entity id state).2 = { state with persistence := some after } := by
  obtain ⟨db, held⟩ := Option.isSome_iff_exists.mp configured
  have quiet : Quiet db state := ⟨calm, held⟩
  rw [storedRemove, bind_of_ok (db_call_calm calm), bind_inspect, local_db_quiet quiet]
  cases db.delete entity id with
  | none =>
    refine ⟨db, ?_⟩
    rw [← held]
    rfl
  | some after =>
    refine ⟨after, ?_⟩
    rw [storeFound, change, store_local_quiet quiet]
    rfl

theorem enqueue_calm (row : StoredRow) :
    enqueue row state =
      (.ok (), { state with queue := state.queue.map (fun rows => rows ++ [row]) }) := by
  rw [enqueue, bind_inspect]
  cases held : state.queue with
  | none =>
    rw [Option.isSome_none, if_neg Bool.false_ne_true, Option.map_none, ← held]
    rfl
  | some rows =>
    rw [Option.isSome_some, if_pos rfl, bind_of_ok (db_call_calm calm), change, held]

omit calm

def withoutSlot (entity id scope : String) (op : Operation)
    (queue : Option (List StoredRow)) : Option (List StoredRow) :=
  queue.map (fun rows => rows.filter (fun row =>
    !(row.entity == entity && row.entityId == id && row.scopeId == scope && row.op == op)))

theorem remove_queued_calm (calm : state.faults = []) (scope : String) (op : Operation) :
    removeQueued entity id scope op state =
      (.ok (), { state with queue := withoutSlot entity id scope op state.queue }) := by
  rw [removeQueued, bind_inspect]
  cases held : state.queue with
  | none =>
    rw [Option.isSome_none, if_neg Bool.false_ne_true, withoutSlot, Option.map_none, ← held]
    rfl
  | some rows =>
    rw [Option.isSome_some, if_pos rfl, bind_of_ok (db_call_calm calm), change, held]
    rfl

variable [Database]

theorem memory_update_calm (calm : state.faults = []) (fields : Record) :
    memoryUpdate entity id fields state =
      match state.memory.update entity id (stripNulls fields) with
      | some after => (.ok (), { state with memory := after })
      | none => (.error (.notFound entity id), state) := by
  rw [memoryUpdate, bind_of_ok (db_call_calm calm), bind_inspect]
  cases state.memory.update entity id (stripNulls fields) with
  | none | some after => rfl

theorem memory_create_calm (config : StoreConfig)
    (calm : state.faults = []) (scope : String) (data : Record) :
    memoryCreate config entity scope data state =
      (.ok (), { state with
        memory := state.memory.create entity (memoryRow config entity scope data) }) :=
  bind_of_ok (db_call_calm calm)

theorem stored_update_calm (calm : state.faults = []) (configured : state.persistence.isSome)
    (fields : Record) :
    ∃ after, (accessorUpdate entity id fields state).2 =
      { state with persistence := some after } := by
  obtain ⟨db, held⟩ := Option.isSome_iff_exists.mp configured
  have quiet : Quiet db state := ⟨calm, held⟩
  rw [accessor_update_quiet quiet]
  cases db.update entity id (stripNulls fields) with
  | none =>
    refine ⟨db, ?_⟩
    rw [← held]
  | some after => exact ⟨after, rfl⟩

end

section

variable {Holds : LocalState → Prop} {entity id : String}

/-- A property that database calls rely on and that does not look at memory. -/
structure BesideMemory (Holds : LocalState → Prop) : Prop where
  calm : ∀ state, Holds state → state.faults = []
  kept : ∀ state memory, Holds state → Holds { state with memory := memory }

/-- A property of stores with persistence that does not look at the persisted rows. -/
structure BesideStored (Holds : LocalState → Prop) : Prop where
  calm : ∀ state, Holds state → state.faults = []
  configured : ∀ state, Holds state → state.persistence.isSome
  kept : ∀ state db, Holds state → Holds { state with persistence := some db }

theorem db_call_keeps (calm : ∀ state, Holds state → state.faults = []) :
    Maintains Holds (atomic dbCall) := by
  apply maintains_atomic
  intro state holds
  rw [db_call_calm (calm state holds)]
  exact holds

theorem delete_cached_keeps (beside : BesideMemory Holds) :
    Maintains Holds (deleteCached entity id) := by
  apply maintains_bind (db_call_keeps beside.calm)
  intro _
  apply maintains_atomic
  intro state holds
  obtain ⟨after, removed⟩ : ∃ after, (memoryRemove entity id state).2 = _ :=
    memory_remove_calm (beside.calm state holds)
  rw [removed]
  exact beside.kept state after holds

theorem delete_stored_keeps (beside : BesideStored Holds) :
    Maintains Holds (deleteStored entity id) := by
  apply maintains_bind (db_call_keeps beside.calm)
  intro _
  apply maintains_atomic
  intro state holds
  obtain ⟨after, removed⟩ : ∃ after, (storedRemove entity id state).2 = _ :=
    stored_remove_calm (beside.calm state holds) (beside.configured state holds)
  rw [removed]
  exact beside.kept state after holds

variable [Database] {config : StoreConfig} {scope : String} {row : Record} {state : LocalState}

def cachedAgain (config : StoreConfig) (entity id scope : String) (row : Record) : Record :=
  (Database.created (memoryRow config entity scope row)).insert "id" (.string id)

def storedAgain (id : String) (row : Record) : Record :=
  (Database.created (stripNulls row)).insert "id" (.string id)

structure Aside (configured : Bool) (queue : Option (List StoredRow)) (state : LocalState) :
    Prop where
  calm : state.faults = []
  configured : state.persistence.isSome = configured
  queue : state.queue = queue

variable {configured : Bool} {queue : Option (List StoredRow)}

omit [Database] in
theorem aside_beside_memory (configured : Bool) (queue : Option (List StoredRow)) :
    BesideMemory (Aside configured queue) where
  calm _ aside := aside.calm
  kept _ _ aside := ⟨aside.calm, aside.configured, aside.queue⟩

/-- The pre-image as the two stores make it again. -/
structure WrittenBack (config : StoreConfig) (entity id scope : String) (row : Record)
    (state : LocalState) : Prop where
  cached : cachedAt (entity, id) state = some (cachedAgain config entity id scope row)
  stored : ∀ stored ∈ storedAt (entity, id) state, stored = some (storedAgain id row)

structure CachedBack (config : StoreConfig) (entity id scope : String) (row : Record)
    (configured : Bool) (queue : Option (List StoredRow)) (state : LocalState) : Prop where
  aside : Aside configured queue state
  cached : cachedAt (entity, id) state = some (cachedAgain config entity id scope row)

theorem cached_back_beside_stored (queue : Option (List StoredRow)) :
    BesideStored (CachedBack config entity id scope row true queue) where
  calm _ back := back.aside.calm
  configured _ back := back.aside.configured
  kept _ _ back := ⟨⟨back.aside.calm, rfl, back.aside.queue⟩, back.cached⟩

section

variable (carried : row.lookup "id" = some (.string id))

include carried

theorem memory_created (calm : state.faults = []) :
    ∃ after, (memoryCreate config entity scope row state).2 =
        { state with memory := after } ∧
      after.rows.lookup (entity, id) = some (cachedAgain config entity id scope row) := by
  rw [memory_create_calm config calm]
  refine ⟨_, rfl, ?_⟩
  rw [Db.create, memory_row_id carried, Option.getD_some, Db.lookup_put_self, cachedAgain]

theorem stored_created (calm : state.faults = []) (configured : state.persistence.isSome) :
    ∃ after, (accessorCreate config entity row state).2 =
        { state with persistence := some after } ∧
      after.rows.lookup (entity, id) = some (storedAgain id row) := by
  obtain ⟨db, held⟩ := Option.isSome_iff_exists.mp configured
  have quiet : Quiet db state := ⟨calm, held⟩
  have named : recordId (stripNulls row) = some id := by
    rw [recordId, strip_nulls_lookup carried (by simp)]
    rfl
  rw [accessor_create_quiet config quiet]
  refine ⟨_, rfl, ?_⟩
  rw [Db.create, named, Option.getD_some, Db.lookup_put_self, storedAgain]

theorem memory_create_back (aside : Aside configured queue state) :
    CachedBack config entity id scope row configured queue
      (memoryCreate config entity scope row state).2 := by
  obtain ⟨after, created, held⟩ : ∃ after,
      (memoryCreate config entity scope row state).2 = _ ∧ _ :=
    memory_created carried aside.calm
  rw [created]
  exact ⟨⟨aside.calm, aside.configured, aside.queue⟩, held⟩

theorem stored_create_back (back : CachedBack config entity id scope row true queue state) :
    Aside true queue (accessorCreate config entity row state).2 ∧
      WrittenBack config entity id scope row (accessorCreate config entity row state).2 := by
  obtain ⟨db, created, held⟩ : ∃ db, (accessorCreate config entity row state).2 = _ ∧ _ :=
    stored_created carried back.aside.calm back.aside.configured
  rw [created]
  refine ⟨⟨back.aside.calm, rfl, back.aside.queue⟩, back.cached, ?_⟩
  intro stored present
  rw [← Option.some.inj present]
  exact held

omit carried in
theorem written_back_uncached
    (back : CachedBack config entity id scope row false queue state) :
    WrittenBack config entity id scope row state := by
  refine ⟨back.cached, ?_⟩
  intro stored held
  have missing : state.persistence = none := by
    have unset := back.aside.configured
    rwa [← Option.not_isSome_iff_eq_none, Bool.not_eq_true]
  rw [storedAt, missing] at held
  cases held

theorem restore_alone (aside : Aside configured queue state) :
    ∃ after, alone (restoreLocalRow config entity id scope (some row)) state = (.ok (), after) ∧
      Aside configured queue after ∧ WrittenBack config entity id scope row after := by
  have deleted : Aside configured queue (alone (deleteCached entity id) state).2 :=
    alone_keeps (delete_cached_keeps (aside_beside_memory configured queue)) aside
  have back : CachedBack config entity id scope row configured queue _ :=
    memory_create_back carried deleted
  rw [restoreLocalRow, alone_tried_bind, alone_tried_bind, alone_atomic, persistent, alone_bind,
    alone_atomic, bind_inspect, back.aside.configured]
  cases configured with
  | false => exact ⟨_, rfl, back.aside, written_back_uncached back⟩
  | true =>
    rw [if_pos rfl, alone_tried_bind, alone_tried_bind]
    have removed : CachedBack config entity id scope row true queue
        (alone (deleteStored entity id) _).2 :=
      alone_keeps (delete_stored_keeps (cached_back_beside_stored queue)) back
    exact ⟨_, rfl, stored_create_back carried removed⟩

end

def Denied (err : Error) : Prop := err.isOwnership || err.isTerminalPublishRejection

variable {edit : Edit} {issue : Issue} {err : Error}
  (carried : row.lookup "id" = some (.string edit.id)) (denied : Denied err)
  (aside : Aside configured queue state)

include carried denied aside

theorem answered_refused_alone :
    ∃ after, alone (editAnswered config edit scope (some row) (.error err)) state =
        (.error err, after) ∧
      Aside configured (withoutSlot edit.entity edit.id scope edit.op queue) after ∧
      WrittenBack config edit.entity edit.id scope row after := by
  have removed : Aside configured (withoutSlot edit.entity edit.id scope edit.op queue)
      { state with queue := withoutSlot edit.entity edit.id scope edit.op queue } :=
    ⟨aside.calm, aside.configured, rfl⟩
  obtain ⟨after, ran, left, back⟩ : ∃ after,
      alone (restoreLocalRow config edit.entity edit.id scope (some row)) _ = _ ∧ _ ∧ _ :=
    restore_alone carried removed
  rw [Denied] at denied
  rw [editAnswered, if_pos denied, alone_tried_bind, alone_atomic, remove_queued_calm aside.calm,
    aside.queue, alone_bind]
  exact ⟨after, bind_of_ok ran, left, back⟩

/-- A refused edit ends with the broker's error and the pre-image in both stores. -/
theorem submit_refused_alone (connected : issue.connected)
    (answered : issue.answer scope = .error err) :
    ∃ after, alone (submit config edit issue scope (some row)) state = (.error err, after) ∧
      Aside configured (withoutSlot edit.entity edit.id scope edit.op
        (queue.map (fun rows => rows ++ [pendingEdit edit issue scope]))) after ∧
      WrittenBack config edit.entity edit.id scope row after := by
  rw [submit, alone_atomic_bind (enqueue_calm aside.calm _), if_pos connected, alone_tried_bind,
    answered, aside.queue]
  exact answered_refused_alone carried denied ⟨aside.calm, aside.configured, rfl⟩

end

end Stitch.Client.EditRollback
