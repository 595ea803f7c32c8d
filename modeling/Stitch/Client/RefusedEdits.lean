import Stitch.Client.RefusedMutations
import Stitch.Client.EditRollback

/-!
# What is left of a refused edit

When the broker denies an update or a delete, the call writes the pre-image back to both stores
and takes its mutation out of the queue by row, scope and operation. The edit is undone exactly
when both stores held the same row, as the database makes it, and nothing else was queued under
that key.
-/

namespace Stitch.Client.RefusedEdits

open Foundation.FiniteMap Foundation.FallibleState Foundation.Interleaving Mutations Consolidation
open LocalRows EventReplay SyncRequests StoreEdits EditRollback
open ScopeReplacement (boards record taskRow startState)
open RefusedMutations (taskStored)

section

/-- What updates and deletes have in common: each write stays in its store, and the write to a
cached row succeeds. -/
structure Confined (edit : Edit) : Prop where
  cached : ∀ {Holds : LocalState → Prop}, BesideMemory Holds →
    Maintains Holds edit.cached
  uncached : ∀ {Holds : LocalState → Prop}, BesideMemory Holds →
    Maintains Holds edit.uncached
  stored : ∀ {Holds : LocalState → Prop}, BesideStored Holds →
    Maintains Holds edit.stored
  found : ∀ state, state.faults = [] → (cachedAt (edit.entity, edit.id) state).isSome →
    (alone edit.cached state).1 = .ok ()

variable {Holds : LocalState → Prop}

theorem delete_confined (entity id : String) : Confined (deleteEdit entity id) where
  cached beside := by
    apply maintains_bind (maintains_tried (delete_cached_keeps beside))
    intro _
    exact trivial
  uncached beside := delete_cached_keeps beside
  stored beside := delete_stored_keeps beside
  found := by
    intro state calm present
    change (alone (tried (deleteCached entity id) >>= fun _ => pure ()) state).1 = .ok ()
    rw [alone_tried_bind]
    rfl

variable [Database]

theorem memory_update_keeps (beside : BesideMemory Holds) (entity id : String) (fields : Record) :
    Maintains Holds (atomic (memoryUpdate entity id fields)) := by
  apply maintains_atomic
  intro state holds
  rw [memory_update_calm (beside.calm state holds)]
  cases state.memory.update entity id (stripNulls fields) with
  | none => exact holds
  | some after => exact beside.kept state after holds

theorem stored_update_keeps (beside : BesideStored Holds) (entity id : String) (fields : Record) :
    Maintains Holds (atomic (accessorUpdate entity id fields)) := by
  apply maintains_atomic
  intro state holds
  obtain ⟨after, updated⟩ : ∃ after, (accessorUpdate entity id fields state).2 = _ :=
    stored_update_calm (beside.calm state holds) (beside.configured state holds) fields
  rw [updated]
  exact beside.kept state after holds

theorem update_confined (entity id : String) (fields : Record) :
    Confined (updateEdit entity id fields) where
  cached beside := memory_update_keeps beside entity id fields
  uncached beside := memory_update_keeps beside entity id fields
  stored beside := stored_update_keeps beside entity id fields
  found := by
    intro state calm present
    change (memoryUpdate entity id fields state).1 = .ok ()
    obtain ⟨row, held⟩ := Option.isSome_iff_exists.mp present
    change state.memory.rows.lookup (entity, id) = some row at held
    rw [memory_update_calm calm, Db.update, held]
    rfl

variable {config : StoreConfig} {edit : Edit} {issue : Issue} {state : LocalState}
  {configured : Bool} {queue : Option (List StoredRow)}

/-- The scope an edit is sent in and its pre-image, from the cached and the persisted row. -/
def located (config : StoreConfig) (entity : String) (cached : Option Record)
    (stored : Option (Option Record)) : Option (String × Record) :=
  match cached.bind (scopeFromRow config entity) with
  | some scope => cached.map (fun row => (scope, row))
  | none => stored.join.bind (fun held =>
    (scopeFromRow config entity held).map (fun scope => (scope, cached.getD held)))

omit [Database] in
theorem aside_beside_stored (queue : Option (List StoredRow)) :
    BesideStored (Aside true queue) where
  calm _ aside := aside.calm
  configured _ aside := aside.configured
  kept _ _ aside := ⟨aside.calm, rfl, aside.queue⟩

theorem locate_unpersisted (existing : Option Record) (missing : state.persistence = none) :
    alone (locate config edit existing) state =
      (.ok ((located config edit.entity existing (storedAt (edit.entity, edit.id) state)).map
        (fun found => (found.1, some found.2))), state) := by
  have asked : inspect (fun state : LocalState => state.persistence.isSome) state =
      ((.ok false, state) : Except Error Bool × LocalState) := by
    rw [inspect, missing]
    rfl
  rw [locate, persistent, alone_atomic_bind asked, storedAt, missing, located]
  cases existing with
  | none => rfl
  | some row =>
    rw [Option.bind_some]
    cases scopeFromRow config edit.entity row with
    | none | some scope => rfl

omit [Database] in
theorem stored_ran (confined : Confined edit) (aside : Aside true queue state) :
    Aside true queue (alone edit.stored state).2 :=
  alone_keeps (confined.stored (aside_beside_stored queue)) aside

theorem locate_persisted (confined : Confined edit) (existing : Option Record)
    (aside : Aside true queue state) :
    (alone (locate config edit existing) state).1 =
        .ok ((located config edit.entity existing (storedAt (edit.entity, edit.id) state)).map
          (fun found => (found.1, some found.2))) ∧
      Aside true queue (alone (locate config edit existing) state).2 := by
  obtain ⟨db, held⟩ := Option.isSome_iff_exists.mp aside.configured
  have quiet : Quiet db state := ⟨aside.calm, held⟩
  have asked : inspect (fun state : LocalState => state.persistence.isSome) state =
      ((.ok true, state) : Except Error Bool × LocalState) := by
    rw [inspect, aside.configured]
  have read := accessor_read_quiet quiet edit.entity edit.id
  rw [locate, persistent, alone_atomic_bind asked, storedAt, held, Option.map_some, located]
  rw [if_pos rfl]
  cases found : existing.bind (scopeFromRow config edit.entity) with
  | some scope =>
    obtain ⟨row, present, _⟩ := Option.bind_eq_some_iff.mp found
    rw [alone_tried_bind, present]
    exact ⟨rfl, stored_ran confined aside⟩
  | none =>
    rw [alone_atomic_bind read, Option.join_some]
    cases db.rows.lookup (edit.entity, edit.id) with
    | none => exact ⟨rfl, aside⟩
    | some row =>
      dsimp only
      rw [Option.bind_some]
      cases scopeFromRow config edit.entity row with
      | none => exact ⟨rfl, aside⟩
      | some scope =>
        cases existing with
        | none =>
          dsimp only
          rw [Option.isNone_none, if_pos rfl, alone_tried_bind, alone_tried_bind]
          refine ⟨rfl, stored_ran confined ?_⟩
          exact alone_keeps (confined.uncached (aside_beside_memory true queue)) aside
        | some cached =>
          dsimp only
          rw [Option.isNone_some, if_neg Bool.false_ne_true, alone_tried_bind]
          exact ⟨rfl, stored_ran confined aside⟩

theorem locate_alone (confined : Confined edit) (existing : Option Record)
    (aside : Aside configured queue state) :
    (alone (locate config edit existing) state).1 =
        .ok ((located config edit.entity existing (storedAt (edit.entity, edit.id) state)).map
          (fun found => (found.1, some found.2))) ∧
      Aside configured queue (alone (locate config edit existing) state).2 := by
  cases configured with
  | true => exact locate_persisted confined existing aside
  | false =>
    have missing : state.persistence = none := by
      rw [← Option.not_isSome_iff_eq_none, aside.configured]
      exact Bool.false_ne_true
    rw [locate_unpersisted existing missing]
    exact ⟨rfl, aside⟩

/-- Everything but the rows in memory is as it was in the first state. -/
structure SameBesideMemory (first state : LocalState) : Prop where
  calm : state.faults = []
  persistence : state.persistence = first.persistence
  queue : state.queue = first.queue

omit [Database] in
theorem same_beside_memory (first : LocalState) : BesideMemory (SameBesideMemory first) where
  calm _ same := same.calm
  kept _ _ same := ⟨same.calm, same.persistence, same.queue⟩

theorem edit_found_alone (confined : Confined edit) (calm : state.faults = []) :
    ∃ written, SameBesideMemory state written ∧
      alone (editFound config edit issue (cachedAt (edit.entity, edit.id) state)) state =
        alone (editLocated config edit issue (cachedAt (edit.entity, edit.id) state))
          written := by
  rw [editFound]
  split_ifs with found
  · obtain ⟨scope, named⟩ := Option.isSome_iff_exists.mp found
    obtain ⟨row, present, _⟩ := Option.bind_eq_some_iff.mp named
    have succeeded := confined.found state calm (by rw [present]; rfl)
    refine ⟨(alone edit.cached state).2, ?_, ?_⟩
    · exact alone_keeps (confined.cached (same_beside_memory state)) ⟨calm, rfl, rfl⟩
    · rw [alone_bind]
      exact bind_of_ok (Prod.ext succeeded rfl)
  · exact ⟨state, ⟨calm, rfl, rfl⟩, rfl⟩

theorem edit_row_alone (confined : Confined edit) (calm : state.faults = []) :
    ∃ ready, Aside state.persistence.isSome state.queue ready ∧
      alone (editRow config edit issue) state =
        match located config edit.entity (cachedAt (edit.entity, edit.id) state)
          (storedAt (edit.entity, edit.id) state) with
        | none => (.ok (), ready)
        | some found => alone (submit config edit issue found.1 (some found.2)) ready := by
  obtain ⟨written, same, ran⟩ : ∃ written, SameBesideMemory state written ∧
      alone (editFound config edit issue _) state = _ := edit_found_alone confined calm
  have aside : Aside state.persistence.isSome state.queue written :=
    ⟨same.calm, congrArg Option.isSome same.persistence, same.queue⟩
  have rows : storedAt (edit.entity, edit.id) written = storedAt (edit.entity, edit.id) state := by
    rw [storedAt, same.persistence]
    rfl
  obtain ⟨outcome, ready⟩ : (alone (locate config edit _) written).1 = _ ∧ _ :=
    locate_alone confined (cachedAt (edit.entity, edit.id) state) aside
  refine ⟨_, ready, ?_⟩
  rw [editRow, alone_atomic_bind (memory_read_calm calm _ _), ran, editLocated, alone_bind,
    bind_of_ok (Prod.ext outcome rfl), rows]
  cases located config edit.entity (cachedAt (edit.entity, edit.id) state)
      (storedAt (edit.entity, edit.id) state) with
  | none | some found => rfl

end

inductive EditCall where
  | update (fields : Record)
  | delete

section

variable [Database]

def EditCall.edit (entity id : String) : EditCall → Edit
  | .update fields => updateEdit entity id fields
  | .delete => deleteEdit entity id

def EditCall.op : EditCall → Operation
  | .update _ => .update
  | .delete => .delete

def EditCall.steps (config : StoreConfig) (entity id : String)
    (issue : Issue) : EditCall → StoreSteps Unit
  | .update fields => StoreEdits.update config entity id fields issue
  | .delete => StoreEdits.delete config entity id issue

end

/-- The row in memory, the row in persistence and the queue are as before the call. -/
structure Undone (key : RowKey) (before after : LocalState) : Prop where
  cached : cachedAt key after = cachedAt key before
  stored : storedAt key after = storedAt key before
  queue : after.queue = before.queue

/-- Both stores hold the same row, it names its scope, the database makes it again as it was, and
nothing else is queued for it under this operation. -/
structure Restorable [Database] (config : StoreConfig) (entity id : String) (op : Operation)
    (state : LocalState) (row : Record) (scope : String) : Prop where
  cached : cachedAt (entity, id) state = some row
  named : scopeFromRow config entity row = some scope
  remade : Database.created (stripNulls row) = row
  stored : ∀ stored ∈ storedAt (entity, id) state, stored = some row
  unqueued : ∀ rows ∈ state.queue, ∀ queued ∈ rows,
    ¬(queued.entity = entity ∧ queued.entityId = id ∧ queued.scopeId = scope ∧ queued.op = op)

section

variable [Database] {config : StoreConfig} {entity id scope : String} {state : LocalState} {row : Record}
variable {cached : Record}

theorem located_named (stored : Option (Option Record))
    (named : scopeFromRow config entity cached = some scope) :
    located config entity (some cached) stored = some (scope, cached) := by
  rw [located, Option.bind_some, named]
  rfl

theorem located_cached {stored : Option (Option Record)}
    (found : located config entity (some cached) stored = some (scope, row)) :
    row = cached ∧ (scopeFromRow config entity cached = some scope ∨
      scopeFromRow config entity cached = none ∧
        ∃ held, stored = some (some held) ∧ scopeFromRow config entity held = some scope) := by
  cases named : scopeFromRow config entity cached with
  | some other =>
    rw [located_named stored named] at found
    cases found
    exact ⟨rfl, .inl rfl⟩
  | none =>
    rw [located, Option.bind_some, named] at found
    obtain ⟨held, present, chosen⟩ := Option.bind_eq_some_iff.mp found
    obtain ⟨other, chose, pair⟩ := Option.map_eq_some_iff.mp chosen
    cases pair
    exact ⟨rfl, .inr ⟨rfl, held, Option.join_eq_some_iff.mp present, chose⟩⟩

theorem located_carries (found : located config entity (cachedAt (entity, id) state)
      (storedAt (entity, id) state) = some (scope, row)) :
    row.lookup "id" = some (.string id) := by
  cases cached : cachedAt (entity, id) state with
  | some held =>
    rw [cached] at found
    rw [(located_cached found).1]
    exact state.memory.keyed (entity, id) held cached
  | none =>
    rw [located, cached, Option.bind_none] at found
    obtain ⟨stored, held, chosen⟩ := Option.bind_eq_some_iff.mp found
    obtain ⟨other, _, pair⟩ := Option.map_eq_some_iff.mp chosen
    obtain ⟨db, _, lookup⟩ := Option.map_eq_some_iff.mp (Option.join_eq_some_iff.mp held)
    cases pair
    exact db.keyed (entity, id) stored lookup

variable (carried : row.lookup "id" = some (.string id))

include carried

theorem stored_again_eq :
    storedAgain id row = Database.created (stripNulls row) := by
  apply insert_of_lookup
  rw [Database.created_lookup _ _ Database.id_kept, strip_nulls_lookup carried (by simp)]

theorem cached_again_eq (named : scopeFromRow config entity row = some scope) (other : String) :
    cachedAgain config entity id other row = Database.created (stripNulls row) := by
  have unchanged : memoryRow config entity other row = stripNulls row := by
    apply if_neg
    intro missing
    obtain ⟨child, absent⟩ := missing
    have names : refScope config row = some scope := by
      rw [scopeFromRow] at named
      split_ifs at named with root top
      · simp [isScoped, root] at child
      · rw [isScoped, top, Bool.or_true] at child
        cases child
      · exact named
    obtain ⟨value, held, text⟩ := Option.bind_eq_some_iff.mp names
    have set : value ≠ .null := by
      intro null
      rw [null] at text
      cases text
    rw [strip_nulls_lookup held set] at absent
    cases absent
  rw [cachedAgain, unchanged]
  exact stored_again_eq carried

theorem scope_of_created
    (named : scopeFromRow config entity (Database.created (stripNulls row)) = some scope) :
    scopeFromRow config entity row = some scope := by
  rw [scopeFromRow, recordId, refScope, Database.created_lookup _ _ Database.id_kept,
    Database.created_lookup _ _ config.scopeKept] at named
  rw [scopeFromRow]
  split_ifs at named ⊢ with root top
  · rw [strip_nulls_lookup carried (by simp)] at named
    rw [recordId, carried]
    exact named
  · exact named
  · obtain ⟨value, held, text⟩ := Option.bind_eq_some_iff.mp named
    rw [refScope, lookup_of_strip_nulls held]
    exact text

end

section

variable {edit : Edit} {issue : Issue} {scope : String}

theorem without_slot_queued (queue : Option (List StoredRow)) :
    withoutSlot edit.entity edit.id scope edit.op
        (queue.map (fun rows => rows ++ [pendingEdit edit issue scope])) =
      withoutSlot edit.entity edit.id scope edit.op queue := by
  cases queue with
  | none => rfl
  | some rows => simp [withoutSlot, List.filter_append, pendingEdit]

theorem without_slot_same_iff (entity id scope : String) (op : Operation)
    (queue : Option (List StoredRow)) :
    withoutSlot entity id scope op queue = queue ↔
      ∀ rows ∈ queue, ∀ queued ∈ rows, ¬(queued.entity = entity ∧ queued.entityId = id ∧
        queued.scopeId = scope ∧ queued.op = op) := by
  cases queue with
  | none => simp [withoutSlot]
  | some rows =>
    simp only [withoutSlot, Option.map_some, Option.some.injEq, List.filter_eq_self,
      Option.mem_def, forall_eq', Bool.not_eq_true', Bool.and_eq_false_iff, beq_eq_false_iff_ne]
    apply forall₂_congr
    intro queued _
    tauto

variable [Database] {config : StoreConfig} {entity id : String} {err : Error}
  {state ready : LocalState} {row : Record}

theorem submit_unconnected (offline : issue.connected = false) (preImage : Option Record)
    (calm : state.faults = []) :
    (alone (submit config edit issue scope preImage) state).1 = .ok () := by
  rw [submit, alone_atomic_bind (enqueue_calm calm _), if_neg]
  · rfl
  · rw [offline]
    exact Bool.false_ne_true

/-- What a refused edit leaves: the located pre-image in both stores, and the queue without
any row under the edit's key. -/
theorem refused_edit_left (confined : Confined edit) (calm : state.faults = [])
    (answers : ∀ scope, issue.answer scope = .error err) (denied : Denied err)
    (returned : (alone (editRow config edit issue) state).1 = .error err) :
    ∃ scope row, located config edit.entity (cachedAt (edit.entity, edit.id) state)
        (storedAt (edit.entity, edit.id) state) = some (scope, row) ∧
      WrittenBack config edit.entity edit.id scope row (alone (editRow config edit issue) state).2 ∧
      Aside state.persistence.isSome
        (withoutSlot edit.entity edit.id scope edit.op state.queue)
        (alone (editRow config edit issue) state).2 := by
  obtain ⟨ready, aside, ran⟩ : ∃ ready, Aside _ _ ready ∧
      alone (editRow config edit issue) state = _ := edit_row_alone confined calm
  rw [ran] at returned ⊢
  cases found : located config edit.entity (cachedAt (edit.entity, edit.id) state)
      (storedAt (edit.entity, edit.id) state) with
  | none =>
    rw [found] at returned
    cases returned
  | some pair =>
    obtain ⟨scope, row⟩ := pair
    rw [found] at returned
    cases connected : issue.connected with
    | false =>
      rw [submit_unconnected connected (some row) aside.calm] at returned
      cases returned
    | true =>
      obtain ⟨after, sent, left, back⟩ : ∃ after,
          alone (submit config edit issue scope (some row)) ready = _ ∧ _ ∧ _ :=
        submit_refused_alone (located_carries found) denied aside connected (answers scope)
      rw [without_slot_queued] at left
      dsimp only
      rw [sent]
      exact ⟨scope, row, rfl, back, left⟩

variable {op : Operation}

theorem undone_iff_written_same {before after : LocalState}
    (back : WrittenBack config entity id scope row after)
    (aside : Aside before.persistence.isSome (withoutSlot entity id scope op before.queue) after) :
    Undone (entity, id) before after ↔
      cachedAt (entity, id) before = some (cachedAgain config entity id scope row) ∧
        (∀ stored ∈ storedAt (entity, id) before, stored = some (storedAgain id row)) ∧
        withoutSlot entity id scope op before.queue = before.queue := by
  have configured : (storedAt (entity, id) after).isSome = (storedAt (entity, id) before).isSome := by
    rw [stored_at_is_some, stored_at_is_some, aside.configured]
  constructor
  · intro undone
    refine ⟨undone.cached.symm.trans back.1, ?_, aside.queue.symm.trans undone.queue⟩
    rw [← undone.stored]
    exact back.2
  · intro same
    obtain ⟨cached, stored, queue⟩ := same
    refine ⟨back.1.trans cached.symm, ?_, aside.queue.trans queue⟩
    cases held : storedAt (entity, id) before with
    | none =>
      rwa [held, Option.isSome_none, Option.isSome_eq_false_iff, Option.isNone_iff_eq_none]
        at configured
    | some found =>
      rw [held, Option.isSome_some] at configured
      obtain ⟨now, present⟩ := Option.isSome_iff_exists.mp configured
      rw [present, back.2 now present, stored found held]

/-- The located pre-image is in both stores again exactly in the states of `Restorable`. -/
theorem written_same_iff (found : located config entity (cachedAt (entity, id) state)
      (storedAt (entity, id) state) = some (scope, row)) :
    (cachedAt (entity, id) state = some (cachedAgain config entity id scope row) ∧
        (∀ stored ∈ storedAt (entity, id) state, stored = some (storedAgain id row)) ∧
        withoutSlot entity id scope op state.queue = state.queue) ↔
      ∃ row scope, Restorable config entity id op state row scope := by
  have carried := located_carries found
  rw [stored_again_eq carried, without_slot_same_iff]
  constructor
  · intro same
    obtain ⟨cached, stored, unqueued⟩ := same
    have located := found
    rw [cached] at located
    obtain ⟨again, named | ⟨unnamed, held, present, named⟩⟩ := located_cached located
    · rw [← again] at named cached
      have remade : Database.created (stripNulls row) = row := by
        rw [← cached_again_eq carried named scope]
        exact again.symm
      rw [remade] at stored
      exact ⟨row, scope, cached, named, remade, stored, unqueued⟩
    · -- The persisted row is the cached one without its nulls, so it names no scope either.
      have same := Option.some.inj (stored (some held) present)
      rw [same] at named
      rw [← again, scope_of_created carried named] at unnamed
      cases unnamed
  · intro restorable
    obtain ⟨kept, named, restorable⟩ := restorable
    rw [restorable.cached, located_named _ restorable.named] at found
    cases found
    refine ⟨?_, ?_, restorable.unqueued⟩
    · rw [restorable.cached, cached_again_eq carried restorable.named, restorable.remade]
    · rw [restorable.remade]
      exact restorable.stored

/-- A denied update or delete that runs alone is undone exactly when both stores held the same
row, as the database makes it, and no other mutation of it was queued under the same operation. -/
theorem refused_edit_undone_iff (config : StoreConfig) (entity id : String)
    (call : EditCall) (issue : Issue) (err : Error) (state : LocalState)
    (calm : state.faults = []) (answers : ∀ scope, issue.answer scope = .error err)
    (denied : Denied err)
    (returned : (alone (call.steps config entity id issue) state).1 = .error err) :
    Undone (entity, id) state (alone (call.steps config entity id issue) state).2 ↔
      ∃ row scope, Restorable config entity id call.op state row scope := by
  cases call with
  | update fields =>
    obtain ⟨scope, row, found, back, aside⟩ :=
      refused_edit_left (update_confined entity id fields) calm answers denied returned
    exact (undone_iff_written_same back aside).trans (written_same_iff found)
  | delete =>
    obtain ⟨scope, row, found, back, aside⟩ :=
      refused_edit_left (delete_confined entity id) calm answers denied returned
    exact (undone_iff_written_same back aside).trans (written_same_iff found)

end

section

def deniedIssue : Issue where
  rowId := "q2"
  nowMs := 8
  connected := true
  answer := fun _ => .error (.ownership "task" "t1")

def finishTask : EditCall := .update (record [("done", .number 1)])

def deniedRun (call : EditCall) (state : LocalState) : Except Error Unit × LocalState :=
  alone (call.steps boards "task" "t1" deniedIssue) state

def taskPersisted : LocalState := { startState taskStored.persistence with queue := some [] }

def olderUpdate : StoredRow :=
  pendingEdit (finishTask.edit "task" "t1") { deniedIssue with rowId := "q1" } "b1"

def taskUpdated : LocalState := { taskStored with queue := some [olderUpdate] }

theorem stored_task_undone :
    (deniedRun finishTask taskStored).1 = .error (.ownership "task" "t1") ∧
      Undone ("task", "t1") taskStored (deniedRun finishTask taskStored).2 := by
  have returned : (deniedRun finishTask taskStored).1 = .error (.ownership "task" "t1") := by
    decide
  refine ⟨returned, ?_⟩
  refine (refused_edit_undone_iff boards "task" "t1" finishTask deniedIssue
    (.ownership "task" "t1") taskStored rfl (fun _ => rfl) rfl returned).mpr ?_
  have stored : storedAt ("task", "t1") taskStored = some (some (Database.created taskRow)) := by
    decide
  refine ⟨Database.created taskRow, "b1", by decide, by decide, by decide, ?_, ?_⟩
  · intro row held
    rw [stored] at held
    exact (Option.some.inj held).symm
  · intro rows held queued member
    cases held
    cases member

/-- The task after an update that the broker accepted. -/
def taskRevised : LocalState :=
  let rows := ((Db.empty.create "task" taskRow).update "task" "t1"
    (record [("done", .number 0)])).getD Db.empty
  { startState (some rows) with memory := rows, queue := some [] }

def versionAt (row : Option Record) : Option Value := row.bind (·.lookup "_version")

/-- A row that only persistence held is in memory after the denied call, a denied update takes an
older queued update of the row along, and the row that is made again is at its first version. -/
theorem refused_edits_not_undone :
    (∀ call ∈ [finishTask, .delete],
      (deniedRun call taskPersisted).1 = .error (.ownership "task" "t1") ∧
        cachedAt ("task", "t1") taskPersisted = none ∧
        cachedAt ("task", "t1") (deniedRun call taskPersisted).2 =
          some (Database.created taskRow)) ∧
      ((deniedRun finishTask taskUpdated).1 = .error (.ownership "task" "t1") ∧
        taskUpdated.queue = some [olderUpdate] ∧
        (deniedRun finishTask taskUpdated).2.queue = some []) ∧
      (deniedRun finishTask taskRevised).1 = .error (.ownership "task" "t1") ∧
      versionAt (cachedAt ("task", "t1") taskRevised) = some (.number 2) ∧
      versionAt (cachedAt ("task", "t1") (deniedRun finishTask taskRevised).2) =
        some (.number 1) := by
  decide

end

end Stitch.Client.RefusedEdits
