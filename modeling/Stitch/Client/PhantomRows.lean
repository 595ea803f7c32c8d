import Stitch.Client.FlushConservation
import Stitch.Client.LocalCreate

/-!
# Inserts that a flush gives up

A flush that drops an insert as a conflict, an ownership denial or a terminal publish rejection
reports it, and the store deletes the optimistic local row. Every other error that is not
retried drops the insert silently.
-/

namespace Stitch.Client.PhantomRows

open Foundation.FallibleState Foundation.Interleaving Mutations Consolidation
open LocalRows WritePath SyncRequests EditRollback LocalCreate FlushSteps FlushConservation
open PersistentQueue (FlushSummary RejectedInsert)
open ScopeReplacement (taskRow)
open RefusedMutations (taskStored)

section

variable {root : String} {mutation : ConsolidatedMutation} {answers : FlushAnswers} {err : Error}

/-- The create succeeded, or the broker has the row: it is read after a conflict, and only a
row that was read is updated. -/
def Landed (answers : FlushAnswers) : Prop :=
  answers.attempt = .ok () ∨
    ∃ err full, answers.attempt = .error err ∧ err.isConflict = true ∧
      answers.read = .ok (some full)

def refusesInsert (err : Error) : Bool :=
  err.isConflict || err.isOwnership || err.isTerminalPublishRejection

theorem insert_outcome (root : String) (insert : mutation.op = .insert)
    (sent : sends mutation = true) (attempt : answers.attempt = .error err) :
    flushOutcome root mutation answers =
      if err.isTransient then .keep
      else if err.isConflict then replayOrRejectInsert mutation answers
      else if err.isOwnership then .dropRejected
      else if err.isNotFound then .keep
      else if err.isTerminalPublishRejection then .dropRejected
      else .drop := by
  have here : (mutation.op == .insert) = true := by rw [insert]; rfl
  have notDelete : (mutation.op == .delete) = false := by rw [insert]; rfl
  have notUpdate : (mutation.op == .update) = false := by rw [insert]; rfl
  rw [flushOutcome, if_pos sent, attempt]
  simp only [here, notDelete, notUpdate, Bool.and_true, Bool.and_false, Bool.false_and,
    Bool.false_eq_true, if_false]
  split_ifs <;> rfl

theorem replay_rejects (unlanded : ¬Landed answers) (attempt : answers.attempt = .error err)
    (conflict : err.isConflict = true)
    (removed : replayOrRejectInsert mutation answers ≠ .keep) :
    replayOrRejectInsert mutation answers = .dropRejected := by
  rw [replayOrRejectInsert] at removed ⊢
  cases read : answers.read with
  | error failed =>
    rw [read] at removed
    dsimp only at removed ⊢
    split_ifs at removed ⊢ with transient
    · exact absurd rfl removed
    · rfl
  | ok found =>
    cases found with
    | none => rfl
    | some full => exact absurd (.inr ⟨err, full, attempt, conflict, read⟩) unlanded

theorem rejected_iff_refused (insert : mutation.op = .insert) (sent : sends mutation = true)
    (attempt : answers.attempt = .error err) (unlanded : ¬Landed answers)
    (removed : flushOutcome root mutation answers ≠ .keep) :
    flushOutcome root mutation answers = .dropRejected ↔ refusesInsert err = true := by
  rw [insert_outcome root insert sent attempt] at removed ⊢
  rw [refusesInsert]
  split_ifs at removed ⊢ with transient conflict ownership missing terminal
  · exact absurd rfl removed
  · rw [conflict]
    simp [replay_rejects unlanded attempt conflict removed]
  · simp [ownership]
  · exact absurd rfl removed
  · simp [terminal]
  · simp [conflict, ownership, terminal]

variable {around : FlushAround} {rows : List StoredRow}
  (member : mutation ∈ around.consolidated rows)

include member

theorem consolidated_insert_sends (insert : mutation.op = .insert) : sends mutation = true := by
  have made := consolidate_own_group member
  unfold consolidateGroup at made
  split at made
  · cases made
  · cases made
    rw [sends, consolidated_insert_data insert, Bool.or_true]

theorem reported_for_key {entry : RejectedInsert}
    (reported : entry ∈ (summaryOf around (around.consolidated rows)).rejectedInserts)
    (named : (entry.entity, entry.id) = mutation.key) :
    entry = rejectedInsert mutation ∧ around.outcome mutation = .dropRejected := by
  rw [rejected_inserts_eq, List.mem_map] at reported
  obtain ⟨other, selected, same⟩ := reported
  obtain ⟨otherMember, rejected⟩ := List.mem_filter.mp selected
  have sameKey : mutation.key = other.key := by
    rw [← named, ← same]
    rfl
  rw [same_of_key member otherMember sameKey]
  exact ⟨same.symm, of_decide_eq_true rejected⟩

theorem reported_iff :
    rejectedInsert mutation ∈ (summaryOf around (around.consolidated rows)).rejectedInserts ↔
      around.outcome mutation = .dropRejected := by
  constructor
  · intro reported
    exact (reported_for_key member reported rfl).2
  · intro rejected
    rw [rejected_inserts_eq, List.mem_map]
    exact ⟨mutation, List.mem_filter.mpr ⟨member, decide_eq_true rejected⟩, rfl⟩

omit member

theorem flush_consolidated_summary {Row : Type} {removeRecords : List String → FlushM Row Unit}
    {mutations : List ConsolidatedMutation} {table after : Table Row} {summary : FlushSummary}
    (ran : alone (flushConsolidated around removeRecords mutations) table = (.ok summary, after)) :
    summary = summaryOf around mutations := by
  induction mutations generalizing table summary with
  | nil =>
    cases ran
    rfl
  | cons mutation rest ih =>
    have tail : ∀ table, alone (flushConsolidated around removeRecords rest >>= fun later =>
          pure (addOutcome later mutation (around.outcome mutation))) table =
        (.ok summary, after) → summary = summaryOf around (mutation :: rest) := by
      intro table ran
      rw [alone_bind, bind_ok_iff] at ran
      obtain ⟨later, middle, first, second⟩ := ran
      cases second
      rw [summaryOf, ih first]
    have sent : (pure (around.outcome mutation) : TableM Row FlushOutcome) table =
        (.ok (around.outcome mutation), table) := rfl
    rw [flushConsolidated, sendOut, alone_atomic_bind sent] at ran
    split_ifs at ran with dropped
    · rw [alone_bind, bind_ok_iff] at ran
      obtain ⟨_, middle, _, second⟩ := ran
      exact tail middle second
    · exact tail table ran

def rollbackRejectedInserts (rejected : List RejectedInsert) : StoreM Unit :=
  each (fun insert => rollbackLocalRow insert.entity insert.id) rejected

structure Absent (key : RowKey) (store : LocalState) : Prop where
  cached : cachedAt key store = none
  stored : ∀ row ∈ storedAt key store, row = none

variable {store : LocalState} {key : RowKey} {entity id : String}

theorem row_deleted_absent (entity id : String) (store : LocalState) :
    Absent (entity, id) (rowDeleted entity id store) where
  cached := lookup_after_delete store.memory entity id
  stored := by
    intro row held
    rw [storedAt, rowDeleted, Option.map_map] at held
    obtain ⟨db, _, same⟩ := Option.map_eq_some_iff.mp held
    rw [← same]
    exact lookup_after_delete db entity id

theorem lookup_delete_other (db : Db) (different : key ≠ (entity, id)) :
    ((db.delete entity id).getD db).rows.lookup key = db.rows.lookup key := by
  rw [Db.lookup_deleted, if_neg different]

theorem row_deleted_other (different : key ≠ (entity, id)) :
    cachedAt key (rowDeleted entity id store) = cachedAt key store ∧
      storedAt key (rowDeleted entity id store) = storedAt key store := by
  refine ⟨lookup_delete_other store.memory different, ?_⟩
  rw [storedAt, rowDeleted, Option.map_map, storedAt]
  apply congrArg (fun look => store.persistence.map look)
  funext db
  exact lookup_delete_other db different

theorem rollback_rejected_cons (insert : RejectedInsert) (rest : List RejectedInsert)
    (calm : store.faults = []) :
    rollbackRejectedInserts (insert :: rest) store =
      rollbackRejectedInserts rest (rowDeleted insert.entity insert.id store) :=
  bind_of_ok (rollback_row_calm calm)

variable {rejected : List RejectedInsert}

theorem rollback_rejected_absent (calm : store.faults = [])
    (gone : Absent key store ∨ ∃ insert ∈ rejected, (insert.entity, insert.id) = key) :
    Absent key (rollbackRejectedInserts rejected store).2 := by
  induction rejected generalizing store with
  | nil =>
    obtain absent | ⟨insert, member, _⟩ := gone
    · exact absent
    · cases member
  | cons insert rest ih =>
    rw [rollback_rejected_cons insert rest calm]
    have deletedCalm : (rowDeleted insert.entity insert.id store).faults = [] := calm
    apply ih deletedCalm
    by_cases here : key = (insert.entity, insert.id)
    · left
      rw [here]
      exact row_deleted_absent insert.entity insert.id store
    · obtain absent | ⟨other, member, named⟩ := gone
      · left
        obtain ⟨cached, stored⟩ :
            cachedAt key (rowDeleted insert.entity insert.id store) = _ ∧ _ :=
          row_deleted_other here
        refine ⟨cached.trans absent.cached, ?_⟩
        rw [stored]
        exact absent.stored
      · right
        obtain same | later := List.mem_cons.mp member
        · rw [same] at named
          exact absurd named.symm here
        · exact ⟨other, later, named⟩

theorem rollback_rejected_other (calm : store.faults = [])
    (unreported : ∀ insert ∈ rejected, (insert.entity, insert.id) ≠ key) :
    cachedAt key (rollbackRejectedInserts rejected store).2 = cachedAt key store ∧
      storedAt key (rollbackRejectedInserts rejected store).2 = storedAt key store := by
  induction rejected generalizing store with
  | nil => exact ⟨rfl, rfl⟩
  | cons insert rest ih =>
    rw [rollback_rejected_cons insert rest calm]
    have deletedCalm : (rowDeleted insert.entity insert.id store).faults = [] := calm
    have later := ih deletedCalm
      (fun other member => unreported other (List.mem_cons_of_mem _ member))
    have first : cachedAt key (rowDeleted insert.entity insert.id store) = _ ∧ _ :=
      row_deleted_other (unreported insert List.mem_cons_self).symm
    exact ⟨later.1.trans first.1, later.2.trans first.2⟩

/-- An insert group that a flush drops, although the row is not on the broker, is reported
exactly when the create failed with a conflict, an ownership denial or a terminal publish
rejection; only then does the rollback take the optimistic row out of the stores that hold it. -/
theorem dropped_insert_reported_iff {Row : Type} (around : FlushAround)
    (removeRecords : List String → FlushM Row Unit) (rows : List StoredRow)
    (table after : Table Row) (summary : FlushSummary)
    (ran : alone (flushConsolidated around removeRecords (around.consolidated rows)) table =
      (.ok summary, after))
    (mutation : ConsolidatedMutation) (member : mutation ∈ around.consolidated rows)
    (insert : mutation.op = .insert) (removed : around.outcome mutation ≠ .keep)
    (unlanded : ¬Landed (around.answers mutation))
    (store : LocalState) (calm : store.faults = [])
    (optimistic : (cachedAt mutation.key store).isSome ∨
      ∃ row, storedAt mutation.key store = some (some row)) :
    (rejectedInsert mutation ∈ summary.rejectedInserts ↔
        ∃ err, (around.answers mutation).attempt = .error err ∧ refusesInsert err = true) ∧
      (rejectedInsert mutation ∈ summary.rejectedInserts ↔
        Absent mutation.key (rollbackRejectedInserts summary.rejectedInserts store).2) := by
  have sent := consolidated_insert_sends member insert
  rw [flush_consolidated_summary ran]
  constructor
  · rw [reported_iff member]
    cases attempt : (around.answers mutation).attempt with
    | ok _ => exact absurd (.inl attempt) unlanded
    | error err =>
      refine (rejected_iff_refused insert sent attempt unlanded removed).trans ?_
      constructor
      · intro refused
        exact ⟨err, rfl, refused⟩
      · intro failed
        obtain ⟨other, same, refused⟩ := failed
        rw [Except.error.inj same]
        exact refused
  · constructor
    · intro reported
      exact rollback_rejected_absent calm (.inr ⟨_, reported, rfl⟩)
    · intro absent
      by_contra unreported
      have others : ∀ entry ∈ (summaryOf around (around.consolidated rows)).rejectedInserts,
          (entry.entity, entry.id) ≠ mutation.key := by
        intro entry reported named
        rw [(reported_for_key member reported named).1] at reported
        exact unreported reported
      obtain ⟨cached, stored⟩ := rollback_rejected_other calm others
      obtain present | ⟨row, held⟩ := optimistic
      · rw [← cached, absent.cached] at present
        cases present
      · cases absent.stored (some row) (stored.trans held)

def answering (err : Error) : FlushAround :=
  facing (fun _ => ⟨.error err, .ok none, .ok ()⟩)

theorem answering_unlanded (err : Error) (mutation : ConsolidatedMutation) :
    ¬Landed ((answering err).answers mutation) := by
  intro landed
  obtain created | ⟨_, full, _, _, read⟩ := landed
  · cases created
  · cases read

def queuedTask : StoredRow := queuedRow "q1" "task" "t1" .insert (some taskRow)

def taskInsert : ConsolidatedMutation where
  op := .insert
  entity := "task"
  id := "t1"
  scopeId := "b1"
  data := some taskRow
  recordIds := ["q1"]
  minCreatedAt := 7

def taskFlush (err : Error) : Except Error FlushSummary × Table StoredRow :=
  alone (flushConsolidated (answering err) collectRecords ((answering err).consolidated [queuedTask]))
    (tableOf [queuedTask])

theorem denied_task_reported :
    Absent ("task", "t1") (rollbackRejectedInserts [⟨"task", "t1", "b1"⟩] taskStored).2 := by
  have ran : taskFlush (.ownership "task" "t1") =
      (.ok ⟨0, [⟨"task", "t1", "b1"⟩]⟩, (taskFlush (.ownership "task" "t1")).2) :=
    Prod.ext (by decide) rfl
  have reported := dropped_insert_reported_iff (answering (.ownership "task" "t1")) collectRecords
    [queuedTask] (tableOf [queuedTask]) (taskFlush (.ownership "task" "t1")).2
    ⟨0, [⟨"task", "t1", "b1"⟩]⟩ ran taskInsert (by decide) rfl (by decide)
    (answering_unlanded _ _) taskStored rfl (.inl (by decide))
  exact reported.2.mp (by decide)

/-- The create fails with the error, the task is out of the queue and not reported, and its
local row stays. -/
def LeftBehind (err : Error) : Prop :=
  (answering err).answers taskInsert = ⟨.error err, .ok none, .ok ()⟩ ∧
    (alone (inMemoryFlush (answering err)) (tableOf [queuedTask])).1 = .ok ⟨0, []⟩ ∧
    (alone (inMemoryFlush (answering err)) (tableOf [queuedTask])).2.rows = [] ∧
    cachedAt ("task", "t1") (rollbackRejectedInserts [] taskStored).2 =
      some (Database.created taskRow)

instance (err : Error) : Decidable (LeftBehind err) := by
  unfold LeftBehind
  infer_instance

/-- An insert that the broker calls invalid, or that fails with an error of no known class. -/
theorem invalid_task_left_behind :
    LeftBehind (.rejected "name is required") ∧ LeftBehind .sessionInvalid := by
  decide

end

end Stitch.Client.PhantomRows
