import Stitch.Client.EventReplay
import Stitch.Client.ScopeReplacement

/-!
# The version a row is stored with

Remote events reach `apply_mutation_to_db` in any order and more than once. An update is
compared with the version and the time of the stored row before it is applied; an insert is not
compared with anything.
-/

namespace Stitch.Client.StoredVersions

open Foundation.FiniteMap Foundation.FallibleState Foundation.GuardedRuns Mutations Consolidation
open LocalRows ScopeSync EventReplay
open ScopeReplacement (boards record boardRow startState)

section

variable [Database] (config : StoreConfig)

def carriedVersion (data : Record) : Option Nat := (data.lookup config.versionField).bind Value.asU64

def storedVersion (db : Db) (key : RowKey) : Option Nat :=
  (db.rows.lookup key).bind (carriedVersion config)

def deliver (state : LocalState) (event : SyncMutation) : Option LocalState :=
  some (applyMutationToDb config event state).2

def OfRow (key : RowKey) (event : SyncMutation) : Prop :=
  event.key = key ∧ event.op ≠ .delete ∧
    ∃ data version, event.data = some data ∧ carriedVersion config data = some version

/-- An event of the row which, if it is an insert, meets no larger version. -/
def MeetsNoNewer (key : RowKey) (state : LocalState) (event : SyncMutation) : Prop :=
  OfRow config key event ∧
    (event.op = .insert → ∀ data version stored, event.data = some data →
      carriedVersion config data = some version →
        storedVersion config (localDb state) key = some stored → stored ≤ version)

variable {config} {event : SyncMutation}

theorem created_row_id (state : LocalState) (data : Record) :
    recordId (createdRow config state event.entity (data.insert "id" (.string event.id))) =
      some event.id := by
  unfold createdRow
  cases state.persistence with
  | none => exact memory_row_id (Finmap.lookup_insert data) event.entity _
  | some rows => exact record_id_of_insert data event.id

theorem accessor_create_rows (state : LocalState) (data : Record) :
    localDb (accessorCreate config event.entity (data.insert "id" (.string event.id))
        state).2 = localDb state ∨
      localDb (accessorCreate config event.entity (data.insert "id" (.string event.id))
          state).2 =
        (localDb state).put event.entity event.id (Database.created
          (createdRow config state event.entity (data.insert "id" (.string event.id)))) := by
  unfold accessorCreate
  obtain ⟨rest, well | ⟨error, failed⟩⟩ := db_call_cases state
  · right
    rw [bind_of_ok well, change, local_db_store_local, Db.create]
    have identified : recordId (createdRow config { state with faults := rest } event.entity
        (data.insert "id" (.string event.id))) = some event.id := created_row_id _ data
    rw [identified]
    rfl
  · left
    rw [bind_of_error failed]
    rfl

variable {data : Record}

theorem apply_insert_rows (state : LocalState) (carries : event.data = some data) :
    localDb (applyInsert config event state).2 = localDb state ∨
      localDb (applyInsert config event state).2 =
        (localDb state).put event.entity event.id (Database.created
          (createdRow config state event.entity (data.insert "id" (.string event.id)))) := by
  have checked : ∃ rest, (∃ missing, rootIsMissing config data state =
      (.ok missing, { state with faults := rest })) ∨
        ∃ error, rootIsMissing config data state = (.error error, { state with faults := rest }) := by
    unfold rootIsMissing
    cases refScope config data with
    | none => exact ⟨state.faults, .inl ⟨false, rfl⟩⟩
    | some scope =>
      obtain ⟨rest, well | ⟨error, failed⟩⟩ := accessor_read_cases state config.rootEntity scope
      · exact ⟨rest, .inl ⟨_, bind_of_ok well⟩⟩
      · exact ⟨rest, .inr ⟨error, bind_of_error failed⟩⟩
  rw [applyInsert, carries]
  dsimp only
  obtain ⟨rest, ⟨missing, well⟩ | ⟨error, failed⟩⟩ := checked
  · rw [bind_of_ok well]
    cases missing with
    | true => exact .inl rfl
    | false =>
      rw [if_neg Bool.false_ne_true, state_then_pure]
      exact accessor_create_rows { state with faults := rest } data
  · rw [bind_of_error failed]
    exact .inl rfl

/-- Whatever the database answers, an update either changes no row or merges its data into the
row, and then it is not older than the row. -/
theorem apply_update_rows (state : LocalState) (carries : event.data = some data) :
    localDb (applyUpdate config event state).2 = localDb state ∨
      ∃ existing, (localDb state).rows.lookup event.key = some existing ∧
        isOlder config data existing = false ∧
        localDb (applyUpdate config event state).2 =
          (localDb state).put event.entity event.id
            (Database.updated (stripNulls data) existing) := by
  rw [applyUpdate, carries]
  dsimp only
  obtain ⟨rest, well | ⟨error, failed⟩⟩ := accessor_read_cases state event.entity event.id
  · rw [bind_of_ok well]
    cases held : (localDb state).rows.lookup (event.entity, event.id) with
    | none => exact .inl rfl
    | some existing =>
      dsimp only
      cases older : isOlder config data existing with
      | true => exact .inl rfl
      | false =>
        rw [if_neg Bool.false_ne_true, state_then_pure, accessorUpdate]
        obtain ⟨later, well | ⟨error, failed⟩⟩ := db_call_cases { state with faults := rest }
        · right
          have found : (localDb state).update event.entity event.id (stripNulls data) =
              some ((localDb state).put event.entity event.id
                (Database.updated (stripNulls data) existing)) := by
            rw [Db.update, held, Option.map_some]
          refine ⟨existing, held, older, ?_⟩
          rw [bind_of_ok well, bind_inspect]
          change localDb (storeFound event.entity event.id
            ((localDb state).update event.entity event.id (stripNulls data)) _).2 = _
          rw [found, storeFound, change, local_db_store_local]
        · left
          rw [bind_of_error failed]
          rfl
  · rw [bind_of_error failed]
    exact .inl rfl

variable {key : RowKey} {db : Db} {version stored : Nat}

theorem stored_version_put {entity id : String} {row : Record}
    (carried : carriedVersion config row = some version) (named : config.versionField ≠ "id") :
    storedVersion config (db.put entity id row) (entity, id) = some version := by
  rw [storedVersion, Db.lookup_put_self, Option.bind_some, carriedVersion,
    Finmap.lookup_insert_of_ne _ named]
  exact carried

theorem carried_version_stripped (carried : carriedVersion config data = some version) :
    carriedVersion config (stripNulls data) = some version := by
  obtain ⟨value, held, number⟩ := Option.bind_eq_some_iff.mp carried
  rw [carriedVersion, strip_nulls_lookup held (by
    intro null
    subst null
    cases number), Option.bind_some, number]

theorem carried_version_created (state : LocalState) (entity : String)
    (carried : carriedVersion config data = some version) :
    carriedVersion config (createdRow config state entity data) = some version := by
  have kept := carried_version_stripped carried
  unfold createdRow
  cases state.persistence with
  | some rows => exact kept
  | none =>
    rw [memoryRow]
    split_ifs with unset
    · -- a version field that is the scope field is set, so nothing is filled in
      have other : config.versionField ≠ config.scopeField := by
        intro same
        rw [carriedVersion, same, Option.isNone_iff_eq_none.mp unset.2] at kept
        cases kept
      rw [carriedVersion, Finmap.lookup_insert_of_ne _ other]
      exact kept
    · exact kept

theorem version_field_of_stored (stored : storedVersion config db key = some version) :
    config.versionField ≠ "id" := by
  intro same
  obtain ⟨row, held, carried⟩ := Option.bind_eq_some_iff.mp stored
  rw [carriedVersion, same, db.keyed key row held] at carried
  cases carried

theorem not_behind_of_not_older {existing : Record} {remote : Nat}
    (current : isOlder config data existing = false)
    (carried : carriedVersion config data = some remote)
    (held : carriedVersion config existing = some stored) : stored ≤ remote := by
  rw [carriedVersion] at carried held
  rw [isOlder, Bool.or_eq_false_iff, isBehind, carried, held] at current
  simpa using current.1

theorem deliver_keeps_version (given : Database.own config.versionField = false)
    {state after : LocalState} {event : SyncMutation} (permitted : MeetsNoNewer config key state event)
    (taken : deliver config state event = some after)
    (held : storedVersion config (localDb state) key = some stored) :
    ∃ later, storedVersion config (localDb after) key = some later ∧ stored ≤ later := by
  obtain ⟨⟨named, kind, data, version, carries, carried⟩, guarded⟩ := permitted
  have field := version_field_of_stored held
  have reached := Option.some.inj taken
  subst reached
  subst named
  rw [applyMutationToDb]
  cases op : event.op with
  | insert =>
    rcases apply_insert_rows state carries with unchanged | written
    · rw [unchanged]
      exact ⟨stored, held, Nat.le_refl stored⟩
    · rw [written]
      refine ⟨version, ?_, guarded op data version stored carries carried held⟩
      apply stored_version_put _ field
      rw [carriedVersion, Database.created_lookup _ _ given]
      apply carried_version_created
      rw [carriedVersion, Finmap.lookup_insert_of_ne _ field]
      exact carried
  | update =>
    rcases apply_update_rows state carries with unchanged | ⟨existing, found, current, written⟩
    · rw [unchanged]
      exact ⟨stored, held, Nat.le_refl stored⟩
    · rw [written]
      rw [storedVersion, found, Option.bind_some] at held
      refine ⟨version, ?_, not_behind_of_not_older current carried held⟩
      apply stored_version_put _ field
      have stripped := carried_version_stripped carried
      obtain ⟨value, set, number⟩ := Option.bind_eq_some_iff.mp stripped
      rw [carriedVersion, Database.updated_lookup _ _ _ given, lookup_union, set, Option.some_or,
        Option.bind_some, number]
  | delete => exact absurd op kind

/-- Between any two points of a run of inserts and updates of a row, in any order and with
repetitions, the stored version does not decrease, provided no insert meets a larger version. -/
theorem stored_version_never_decreases (config : StoreConfig)
    (given : Database.own config.versionField = false) (key : RowKey)
    (state after : LocalState) (stored : Nat) (held : storedVersion config (localDb state) key = some stored)
    (run : Reaches (deliver config) (MeetsNoNewer config key) state after) :
    ∃ later, storedVersion config (localDb after) key = some later ∧ stored ≤ later := by
  apply reaches_invariant (fun reached => ∃ later,
    storedVersion config (localDb reached) key = some later ∧ stored ≤ later)
    ⟨stored, held, Nat.le_refl stored⟩ _ run
  intro before event next invariant permitted taken
  obtain ⟨version, shown, least⟩ := invariant
  obtain ⟨later, follows, grows⟩ := deliver_keeps_version given permitted taken shown
  exact ⟨later, follows, least.trans grows⟩

end

section

def taskAt (op : Operation) (version : Nat) (title : String) : SyncMutation :=
  ⟨op, "task", "t1", some (record [("boardId", .string "b1"), ("title", .string title),
    ("version", .number version)])⟩

def boardOnly : LocalState :=
  startState (some (Db.empty.create "board" boardRow))

def delivered (events : List SyncMutation) : LocalState :=
  events.foldl (fun state event => (applyMutationToDb boards event state).2)
    boardOnly

theorem task_of_row {op : Operation} (kept : op ≠ .delete) (version : Nat) (title : String) :
    OfRow boards ("task", "t1") (taskAt op version title) := by
  refine ⟨rfl, kept, _, version, rfl, ?_⟩
  rfl

theorem stored_version_after_inserts_and_updates :
    storedVersion boards (localDb (delivered [taskAt .insert 1 "draft"])) ("task", "t1") = some 1 ∧
      ∃ later, storedVersion boards (localDb (delivered [taskAt .insert 1 "draft",
        taskAt .update 2 "final", taskAt .insert 2 "final"])) ("task", "t1") = some later ∧
          1 ≤ later := by
  have first : storedVersion boards (localDb (delivered [taskAt .insert 1 "draft"]))
      ("task", "t1") = some 1 := by decide
  have second : storedVersion boards (localDb (delivered [taskAt .insert 1 "draft",
      taskAt .update 2 "final"])) ("task", "t1") = some 2 := by decide
  refine ⟨first, ?_⟩
  apply stored_version_never_decreases boards rfl ("task", "t1") _ _ 1 first
  apply Reaches.next (taskAt .insert 2 "final")
  · apply Reaches.next (taskAt .update 2 "final") .start
    · refine ⟨task_of_row (by decide) 2 "final", ?_⟩
      intro insert
      cases insert
    · rfl
  · refine ⟨task_of_row (by decide) 2 "final", ?_⟩
    intro _ data version stored carries carried held
    have shown := held.symm.trans second
    cases carries
    cases shown
    cases carried
    exact Nat.le_refl 2
  · rfl

/-- A task is inserted and updated, and then the insert arrives once more. -/
theorem redelivered_insert_lowers_version :
    OfRow boards ("task", "t1") (taskAt .insert 1 "draft") ∧
      OfRow boards ("task", "t1") (taskAt .update 2 "final") ∧
      storedVersion boards (localDb (delivered [taskAt .insert 1 "draft",
        taskAt .update 2 "final"])) ("task", "t1") = some 2 ∧
      storedVersion boards (localDb (delivered [taskAt .insert 1 "draft",
        taskAt .update 2 "final", taskAt .insert 1 "draft"])) ("task", "t1") = some 1 ∧
      ((localDb (delivered [taskAt .insert 1 "draft", taskAt .update 2 "final",
        taskAt .insert 1 "draft"])).rows.lookup ("task", "t1")).bind
          (fun row => row.lookup "title") = some (.string "draft") := by
  refine ⟨task_of_row (by decide) 1 "draft", task_of_row (by decide) 2 "final", ?_, ?_, ?_⟩
  · decide
  · decide
  · decide

end

end Stitch.Client.StoredVersions
