import Stitch.Client.MemoryMirror

/-!
# An update that arrives before the insert of its row

The mirror's branch that creates a row from an update is reached only for updates that were
persisted, and an update of an absent row is not. The insert that follows is written as it is.
-/

namespace Stitch.Client.OvertakenUpdate

open Foundation.FiniteMap Mutations Consolidation LocalRows ScopeSync EventReplay ScopeReplacement
open MemoryMirror

section

variable [Database]

def BothHold (state : LocalState) (key : RowKey) (row : Record) : Prop :=
  (∃ db, state.persistence = some db ∧ db.rows.lookup key = some row) ∧
    state.memory.rows.lookup key = some row

/-- Both stores show what the update sets, but for the fields that the database sets itself. -/
def ShowsUpdate (state : LocalState) (key : RowKey) (fields : Record) : Prop :=
  ∀ field value, Ordinary field → (stripNulls fields).lookup field = some value →
    (∃ db, state.persistence = some db ∧ Shows db key field value) ∧
      Shows state.memory key field value

theorem shows_update_iff {state : LocalState} {key : RowKey} {fields row : Record}
    (held : BothHold state key row) :
    ShowsUpdate state key fields ↔ ∀ field value, Ordinary field →
      (stripNulls fields).lookup field = some value → row.lookup field = some value := by
  obtain ⟨⟨db, persisted, stored⟩, cached⟩ := held
  constructor
  · intro shows_ field value ordinary sets
    obtain ⟨-, other, found, shown⟩ := shows_ field value ordinary sets
    rw [cached] at found
    rw [Option.some.inj found]
    exact shown
  · intro agrees field value ordinary sets
    have shown := agrees field value ordinary sets
    exact ⟨⟨db, persisted, row, stored, shown⟩, row, cached, shown⟩

variable {config : StoreConfig} {scope : String} {state : LocalState}
  {insert update : SyncMutation} {inserted updated : Record}

structure Opened (config : StoreConfig) (scope : String) (state : LocalState) : Prop where
  faults : state.faults = []
  current : state.currentScope = some scope
  root : ∃ db, state.persistence = some db ∧
    (db.rows.lookup (config.rootEntity, scope)).isSome

structure NamesScope (config : StoreConfig) (scope : String) (mutation : SyncMutation)
    (data : Record) : Prop where
  child : mutation.entity ∈ config.childEntities
  carries : mutation.data = some data
  named : refScope config data = some scope

variable {field id : String}

theorem inserted_number {data : Record} {number : Nat} (given : Database.own field = false)
    (reads : ((insertedRow id data).lookup field).bind Value.asU64 = some number) :
    (data.lookup field).bind Value.asU64 = some number := by
  unfold insertedRow at reads
  by_cases isId : field = "id"
  · rw [isId, Finmap.lookup_insert] at reads
    cases reads
  · rw [lookup_created ⟨isId, given⟩] at reads
    obtain ⟨value, kept, isNumber⟩ := Option.bind_eq_some_iff.mp reads
    have carried := lookup_of_strip_nulls kept
    rw [Finmap.lookup_insert_of_ne _ isId] at carried
    rw [carried]
    exact isNumber

theorem behind_of_inserted (given : Database.own field = false)
    (behind : isBehind field updated (insertedRow id inserted) = true) :
    isBehind field updated inserted = true := by
  unfold isBehind at behind ⊢
  cases remote : (updated.lookup field).bind Value.asU64 with
  | none => simp [remote] at behind
  | some sent =>
    cases held : ((insertedRow id inserted).lookup field).bind Value.asU64 with
    | none => simp [remote, held] at behind
    | some number =>
      rw [remote, held] at behind
      rw [inserted_number given held]
      exact behind

theorem newer_than_inserted (stamped : config.Stamped)
    (newer : isOlder config updated inserted = false) :
    isOlder config updated (insertedRow id inserted) = false := by
  unfold isOlder at newer ⊢
  rw [Bool.or_eq_false_iff] at newer ⊢
  constructor
  · rw [← Bool.not_eq_true]
    intro behind
    exact absurd (behind_of_inserted stamped.1 behind) (by simp [newer.1])
  · rw [← Bool.not_eq_true]
    intro behind
    exact absurd (behind_of_inserted stamped.2 behind) (by simp [newer.2])

variable (plain : Plain config) (opened : Opened config scope state)

include plain opened

theorem opened_after {mutation : SyncMutation} (child : mutation.entity ∈ config.childEntities) :
    Opened config scope (handleRemoteMutation config mutation state).2 := by
  obtain ⟨db, persisted, root⟩ := opened.root
  rw [handle_remote_mutation_quiet ⟨opened.faults, persisted⟩ mutation]
  refine ⟨opened.faults, opened.current, applied config db mutation, rfl, ?_⟩
  have different : (config.rootEntity, scope) ≠ mutation.key := by
    intro same
    exact (plain.separated mutation.entity child).1 (congrArg Prod.fst same).symm
  rw [applied_other different]
  exact root

theorem both_hold_inserted (op : insert.op = .insert)
    (names : NamesScope config scope insert inserted) :
    BothHold (handleRemoteMutation config insert state).2 insert.key
      (insertedRow insert.id inserted) := by
  obtain ⟨db, persisted, root⟩ := opened.root
  have done : wasApplied config db insert = true := by
    unfold wasApplied
    rw [op, names.carries]
    dsimp only
    rw [rootAbsent, names.named]
    simpa [Option.isNone_iff_eq_none, Option.isSome_iff_ne_none] using root
  have placed := mirror_scope_child plain names.child names.named (recordId inserted)
  have cached := mirrored_insert_lookup state.memory op names.carries placed
  rw [cached_row_scoped plain names.named] at cached
  rw [handle_remote_mutation_quiet ⟨opened.faults, persisted⟩ insert, opened.current]
  refine ⟨⟨applied config db insert, rfl, applied_insert_lookup op names.carries done⟩, ?_⟩
  rw [memoryAfter, if_pos ⟨done, (belongs_child plain names.child names.carries _ _).mpr
    names.named⟩]
  exact cached

theorem both_hold_merged (op : update.op = .update) (names : NamesScope config scope update updated)
    {row : Record} (held : BothHold state update.key row)
    (newer : isOlder config updated row = false) :
    BothHold (handleRemoteMutation config update state).2 update.key
      (mergedRow update.id updated row) := by
  obtain ⟨⟨db, persisted, stored⟩, cached⟩ := held
  have done : wasApplied config db update = true := by
    unfold wasApplied
    rw [op, names.carries]
    rw [stored]
    simp [newer]
  obtain ⟨existing, found, written⟩ := applied_update_lookup op names.carries done
  rw [stored] at found
  cases found
  rw [handle_remote_mutation_quiet ⟨opened.faults, persisted⟩ update, opened.current]
  refine ⟨⟨applied config db update, rfl, written⟩, ?_⟩
  rw [memoryAfter, if_pos ⟨done, (belongs_child plain names.child names.carries _ _).mpr
    names.named⟩]
  exact (mirrored_update_lookup config state.memory op names.carries).1 row cached

omit plain opened

theorem merged_shows (id : String) (row : Record) {value : Value} (ordinary : Ordinary field)
    (sets : (stripNulls updated).lookup field = some value) :
    (mergedRow id updated row).lookup field = some value := by
  rw [mergedRow, lookup_updated ordinary, sets]
  rfl

theorem inserted_lookup (id : String) (ordinary : Ordinary field) :
    (insertedRow id inserted).lookup field = (stripNulls inserted).lookup field := by
  rw [insertedRow, lookup_created ordinary, stripNulls, stripNulls, lookup_keepValues,
    lookup_keepValues, Finmap.lookup_insert_of_ne _ ordinary.1]

/-- In order, both stores show the update. When the update comes first, they show it if and
only if the insert carries the values the update sets. -/
theorem overtaken_update_kept_iff (plain : Plain config) (stamped : config.Stamped)
    (opened : Opened config scope state) (isInsert : insert.op = .insert)
    (isUpdate : update.op = .update) (sameRow : update.key = insert.key)
    (insertNames : NamesScope config scope insert inserted)
    (updateNames : NamesScope config scope update updated)
    (newer : isOlder config updated inserted = false) :
    ShowsUpdate (handleRemoteMutation config update
      (handleRemoteMutation config insert state).2).2 update.key updated ∧
    (ShowsUpdate (handleRemoteMutation config insert
        (handleRemoteMutation config update state).2).2 update.key updated ↔
      ∀ field value, Ordinary field → (stripNulls updated).lookup field = some value →
        (stripNulls inserted).lookup field = some value) := by
  constructor
  · have first : BothHold (handleRemoteMutation config insert state).2 update.key
        (insertedRow insert.id inserted) := by
      rw [sameRow]
      exact both_hold_inserted plain opened isInsert insertNames
    have reopened : Opened config scope (handleRemoteMutation config insert state).2 :=
      opened_after plain opened insertNames.child
    have both : BothHold (handleRemoteMutation config update
          (handleRemoteMutation config insert state).2).2 update.key
        (mergedRow update.id updated (insertedRow insert.id inserted)) :=
      both_hold_merged plain reopened isUpdate updateNames first
        (newer_than_inserted stamped newer)
    rw [shows_update_iff both]
    intro field value ordinary sets
    exact merged_shows _ _ ordinary sets
  · have reopened : Opened config scope (handleRemoteMutation config update state).2 :=
      opened_after plain opened updateNames.child
    have both : BothHold (handleRemoteMutation config insert
          (handleRemoteMutation config update state).2).2 insert.key
        (insertedRow insert.id inserted) :=
      both_hold_inserted plain reopened isInsert insertNames
    rw [sameRow, shows_update_iff both]
    constructor
    · intro agrees field value ordinary sets
      rw [← inserted_lookup insert.id ordinary]
      exact agrees field value ordinary sets
    · intro agrees field value ordinary sets
      rw [inserted_lookup insert.id ordinary]
      exact agrees field value ordinary sets

end

section

def emptyBoardDb : Db := Db.empty.create "board" boardRow

def openedEmpty : LocalState :=
  { startState (some emptyBoardDb) with memory := emptyBoardDb, currentScope := some "b1" }

def taskFields (version done : Nat) : Record :=
  record [("boardId", .string "b1"), ("version", .number version), ("done", .number done)]

def taskEvent (op : Operation) (version done : Nat) : SyncMutation where
  op := op
  entity := "task"
  id := "t1"
  data := some (taskFields version done)

def handleAll (events : List SyncMutation) : LocalState :=
  events.foldl (fun state event => (handleRemoteMutation boards event state).2)
    openedEmpty

def shownDone (state : LocalState) : Option Value × Option Value :=
  ((state.persistence.bind (·.rows.lookup ("task", "t1"))).bind (·.lookup "done"),
    (state.memory.rows.lookup ("task", "t1")).bind (·.lookup "done"))

theorem opened_empty : Opened boards "b1" openedEmpty := ⟨rfl, rfl, emptyBoardDb, rfl, by decide⟩

theorem task_event_names (op : Operation) (version done : Nat) :
    NamesScope boards "b1" (taskEvent op version done) (taskFields version done) where
  child := List.mem_singleton_self "task"
  carries := rfl
  named := rfl

/-- The update repeats the values of the insert, and both orders show it. -/
theorem repeated_update_is_kept :
    ShowsUpdate (handleAll [taskEvent .insert 1 0, taskEvent .update 1 0]) ("task", "t1")
        (taskFields 1 0) ∧
      ShowsUpdate (handleAll [taskEvent .update 1 0, taskEvent .insert 1 0]) ("task", "t1")
        (taskFields 1 0) := by
  have kept := overtaken_update_kept_iff boards_plain ⟨rfl, rfl⟩ opened_empty
    (rfl : (taskEvent .insert 1 0).op = .insert) (rfl : (taskEvent .update 1 0).op = .update) rfl
    (task_event_names .insert 1 0) (task_event_names .update 1 0) (by decide)
  exact ⟨kept.1, kept.2.mpr (fun _ _ _ sets => sets)⟩

/-- The update of version 2 arrives before the insert of version 1 and is lost in both
stores. -/
theorem overtaking_update_is_lost :
    Opened boards "b1" openedEmpty ∧
      NamesScope boards "b1" (taskEvent .insert 1 0) (taskFields 1 0) ∧
      NamesScope boards "b1" (taskEvent .update 2 1) (taskFields 2 1) ∧
      isOlder boards (taskFields 2 1) (taskFields 1 0) = false ∧
      shownDone (handleAll [taskEvent .insert 1 0, taskEvent .update 2 1]) =
        (some (.number 1), some (.number 1)) ∧
      shownDone (handleAll [taskEvent .update 2 1, taskEvent .insert 1 0]) =
        (some (.number 0), some (.number 0)) := by
  exact ⟨opened_empty, task_event_names .insert 1 0, task_event_names .update 2 1, by decide,
    by decide, by decide⟩

end

end Stitch.Client.OvertakenUpdate
