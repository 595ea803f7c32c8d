import Stitch.Client.ScopeSync

/-!
# The effect of a sequence of mutation events

Over persisted rows and a database that does not fail, `apply_mutation_to_db` is a function of
the rows: the last insert or delete decides whether a row is there, and a field shows the last
update that set it.
-/

namespace Stitch.Client.EventReplay

open Foundation.FiniteMap Foundation.FallibleState Mutations Consolidation LocalRows ScopeSync

structure Quiet (db : Db) (state : LocalState) : Prop where
  faults : state.faults = []
  persistence : state.persistence = some db

def withRows (db : Db) (state : LocalState) : LocalState := { state with persistence := some db }

section

variable {db : Db} {state : LocalState}

variable (quiet : Quiet db state)

include quiet

theorem local_db_quiet : localDb state = db := by
  rw [localDb, quiet.persistence, Option.getD_some]

theorem store_local_quiet (after : Db) :
    storeLocal after state = withRows after state := by
  rw [storeLocal, quiet.persistence]
  rfl

theorem with_rows_quiet : withRows db state = state := by
  rw [withRows, ← quiet.persistence]

theorem accessor_read_quiet (entity id : String) :
    accessorRead entity id state = (.ok (db.rows.lookup (entity, id)), state) := by
  rw [accessor_read_calm quiet.faults, local_db_quiet quiet]

theorem delete_row_quiet (entity id : String) :
    (deleteRow entity id state).2 = withRows ((db.delete entity id).getD db) state := by
  rw [delete_row_calm quiet.faults, local_db_quiet quiet, store_local_quiet quiet]

theorem accessor_delete_quiet (entity id : String) :
    accessorDelete entity id state =
      (.ok (), withRows ((db.delete entity id).getD db) state) := by
  rw [accessor_delete_calm quiet.faults, local_db_quiet quiet, store_local_quiet quiet]

omit quiet

variable [Database] (config : StoreConfig)

theorem accessor_create_quiet (quiet : Quiet db state) (entity : String) (data : Record) :
    accessorCreate config entity data state =
      (.ok (), withRows (db.create entity (stripNulls data)) state) := by
  rw [accessor_create_calm quiet.faults, local_db_quiet quiet, store_local_quiet quiet,
    quiet.persistence]
  rfl

theorem accessor_update_quiet (quiet : Quiet db state) (entity id : String) (fields : Record) :
    accessorUpdate entity id fields state =
      match db.update entity id (stripNulls fields) with
      | some after => (.ok (), withRows after state)
      | none => (.error (.notFound entity id), state) := by
  cases found : db.update entity id (stripNulls fields) with
  | none =>
    rw [← local_db_quiet quiet] at found
    exact accessor_update_missing quiet.faults found
  | some after =>
    rw [← local_db_quiet quiet] at found
    rw [accessor_update_calm quiet.faults found, store_local_quiet quiet]

def rootAbsent (db : Db) (data : Record) : Bool :=
  match refScope config data with
  | some scope => (db.rows.lookup (config.rootEntity, scope)).isNone
  | none => false

def appliedInsert (db : Db) (mutation : SyncMutation) (data : Record) : Db :=
  if rootAbsent config db data then db
  else db.put mutation.entity mutation.id
    (Database.created (stripNulls (data.insert "id" (.string mutation.id))))

def appliedUpdate (db : Db) (mutation : SyncMutation) (data : Record) : Db :=
  match db.rows.lookup mutation.key with
  | none => db
  | some existing =>
    if isOlder config data existing then db
    else db.put mutation.entity mutation.id (Database.updated (stripNulls data) existing)

def applied (db : Db) (mutation : SyncMutation) : Db :=
  match mutation.op with
  | .insert => (mutation.data.map (appliedInsert config db mutation)).getD db
  | .update => (mutation.data.map (appliedUpdate config db mutation)).getD db
  | .delete => (db.delete mutation.entity mutation.id).getD db

/-- Whether the code reports the mutation as applied; a delete always counts. -/
def wasApplied (db : Db) (mutation : SyncMutation) : Bool :=
  match mutation.op, mutation.data with
  | .delete, _ => true
  | _, none => false
  | .insert, some data => !rootAbsent config db data
  | .update, some data =>
    match db.rows.lookup mutation.key with
    | none => false
    | some existing => !isOlder config data existing

def replayed (db : Db) (mutations : List SyncMutation) : Db :=
  mutations.foldl (applied config) db

variable {config}

omit [Database] in
theorem record_id_of_insert (data : Record) (id : String) :
    recordId (stripNulls (data.insert "id" (.string id))) = some id := by
  rw [recordId, stripNulls, lookup_keepValues, Finmap.lookup_insert]
  rfl

variable {mutation : SyncMutation} {data : Record}

variable {db : Db} {state : LocalState}

theorem apply_insert_quiet (quiet : Quiet db state) (carries : mutation.data = some data) :
    applyInsert config mutation state =
      (.ok (!rootAbsent config db data),
        withRows (appliedInsert config db mutation data) state) := by
  have checked : rootIsMissing config data state = (.ok (rootAbsent config db data), state) := by
    rw [rootIsMissing, rootAbsent]
    cases refScope config data with
    | none => rfl
    | some scope => exact bind_of_ok (accessor_read_quiet quiet _ _)
  rw [applyInsert, carries]
  dsimp only
  rw [bind_of_ok checked, appliedInsert]
  cases rootAbsent config db data with
  | true =>
    rw [if_pos rfl, if_pos rfl, with_rows_quiet quiet]
    rfl
  | false =>
    rw [if_neg Bool.false_ne_true, if_neg Bool.false_ne_true,
      bind_of_ok (accessor_create_quiet config quiet _ _), Db.create,
      record_id_of_insert, Option.getD_some]
    rfl

theorem apply_update_quiet (quiet : Quiet db state) (carries : mutation.data = some data) :
    applyUpdate config mutation state =
      (.ok (match db.rows.lookup mutation.key with
          | none => false
          | some existing => !isOlder config data existing),
        withRows (appliedUpdate config db mutation data) state) := by
  rw [applyUpdate, carries]
  dsimp only
  rw [bind_of_ok (accessor_read_quiet quiet _ _), appliedUpdate, SyncMutation.key]
  cases held : db.rows.lookup (mutation.entity, mutation.id) with
  | none =>
    rw [with_rows_quiet quiet]
    rfl
  | some existing =>
    dsimp only
    cases older : isOlder config data existing with
    | true =>
      rw [if_pos rfl, if_pos rfl, with_rows_quiet quiet]
      rfl
    | false =>
      have updated : accessorUpdate mutation.entity mutation.id data state =
          (.ok (), withRows (db.put mutation.entity mutation.id
            (Database.updated (stripNulls data) existing)) state) := by
        rw [accessor_update_quiet quiet, Db.update, held, Option.map_some]
      rw [if_neg Bool.false_ne_true, if_neg Bool.false_ne_true, bind_of_ok updated]
      rfl

theorem apply_mutation_quiet (quiet : Quiet db state) (mutation : SyncMutation) :
    applyMutationToDb config mutation state =
      (.ok (wasApplied config db mutation), withRows (applied config db mutation) state) := by
  rw [applyMutationToDb, applied, wasApplied]
  cases mutation.op with
  | insert =>
    cases carries : mutation.data with
    | none =>
      rw [applyInsert, carries, Option.map_none, Option.getD_none, with_rows_quiet quiet]
      rfl
    | some data => exact apply_insert_quiet quiet carries
  | update =>
    cases carries : mutation.data with
    | none =>
      dsimp only
      rw [applyUpdate, carries, Option.map_none, Option.getD_none, with_rows_quiet quiet]
      rfl
    | some data => exact apply_update_quiet quiet carries
  | delete => exact bind_of_ok (accessor_delete_quiet quiet _ _)

end

def has (db : Db) (key : RowKey) : Bool := (db.rows.lookup key).isSome

variable {key : RowKey}

theorem not_has_iff {db : Db} :
    has db key = false ↔ db.rows.lookup key = none := by
  rw [has, Option.isSome_eq_false_iff, Option.isNone_iff_eq_none]

theorem has_put {db : Db} {entity id : String} {row : Record} :
    has (db.put entity id row) key = true ↔ key = (entity, id) ∨ has db key = true := by
  by_cases here : key = (entity, id)
  · subst here
    rw [has, Db.lookup_put_self]
    simp
  · rw [has, Db.lookup_put_other db row here]
    simp [here, has]

def Shows (db : Db) (key : RowKey) (field : String) (value : Value) : Prop :=
  ∃ row, db.rows.lookup key = some row ∧ row.lookup field = some value

def sets (event : SyncMutation) (field : String) : Bool :=
  ((event.data.map stripNulls).bind (fun data => data.lookup field)).isSome

section

variable [Database] {config : StoreConfig} {db : Db} {event : SyncMutation}
variable {key : RowKey} {data : Record} {field id : String} {value : Value}

theorem applied_other (different : key ≠ event.key) :
    (applied config db event).rows.lookup key = db.rows.lookup key := by
  unfold applied
  cases event.op with
  | insert =>
    cases event.data with
    | none => rfl
    | some data =>
      rw [Option.map_some, Option.getD_some, appliedInsert]
      split_ifs
      · rfl
      · exact Db.lookup_put_other db _ different
  | update =>
    cases event.data with
    | none => rfl
    | some data =>
      dsimp only [Option.map_some, Option.getD_some]
      rw [appliedUpdate]
      cases db.rows.lookup event.key with
      | none => rfl
      | some existing =>
        dsimp only
        split_ifs
        · rfl
        · exact Db.lookup_put_other db _ different
  | delete =>
    dsimp only [Db.delete]
    cases db.rows.lookup (event.entity, event.id) with
    | none => rfl
    | some existing => exact Db.lookup_remove_other db different

theorem applied_insert_row (op : event.op = .insert) (carries : event.data = some data)
    (rooted : rootAbsent config db data = false) :
    has (applied config db event) event.key = true := by
  rw [applied, op, carries]
  dsimp only [Option.map_some, Option.getD_some]
  rw [appliedInsert, rooted, if_neg Bool.false_ne_true, has, SyncMutation.key,
    Db.lookup_put_self]
  rfl

theorem applied_delete_row (op : event.op = .delete) :
    (applied config db event).rows.lookup event.key = none := by
  rw [applied, op]
  dsimp only [Db.delete, SyncMutation.key]
  cases held : db.rows.lookup (event.entity, event.id) with
  | none => exact held
  | some row => exact Db.lookup_remove_self db event.entity event.id

theorem applied_update_row (op : event.op = .update) :
    (applied config db event).rows.lookup event.key =
      (db.rows.lookup event.key).map (fun existing =>
        match event.data with
        | none => existing
        | some data =>
          if isOlder config data existing then existing
          else (Database.updated (stripNulls data) existing).insert "id" (.string event.id)) := by
  rw [applied, op]
  cases event.data with
  | none => simp
  | some data =>
    dsimp only [Option.map_some, Option.getD_some]
    rw [appliedUpdate]
    cases held : db.rows.lookup event.key with
    | none => exact held
    | some existing =>
      dsimp only [Option.map_some]
      by_cases older : isOlder config data existing = true
      · rw [if_pos older, if_pos older]
        exact held
      · rw [if_neg older, if_neg older]
        exact Db.lookup_put_self db event.entity event.id _

theorem has_kept (present : has db key = true) (survives : event.key = key → event.op ≠ .delete) :
    has (applied config db event) key = true := by
  by_cases here : key = event.key
  · subst here
    cases op : event.op with
    | insert =>
      cases carries : event.data with
      | none =>
        rw [applied, op, carries]
        exact present
      | some data =>
        cases rooted : rootAbsent config db data with
        | false => exact applied_insert_row op carries rooted
        | true =>
          rw [applied, op, carries]
          dsimp only [Option.map_some, Option.getD_some]
          rw [appliedInsert, rooted, if_pos rfl]
          exact present
    | update =>
      rw [has, applied_update_row op, Option.isSome_map]
      exact present
    | delete => exact absurd op (survives rfl)
  · rw [has, applied_other here]
    exact present

theorem lacks_kept (absent : has db key = false) (missing : event.key = key → event.op ≠ .insert) :
    has (applied config db event) key = false := by
  rw [not_has_iff] at absent ⊢
  by_cases here : key = event.key
  · subst here
    cases op : event.op with
    | insert => exact absurd op (missing rfl)
    | update => rw [applied_update_row op, absent, Option.map_none]
    | delete => exact applied_delete_row op
  · rw [applied_other here]
    exact absent

theorem shows_kept (ordinary : Ordinary field) (shows : Shows db key field value)
    (untouched : event.key = key → event.op = .update ∧ sets event field = false) :
    Shows (applied config db event) key field value := by
  obtain ⟨row, held, shown⟩ := shows
  by_cases here : key = event.key
  · subst here
    obtain ⟨op, silent⟩ := untouched rfl
    rw [Shows, applied_update_row op, held]
    refine ⟨_, rfl, ?_⟩
    cases carries : event.data with
    | none => exact shown
    | some data =>
      dsimp only
      split_ifs
      · exact shown
      · have unset : (stripNulls data).lookup field = none := by
          rw [sets, carries] at silent
          simpa using silent
        rw [lookup_updated ordinary, unset, Option.none_or]
        exact shown
  · refine ⟨row, ?_, shown⟩
    rw [applied_other here]
    exact held

omit [Database] in
theorem lookup_of_strip_nulls (kept : (stripNulls data).lookup field = some value) :
    data.lookup field = some value := by
  rw [stripNulls, lookup_keepValues, Option.filter_eq_some_iff] at kept
  exact kept.1

omit [Database] in
theorem strip_nulls_lookup (carried : data.lookup field = some value) (set : value ≠ .null) :
    (stripNulls data).lookup field = some value := by
  rw [stripNulls, lookup_keepValues, Option.filter_eq_some_iff]
  exact ⟨carried, by simpa using set⟩

omit [Database] in
theorem lookup_record_id {record : Record} (identified : recordId record = some id) :
    record.lookup "id" = some (.string id) := by
  obtain ⟨value, held, text⟩ := Option.bind_eq_some_iff.mp identified
  cases value with
  | string found =>
    cases text
    exact held
  | _ => cases text

omit [Database] in
theorem record_id_stripped (data : Record) : recordId (stripNulls data) = recordId data := by
  rw [recordId, recordId, stripNulls, lookup_keepValues]
  cases data.lookup "id" with
  | none => rfl
  | some value =>
    cases value with
    | null | _ => rfl

theorem memory_row_id (carried : data.lookup "id" = some (.string id)) (entity scope : String) :
    recordId (memoryRow config entity scope data) = some id := by
  have kept : (stripNulls data).lookup "id" = some (.string id) :=
    strip_nulls_lookup carried (by simp)
  rw [recordId, memoryRow]
  split_ifs with missing
  · have different : "id" ≠ config.scopeField := by
      intro same
      rw [← same, kept] at missing
      exact absurd missing.2 (by simp)
    rw [Finmap.lookup_insert_of_ne _ different, kept]
    rfl
  · rw [kept]
    rfl

theorem field_origin (ordinary : Ordinary field)
    (shows : Shows (applied config db event) key field value) :
    Shows db key field value ∨
      event.key = key ∧ ∃ data, event.data = some data ∧ data.lookup field = some value := by
  obtain ⟨row, held, shown⟩ := shows
  by_cases here : key = event.key
  · subst here
    cases op : event.op with
    | insert =>
      cases carries : event.data with
      | none =>
        rw [applied, op, carries] at held
        exact .inl ⟨row, held, shown⟩
      | some data =>
        rw [applied, op, carries] at held
        dsimp only [Option.map_some, Option.getD_some] at held
        rw [appliedInsert] at held
        split_ifs at held
        · exact .inl ⟨row, held, shown⟩
        · rw [SyncMutation.key, Db.lookup_put_self] at held
          rw [← Option.some.inj held, lookup_created ordinary] at shown
          have carried := lookup_of_strip_nulls shown
          rw [Finmap.lookup_insert_of_ne _ ordinary.1] at carried
          exact .inr ⟨rfl, data, rfl, carried⟩
    | update =>
      rw [applied_update_row op] at held
      obtain ⟨existing, before, same⟩ := Option.map_eq_some_iff.mp held
      cases carries : event.data with
      | none =>
        rw [carries] at same
        cases same
        exact .inl ⟨existing, before, shown⟩
      | some data =>
        rw [carries] at same
        dsimp only at same
        split_ifs at same
        · cases same
          exact .inl ⟨row, before, shown⟩
        · rw [← same, lookup_updated ordinary] at shown
          cases set : (stripNulls data).lookup field with
          | none =>
            rw [set, Option.none_or] at shown
            exact .inl ⟨existing, before, shown⟩
          | some other =>
            rw [set, Option.some_or] at shown
            cases shown
            exact .inr ⟨rfl, data, rfl, lookup_of_strip_nulls set⟩
    | delete =>
      rw [applied_delete_row op] at held
      cases held
  · rw [applied_other here] at held
    exact .inl ⟨row, held, shown⟩

variable {scope : String}

def lastOp (events : List SyncMutation) (key : RowKey) : Option Operation :=
  ((events.filter (fun event => event.key = key)).getLast?).map SyncMutation.op

def isOverdue (config : StoreConfig) (data : Record) (other : SyncMutation) : Bool :=
  (other.data.map (isOlder config data)).getD false

/-- An update meets no deleted row and no newer data, and no row is inserted under a deleted root.
-/
def InSequence (config : StoreConfig) (scope : String) (earlier : List SyncMutation)
    (event : SyncMutation) : Prop :=
  match event.op, event.data with
  | .insert, some data =>
    refScope config data = none ∨ refScope config data = some scope ∧
      lastOp earlier (config.rootEntity, scope) ≠ some .delete
  | .update, some data =>
    lastOp earlier event.key ≠ some .delete ∧
      ∀ other ∈ earlier, other.key = event.key → isOverdue config data other = false
  | .delete, _ => True
  | _, none => False

instance (config : StoreConfig) (scope : String) (earlier : List SyncMutation)
    (event : SyncMutation) : Decidable (InSequence config scope earlier event) := by
  unfold InSequence
  exact match event.op, event.data with
  | .insert, some data => inferInstance
  | .update, some data => inferInstance
  | .delete, _ => inferInstance
  | .insert, none => inferInstance
  | .update, none => inferInstance

def Ordered (config : StoreConfig) (scope : String) (events : List SyncMutation) : Prop :=
  ∀ earlier event later, events = earlier ++ event :: later →
    InSequence config scope earlier event

theorem ordered_nil : Ordered config scope [] := by
  intro earlier event later split
  simp at split

variable {events earlier : List SyncMutation} {key : RowKey} {base : Db}

variable {event : SyncMutation}

theorem ordered_snoc :
    Ordered config scope (events ++ [event]) ↔
      Ordered config scope events ∧ InSequence config scope events event := by
  constructor
  · intro ordered
    refine ⟨?_, ordered events event [] rfl⟩
    intro earlier other later split
    exact ordered earlier other (later ++ [event]) (by rw [split]; simp)
  · intro both earlier other later split
    cases later using List.reverseRecOn with
    | nil =>
      have same := List.append_inj' split rfl
      rw [← same.1, ← List.head_eq_of_cons_eq same.2]
      exact both.2
    | append_singleton later last =>
      have same : events = earlier ++ other :: later := by
        have regrouped : events ++ [event] = (earlier ++ other :: later) ++ [last] := by
          rw [split]
          simp
        exact (List.append_inj' regrouped rfl).1
      exact both.1 earlier other later same

omit [Database] in
theorem last_op_snoc_self (events : List SyncMutation) (event : SyncMutation) :
    lastOp (events ++ [event]) event.key = some event.op := by
  simp [lastOp]

omit [Database] in
theorem last_op_snoc_other (events : List SyncMutation) (different : event.key ≠ key) :
    lastOp (events ++ [event]) key = lastOp events key := by
  simp [lastOp, different]

theorem replayed_snoc (base : Db) (events : List SyncMutation) (event : SyncMutation) :
    replayed config base (events ++ [event]) =
      applied config (replayed config base events) event := by
  simp [replayed]

theorem replayed_append (base : Db) (earlier later : List SyncMutation) :
    replayed config base (earlier ++ later) =
      replayed config (replayed config base earlier) later :=
  List.foldl_append

theorem replayed_keeps (Kept : Db → Prop)
    (kept : ∀ event ∈ events, ∀ db, Kept db → Kept (applied config db event)) {db : Db}
    (holds : Kept db) : Kept (replayed config db events) := by
  induction events using List.reverseRecOn with
  | nil => exact holds
  | append_singleton events event ih =>
    rw [replayed_snoc]
    apply kept event (by simp)
    exact ih (fun other member => kept other (List.mem_append_left _ member))

theorem insert_sequenced (sequenced : InSequence config scope earlier event)
    (op : event.op = .insert) :
    ∃ data, event.data = some data ∧ (refScope config data = none ∨
      refScope config data = some scope ∧
        lastOp earlier (config.rootEntity, scope) ≠ some .delete) := by
  unfold InSequence at sequenced
  rw [op] at sequenced
  cases carries : event.data with
  | none =>
    rw [carries] at sequenced
    cases sequenced
  | some data =>
    rw [carries] at sequenced
    exact ⟨data, rfl, sequenced⟩

theorem update_sequenced (sequenced : InSequence config scope earlier event)
    (op : event.op = .update) :
    ∃ data, event.data = some data ∧ lastOp earlier event.key ≠ some .delete ∧
      ∀ other ∈ earlier, other.key = event.key → isOverdue config data other = false := by
  unfold InSequence at sequenced
  rw [op] at sequenced
  cases carries : event.data with
  | none =>
    rw [carries] at sequenced
    cases sequenced
  | some data =>
    rw [carries] at sequenced
    exact ⟨data, rfl, sequenced⟩

/-- The root row is there as long as the last event of it does not delete it. -/
def Rooted (config : StoreConfig) (scope : String) (db : Db) (events : List SyncMutation) :
    Prop :=
  lastOp events (config.rootEntity, scope) ≠ some .delete →
    has db (config.rootEntity, scope) = true

theorem insert_in_sequence {db : Db} (rooted : Rooted config scope db earlier)
    (sequenced : InSequence config scope earlier event) (op : event.op = .insert) :
    has (applied config db event) event.key = true := by
  obtain ⟨data, carries, placed⟩ := insert_sequenced sequenced op
  apply applied_insert_row op carries
  unfold rootAbsent
  cases placed with
  | inl free => rw [free]
  | inr named =>
    rw [named.1]
    have present := rooted named.2
    rw [has] at present
    simpa using present

omit [Database] in
theorem known_before {known : Prop}
    (found : known ∨ ∃ other ∈ events ++ [event], other.key = key ∧ other.op = .insert)
    (elsewhere : event.key = key → event.op ≠ .insert) :
    known ∨ ∃ other ∈ events, other.key = key ∧ other.op = .insert := by
  cases found with
  | inl here => exact .inl here
  | inr inserted =>
    obtain ⟨other, member, same, inserts⟩ := inserted
    cases List.mem_append.mp member with
    | inl before => exact .inr ⟨other, before, same, inserts⟩
    | inr last =>
      rw [List.mem_singleton.mp last] at same inserts
      exact absurd inserts (elsewhere same)

theorem has_replayed (root : has base (config.rootEntity, scope) = true)
    (ordered : Ordered config scope events)
    (known : has base key = true ∨ ∃ event ∈ events, event.key = key ∧ event.op = .insert)
    (last : lastOp events key ≠ some .delete) :
    has (replayed config base events) key = true := by
  induction events using List.reverseRecOn generalizing key with
  | nil =>
    cases known with
    | inl present => exact present
    | inr inserted =>
      obtain ⟨event, member, _⟩ := inserted
      cases member
  | append_singleton events event ih =>
    obtain ⟨earlier, sequenced⟩ := ordered_snoc.mp ordered
    rw [replayed_snoc]
    by_cases here : event.key = key
    · subst here
      cases op : event.op with
      | insert => exact insert_in_sequence (ih earlier (.inl root)) sequenced op
      | update =>
        -- the update itself demands that no delete came last
        obtain ⟨_, _, notDeleted, _⟩ := update_sequenced sequenced op
        apply has_kept
        · apply ih earlier _ notDeleted
          exact known_before known (fun _ => by rw [op]; decide)
        · intro _
          rw [op]
          decide
      | delete =>
        rw [last_op_snoc_self, op] at last
        exact absurd rfl last
    · apply has_kept
      · rw [last_op_snoc_other events here] at last
        apply ih earlier _ last
        exact known_before known (fun same => absurd same here)
      · intro same
        exact absurd same here

theorem replayed_field_origin {field : String} {value : Value} (ordinary : Ordinary field)
    (shows : Shows (replayed config base events) key field value) :
    Shows base key field value ∨ ∃ event ∈ events, event.key = key ∧
      ∃ data, event.data = some data ∧ data.lookup field = some value := by
  induction events using List.reverseRecOn with
  | nil => exact .inl shows
  | append_singleton events event ih =>
    rw [replayed_snoc] at shows
    cases field_origin ordinary shows with
    | inr here =>
      obtain ⟨same, carried⟩ := here
      exact .inr ⟨event, by simp, same, carried⟩
    | inl before =>
      cases ih before with
      | inl held => exact .inl held
      | inr earlier =>
        obtain ⟨other, member, carried⟩ := earlier
        exact .inr ⟨other, List.mem_append_left _ member, carried⟩

/-- The update's row was gone when the snapshot was taken, or the reconciled row is newer. -/
def SnapshotSupersedes (config : StoreConfig) (fetched : RowKey → Prop) (base : Db)
    (earlier : List SyncMutation) (event : SyncMutation) : Prop :=
  (¬ fetched event.key ∧ ∀ other ∈ earlier, other.key = event.key → other.op ≠ .insert) ∨
    ∃ row data, base.rows.lookup event.key = some row ∧ event.data = some data ∧
      isOlder config data row = true

/-- The rows reflect the event, unless a later event or the snapshot supersedes it. -/
def Reflected (config : StoreConfig) (fetched : RowKey → Prop) (base final : Db)
    (earlier : List SyncMutation) (event : SyncMutation) (later : List SyncMutation) : Prop :=
  match event.op with
  | .insert => has final event.key = true ∨
      ∃ other ∈ later, other.key = event.key ∧ other.op = .delete
  | .delete => has final event.key = false ∨
      ∃ other ∈ later, other.key = event.key ∧ other.op = .insert
  | .update => SnapshotSupersedes config fetched base earlier event ∨
      ∀ field value, Ordinary field → value ≠ .null →
        event.data.bind (fun data => data.lookup field) = some value →
        Shows final event.key field value ∨
          ∃ other ∈ later, other.key = event.key ∧
            (other.op ≠ .update ∨ sets other field = true)

theorem replayed_around (base : Db) (earlier later : List SyncMutation)
    (event : SyncMutation) :
    replayed config base (earlier ++ event :: later) =
      replayed config (applied config (replayed config base earlier) event) later :=
  replayed_append base earlier (event :: later)

variable {earlier later : List SyncMutation} {base : Db} {field : String} {data existing : Record}
  {fetched : RowKey → Prop}

theorem ordered_earlier (ordered : Ordered config scope (earlier ++ later)) :
    Ordered config scope earlier := by
  intro before event after split
  exact ordered before event (after ++ later) (by rw [split]; simp)

variable {event : SyncMutation}

theorem insert_reflected (root : has base (config.rootEntity, scope) = true)
    (ordered : Ordered config scope earlier) (sequenced : InSequence config scope earlier event)
    (op : event.op = .insert) (kept : ∀ other ∈ later, other.key = event.key → other.op ≠ .delete) :
    has (replayed config base (earlier ++ event :: later)) event.key = true := by
  rw [replayed_around]
  refine replayed_keeps (fun db => has db event.key = true) ?_ ?_
  · intro other member db present
    exact has_kept present (kept other member)
  · exact insert_in_sequence (has_replayed root ordered (.inl root)) sequenced op

theorem delete_reflected (op : event.op = .delete)
    (kept : ∀ other ∈ later, other.key = event.key → other.op ≠ .insert) :
    has (replayed config base (earlier ++ event :: later)) event.key = false := by
  rw [replayed_around]
  refine replayed_keeps (fun db => has db event.key = false) ?_ ?_
  · intro other member db absent
    exact lacks_kept absent (kept other member)
  · exact not_has_iff.mpr (applied_delete_row op)

omit [Database] in
theorem behind_by_field (behind : isBehind field data existing = true) :
    ∃ value, existing.lookup field = some value ∧ value.asU64.isSome ∧
      ∀ other : Record, other.lookup field = some value → isBehind field data other = true := by
  unfold isBehind at behind
  split at behind
  · next remote amount sent kept =>
      obtain ⟨value, shown, number⟩ := Option.bind_eq_some_iff.mp kept
      refine ⟨value, shown, by rw [number]; rfl, ?_⟩
      intro other same
      rw [isBehind, sent, same, Option.bind_some, number]
      exact behind
  · cases behind

theorem older_by_snapshot (stamped : config.Stamped)
    (current : ∀ other ∈ earlier, other.key = event.key → isOverdue config data other = false)
    (held : (replayed config base earlier).rows.lookup event.key = some existing)
    (older : isOlder config data existing = true) :
    ∃ row, base.rows.lookup event.key = some row ∧ isOlder config data row = true := by
  have traced : ∀ field, Database.own field = false → isBehind field data existing = true →
      (∀ record, isBehind field data record = true → isOlder config data record = true) →
      ∃ row, base.rows.lookup event.key = some row ∧ isOlder config data row = true := by
    intro field given behind counts
    obtain ⟨value, shown, number, decides⟩ := behind_by_field behind
    have named : field ≠ "id" := by
      intro same
      subst same
      rw [Db.keyed _ _ _ held] at shown
      rw [← Option.some.inj shown] at number
      cases number
    cases replayed_field_origin ⟨named, given⟩ ⟨existing, held, shown⟩ with
    | inl fromBase =>
      obtain ⟨row, kept, before⟩ := fromBase
      exact ⟨row, kept, counts row (decides row before)⟩
    | inr fromEvent =>
      obtain ⟨other, member, same, record, carries, carried⟩ := fromEvent
      have late := current other member same
      rw [isOverdue, carries, Option.map_some, Option.getD_some,
        counts record (decides record carried)] at late
      cases late
  cases Bool.or_eq_true_iff.mp older with
  | inl version =>
    apply traced config.versionField stamped.1 version
    intro record late
    rw [isOlder, late, Bool.true_or]
  | inr updatedAt =>
    apply traced config.updatedAtField stamped.2 updatedAt
    intro record late
    rw [isOlder, late, Bool.or_true]

variable (stamped : config.Stamped) (root : has base (config.rootEntity, scope) = true)
  (covers : ∀ key, fetched key → has base key = true)

include stamped root covers

theorem update_reflected (ordered : Ordered config scope earlier) (op : event.op = .update)
    (carries : event.data = some data) (last : lastOp earlier event.key ≠ some .delete)
    (current : ∀ other ∈ earlier, other.key = event.key → isOverdue config data other = false)
    (kept : ¬ SnapshotSupersedes config fetched base earlier event) {value : Value}
    (ordinary : Ordinary field) (set : value ≠ .null) (carried : data.lookup field = some value)
    (untouched : ∀ other ∈ later, other.key = event.key → other.op = .update ∧ sets other field =
      false) :
    Shows (replayed config base (earlier ++ event :: later)) event.key field value := by
  rw [replayed_around]
  refine replayed_keeps (fun db => Shows db event.key field value) ?_ ?_
  · intro other member db shows
    exact shows_kept ordinary shows (untouched other member)
  cases held : (replayed config base earlier).rows.lookup event.key with
  | none =>
    -- the row is in neither the snapshot nor an earlier insert
    refine absurd (.inl ?_) kept
    have lost : ∀ known, has (replayed config base earlier) event.key = true → known := by
      intro known present
      rw [has, held] at present
      cases present
    refine ⟨?_, ?_⟩
    · intro inSnapshot
      exact lost _ (has_replayed root ordered (.inl (covers _ inSnapshot)) last)
    · intro other member same inserts
      exact lost _ (has_replayed root ordered (.inr ⟨other, member, same, inserts⟩) last)
  | some existing =>
    by_cases older : isOlder config data existing = true
    · obtain ⟨row, inBase, newer⟩ := older_by_snapshot stamped current held older
      exact absurd (.inr ⟨row, data, inBase, carries, newer⟩) kept
    · rw [Shows, applied_update_row op, held, carries]
      refine ⟨_, rfl, ?_⟩
      dsimp only
      rw [if_neg older, lookup_updated ordinary, strip_nulls_lookup carried set, Option.some_or]

/-- Replaying events in the server's order over rows that hold the snapshot reflects
every one of them. -/
theorem replayed_reflects {events : List SyncMutation} (ordered : Ordered config scope events)
    (split : events = earlier ++ event :: later) :
    Reflected config fetched base (replayed config base events) earlier event later := by
  subst split
  have before := ordered_earlier ordered
  have sequenced := ordered earlier event later rfl
  unfold Reflected
  cases op : event.op with
  | insert =>
    by_cases superseded : ∃ other ∈ later, other.key = event.key ∧ other.op = .delete
    · exact .inr superseded
    · apply Or.inl
      apply insert_reflected root before sequenced op
      intro other member same deletes
      exact superseded ⟨other, member, same, deletes⟩
  | delete =>
    by_cases superseded : ∃ other ∈ later, other.key = event.key ∧ other.op = .insert
    · exact .inr superseded
    · apply Or.inl
      apply delete_reflected op
      intro other member same inserts
      exact superseded ⟨other, member, same, inserts⟩
  | update =>
    obtain ⟨data, carries, last, current⟩ := update_sequenced sequenced op
    by_cases bySnapshot : SnapshotSupersedes config fetched base earlier event
    · exact .inl bySnapshot
    · apply Or.inr
      intro field value ordinary set carried
      rw [carries, Option.bind_some] at carried
      by_cases superseded : ∃ other ∈ later, other.key = event.key ∧
          (other.op ≠ .update ∨ sets other field = true)
      · exact .inr superseded
      · apply Or.inl
        apply update_reflected stamped root covers before op carries last current bySnapshot
          ordinary set carried
        intro other member same
        refine ⟨?_, ?_⟩
        · by_contra differs
          exact superseded ⟨other, member, same, .inl differs⟩
        · by_contra touches
          exact superseded ⟨other, member, same, .inr (by simpa using touches)⟩

end

end Stitch.Client.EventReplay
