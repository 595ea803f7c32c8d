import Stitch.Client.ScopeOpening
import Stitch.Client.RootList

/-!
# Queued edits of root rows during a resync

Two paths write root rows from what the server holds. The refresh of the root list only looks
for queued deletes of a root it writes and for queued inserts of a root it drops; the opening of
a scope does not look at the queue before it writes the root.
-/

namespace Stitch.Client.RootResync

open Foundation.FiniteMap Foundation.FallibleState Mutations Consolidation LocalRows ScopeSync
open EventReplay ReconciledRows RootList
open ScopeOpening (replay_quiet keeps_quiet_reload)
open ScopeReplacement (boards record startState)

section

variable [Database] (config : StoreConfig)

def fieldOf (row : Option Record) (field : String) : Option Value :=
  row.bind (fun held => held.lookup field)

/-- A queued update of the root row sets the field to the value the row shows; no delete of the
row is queued, and the database does not set the field itself. -/
structure QueuedEdit (state : LocalState) (id field : String) (value : Value) : Prop where
  queued : ∃ queued ∈ state.queue.getD [], queued.key = (config.rootEntity, id) ∧
    queued.op = .update ∧ fieldOf (queued.data.map stripNulls) field = some value
  undeleted : ∀ queued ∈ state.queue.getD [], queued.key = (config.rootEntity, id) →
    queued.op ≠ .delete
  shown : fieldOf (rootRow config state id) field = some value
  given : Database.own field = false

structure QueuedDelete (state : LocalState) (id : String) : Prop where
  queued : ∃ queued ∈ state.queue.getD [], queued.key = (config.rootEntity, id) ∧
    queued.op = .delete
  absent : rootRow config state id = none

structure KeepsQueued (before after : LocalState) : Prop where
  edits : ∀ id field value, QueuedEdit config before id field value →
    fieldOf (rootRow config after id) field = some value
  deletes : ∀ id, QueuedDelete config before id → rootRow config after id = none

theorem keeps_queued_iff {before after : LocalState}
    {editKept : String → String → Value → Prop} {deleteKept : String → Prop}
    (edits : ∀ id field value, QueuedEdit config before id field value →
      (fieldOf (rootRow config after id) field = some value ↔ editKept id field value))
    (deletes : ∀ id, QueuedDelete config before id →
      (rootRow config after id = none ↔ deleteKept id)) :
    KeepsQueued config before after ↔
      (∀ id field value, QueuedEdit config before id field value → editKept id field value) ∧
      ∀ id, QueuedDelete config before id → deleteKept id := by
  constructor
  · intro kept
    refine ⟨?_, ?_⟩
    · intro id field value edit
      exact (edits id field value edit).mp (kept.edits id field value edit)
    · intro id delete
      exact (deletes id delete).mp (kept.deletes id delete)
  · intro spared
    refine ⟨?_, ?_⟩
    · intro id field value edit
      exact (edits id field value edit).mpr (spared.1 id field value edit)
    · intro id delete
      exact (deletes id delete).mpr (spared.2 id delete)

variable {config} {fetch : Fetch} {state after : LocalState}

/-- The value the listed roots with the id give the field, the last of them counting. -/
def servedValue (roots : List Record) (id field : String) : Option Value :=
  (roots.filter (fun root => recordId root = some id)).foldl
    (fun held root => ((stripNulls root).lookup field).or held) none

variable {field : String}

theorem adopted_field (roots : List Record) (row : Option Record)
    (given : Database.own field = false) :
    fieldOf (roots.foldl adoptRoot row) field =
      (roots.foldl (fun held root => ((stripNulls root).lookup field).or held) none).or
        (fieldOf row field) := by
  -- the fields of the last root come first on both sides
  induction roots using List.reverseRecOn with
  | nil => rw [List.foldl_nil, List.foldl_nil, Option.none_or]
  | append_singleton earlier root ih =>
    rw [List.foldl_concat, List.foldl_concat, Option.or_assoc, ← ih, adoptRoot, fieldOf,
      Option.bind_some]
    cases earlier.foldl adoptRoot row with
    | none =>
      rw [Option.elim_none, Database.created_lookup _ _ given, fieldOf, Option.bind_none,
        Option.or_none]
    | some held =>
      rw [Option.elim_some, Database.updated_lookup _ _ _ given, lookup_union]
      rfl

theorem adopted_none_iff (roots : List Record) :
    roots.foldl adoptRoot none = none ↔ roots = [] := by
  cases roots using List.reverseRecOn with
  | nil => simp
  | append_singleton earlier root => simp [adoptRoot]

variable {user : Option String} {others : List StoredRow} {roots : List Record} {id : String}

theorem dropped_not_listed {queue : Option (List StoredRow)}
    (drops : dropsRoot config user others roots queue id = true) :
    roots.filter (fun root => recordId root = some id) = [] := by
  rw [dropsRoot, Bool.and_eq_true, Bool.not_eq_true', Bool.or_eq_false_iff] at drops
  rw [List.filter_eq_nil_iff]
  intro root member
  exact List.any_eq_false.mp drops.2.1 root member

theorem refreshed_field_iff {value : Value} (given : Database.own field = false)
    (shown : fieldOf (rootRow config state id) field = some value) :
    fieldOf (refreshedRoot config user others roots state id) field = some value ↔
      dropsRoot config user others roots state.queue id = false ∧
        (deletesRoot config state.queue id = true ∨
          ∀ other, servedValue roots id field = some other → other = value) := by
  rw [refreshedRoot]
  cases drops : dropsRoot config user others roots state.queue id with
  | true =>
    rw [dropped_not_listed drops]
    simp [fieldOf]
  | false =>
    rw [if_neg Bool.false_ne_true]
    cases deletesRoot config state.queue id with
    | true => simp [shown]
    | false =>
      rw [if_neg Bool.false_ne_true, adopted_field _ _ given, shown, ← servedValue]
      cases servedValue roots id field with
      | none | some other => simp

theorem refreshed_absent_iff (absent : rootRow config state id = none) :
    refreshedRoot config user others roots state id = none ↔
      deletesRoot config state.queue id = true ∨ id ∉ serverIds roots := by
  rw [refreshedRoot, absent, ite_self]
  cases deletesRoot config state.queue id with
  | true => simp
  | false =>
    rw [if_neg Bool.false_ne_true, adopted_none_iff, List.filter_eq_nil_iff, mem_server_ids]
    simp

variable (config) (scope : String) (root : Record)

def upsertFields (id : String) : Record := (stripNulls root).insert "id" (.string id)

/-- The row that is created for a fetched root when the scope's own root row is not held. -/
def createdRoot (db : Db) : String := (recordId root).getD (Database.newId db)

def upsertedRow (db : Db) (id : String) : Option Record :=
  if root = ∅ then db.rows.lookup (config.rootEntity, id)
  else
    match db.rows.lookup (config.rootEntity, scope) with
    | some row =>
      if id = scope then
        some ((Database.updated (stripNulls root) row).insert "id" (.string id))
      else db.rows.lookup (config.rootEntity, id)
    | none =>
      if id = createdRoot root db then
        some ((Database.created (stripNulls root)).insert "id" (.string id))
      else db.rows.lookup (config.rootEntity, id)

def SparesField (db : Db) (id field : String) (value : Value) : Prop :=
  root ≠ ∅ →
    if has db (config.rootEntity, scope) then
      id = scope → ∀ other, (upsertFields root id).lookup field = some other → other = value
    else id = createdRoot root db → (upsertFields root id).lookup field = some value

def SparesAbsence (db : Db) (id : String) : Prop :=
  root ≠ ∅ → has db (config.rootEntity, scope) = false → id ≠ createdRoot root db

variable {config scope root} {state after : LocalState}

theorem upsert_root_calm (calm : state.faults = []) :
    (upsertRoot config scope root state).1 = .ok () ∧
      Rewrites config (upsertedRow config scope root (localDb state)) state
        (upsertRoot config scope root state).2 := by
  rw [upsertRoot]
  by_cases blank : root = ∅
  · rw [if_pos blank]
    refine ⟨rfl, rewrites_same.congr ?_⟩
    intro id
    rw [upsertedRow, if_pos blank]
    rfl
  · rw [if_neg blank, bind_of_ok (accessor_read_calm calm config.rootEntity scope)]
    cases held : (localDb state).rows.lookup (config.rootEntity, scope) with
    | some row =>
      have updated : (localDb state).update config.rootEntity scope (stripNulls root) =
          some ((localDb state).put config.rootEntity scope
            (Database.updated (stripNulls root) row)) := by
        rw [Db.update, held, Option.map_some]
      dsimp only
      rw [bind_attempt, accessor_update_calm calm updated]
      refine ⟨rfl, _, rfl, ?_⟩
      intro id
      rw [upsertedRow, if_neg blank, held]
      dsimp only
      split_ifs with here
      · rw [here]
        exact Db.lookup_put_self _ _ _ _
      · exact Db.lookup_put_other _ _ (by simpa using here)
    | none =>
      dsimp only
      rw [bind_attempt, accessor_create_calm calm, stored_form_root, Db.create,
        record_id_stripped]
      refine ⟨rfl, _, rfl, ?_⟩
      intro id
      rw [upsertedRow, if_neg blank, held]
      dsimp only
      split_ifs with here
      · rw [here]
        exact Db.lookup_put_self _ _ _ _
      · exact Db.lookup_put_other _ _ (fun same => here (Prod.mk.inj same).2)

variable {db : Db} {id : String} {opened : ScopeState}

theorem upsert_created_field (given : Database.own field = false) (id : String) :
    ((Database.created (stripNulls root)).insert "id" (.string id)).lookup field =
      (upsertFields root id).lookup field := by
  rw [upsertFields]
  by_cases isId : field = "id"
  · rw [isId, Finmap.lookup_insert, Finmap.lookup_insert]
  · rw [lookup_created ⟨isId, given⟩, Finmap.lookup_insert_of_ne _ isId]

theorem upsert_updated_field (given : Database.own field = false) (id : String) (row : Record) :
    ((Database.updated (stripNulls root) row).insert "id" (.string id)).lookup field =
      ((upsertFields root id).lookup field).or (row.lookup field) := by
  rw [upsertFields]
  by_cases isId : field = "id"
  · rw [isId, Finmap.lookup_insert, Finmap.lookup_insert, Option.some_or]
  · rw [lookup_updated ⟨isId, given⟩, Finmap.lookup_insert_of_ne _ isId]

theorem upserted_field_iff {value : Value} (given : Database.own field = false)
    (shown : fieldOf (db.rows.lookup (config.rootEntity, id)) field = some value) :
    fieldOf (upsertedRow config scope root db id) field = some value ↔
      SparesField config scope root db id field value := by
  rw [upsertedRow, SparesField]
  by_cases blank : root = ∅
  · simp [blank, shown]
  · rw [if_neg blank, has]
    simp only [ne_eq, blank, not_false_eq_true, forall_const]
    cases held : db.rows.lookup (config.rootEntity, scope) with
    | some row =>
      dsimp only
      by_cases here : id = scope
      · subst here
        rw [held] at shown
        have before : row.lookup field = some value := shown
        rw [if_pos rfl, fieldOf, Option.bind_some, upsert_updated_field given, before]
        cases (upsertFields root id).lookup field with
        | none | some other => simp
      · simp [here, shown]
    | none =>
      by_cases here : id = createdRoot root db
      · rw [if_pos here, fieldOf, Option.bind_some, upsert_created_field given]
        simp [here]
      · simp [here, shown]

theorem upserted_absent_iff (absent : db.rows.lookup (config.rootEntity, id) = none) :
    upsertedRow config scope root db id = none ↔
      SparesAbsence config scope root db id := by
  rw [upsertedRow, SparesAbsence]
  by_cases blank : root = ∅
  · simp [blank, absent]
  · rw [if_neg blank, has]
    cases held : db.rows.lookup (config.rootEntity, scope) with
    | some row =>
      have other : id ≠ scope := by
        intro same
        rw [same, held] at absent
        cases absent
      simp [other, absent]
    | none => simp [blank, absent]

variable {events : List SyncMutation}

theorem replays_keep_row {key : RowKey} (elsewhere : ∀ event ∈ events, key ≠ event.key)
    (quiet : Quiet db state) (ran : each (replayMutation config) events state = (.ok (), after)) :
    ∃ reached, Quiet reached after ∧ reached.rows.lookup key = db.rows.lookup key := by
  induction events generalizing state db with
  | nil =>
    cases ran
    exact ⟨db, quiet, rfl⟩
  | cons event rest ih =>
    obtain ⟨_, middle, first, later⟩ := bind_ok_iff.mp ran
    rw [replay_quiet quiet] at first
    have next : Quiet (applied config db event) middle := by
      rw [← (Prod.mk.inj first).2]
      exact ⟨quiet.faults, rfl⟩
    obtain ⟨reached, still, same⟩ := ih
      (fun other member => elsewhere other (List.mem_cons_of_mem event member)) next later
    exact ⟨reached, still, same.trans (applied_other (elsewhere event List.mem_cons_self))⟩

/-- What opening a scope leaves of a root row that no buffered event is about, in a store with
persistence. -/
theorem opened_root_row {rows : Db}
    (children : ∀ child ∈ opened.children, config.rootEntity ≠ child.1)
    (elsewhere : ∀ event ∈ opened.bufferedMutations, (config.rootEntity, id) ≠ event.key)
    (quiet : Quiet rows state)
    (ran : openScopeWithServer config scope (.ok opened) state = (.ok (), after)) :
    rootRow config after id = upsertedRow config scope opened.root rows id := by
  obtain ⟨_, reconciled, first, reloads⟩ := bind_ok_iff.mp ran
  obtain ⟨answer, start, settled, work⟩ := bind_ok_iff.mp first
  obtain ⟨answered, here⟩ := Prod.mk.inj settled
  cases answered
  subst here
  obtain ⟨_, upserted, rooted, laterWork⟩ := bind_ok_iff.mp work
  obtain ⟨_, listed, reconciles, replays⟩ := bind_ok_iff.mp laterWork
  obtain ⟨_, replayed, replaying, marked⟩ := bind_ok_iff.mp replays
  have wrote := (@upsert_root_calm _ config scope opened.root state quiet.faults).2
  rw [rooted, local_db_quiet quiet] at wrote
  have kept := rewrites_each (fun child member begun reached calm reconciled =>
    reconcile_children_rows (children child member) calm reconciled) (wrote.calm quiet.faults)
      reconciles
  -- from here on the rows are those of the persistence layer
  obtain ⟨db, same, _⟩ := wrote.trans kept
  have quietListed : Quiet db listed := by
    rw [same, store_local_quiet quiet]
    exact ⟨quiet.faults, rfl⟩
  obtain ⟨last, quietReplayed, row⟩ := replays_keep_row elsewhere quietListed replaying
  have quietMarked : Quiet last reconciled := by
    rw [← (Prod.mk.inj marked).2]
    exact ⟨quietReplayed.faults, quietReplayed.persistence⟩
  have quietAfter : Quiet last after :=
    (keeps_quiet_reload last).after quietMarked reloads
  calc rootRow config after id
      = last.rows.lookup (config.rootEntity, id) := by rw [rootRow, local_db_quiet quietAfter]
    _ = rootRow config listed id := by rw [row, rootRow, local_db_quiet quietListed]
    _ = rootRow config upserted id := kept.row id
    _ = upsertedRow config scope opened.root rows id := wrote.row id

theorem opened_memory_empty (unpersisted : state.persistence = none)
    (ran : openScopeWithServer config scope (.ok opened) state = (.ok (), after))
    (id : String) : rootRow config after id = none := by
  obtain ⟨_, reconciled, first, reloads⟩ := bind_ok_iff.mp ran
  have unwritten : Unwritten (fun store : LocalState => store.persistence = none) :=
    ⟨fun _ _ none => none, fun store db none => by rw [storeLocal, none]⟩
  have bare : reconciled.persistence = none :=
    (keeps_reconcile_scope config unwritten (fun _ _ none => none) scope
      (.ok opened)).after unpersisted first
  obtain ⟨bundle, begun, gathered, loads⟩ := bind_ok_iff.mp reloads
  rw [loadBundleFromPersistence, bind_inspect, bare] at gathered
  cases gathered
  obtain ⟨_, called, calls, filled⟩ := bind_ok_iff.mp loads
  have still : called.persistence = none :=
    (keeps_db_call unwritten.faults).after bare calls
  cases filled
  rw [rootRow, localDb, still]
  rfl

/-- No event that arrived during the open is about a root row with a queued mutation. -/
def Unqueued (config : StoreConfig) (state : LocalState) (events : List SyncMutation) : Prop :=
  ∀ event ∈ events, event.entity = config.rootEntity →
    ∀ queued ∈ state.queue.getD [], queued.key ≠ event.key

theorem unqueued_elsewhere {config : StoreConfig} {state : LocalState}
    (unqueued : Unqueued config state events) {id : String} {queued : StoredRow}
    (waits : queued ∈ state.queue.getD []) (here : queued.key = (config.rootEntity, id)) :
    ∀ event ∈ events, (config.rootEntity, id) ≠ event.key := by
  intro event arrived same
  have ofRoot : event.entity = config.rootEntity := (congrArg Prod.fst same).symm
  exact unqueued event arrived ofRoot queued waits (here.trans same)

/-- Queued edits of root rows outlive a refresh of the root list exactly when it does not drop
their rows and the listed records carry no other value for the edited fields, and they outlive
an open of a persisted store exactly when the fetched root carries no other value. A root row
whose delete is queued stays away from a refresh exactly when the delete is queued under the
row's own scope or the server does not list the row, and from an open exactly when it is not
the row that the open creates. -/
theorem resync_keeps_queued_iff (config : StoreConfig)
    (apart : config.rootEntity ∉ config.childEntities) (state : LocalState)
    (calm : state.faults = []) :
    (∀ (fetch : Fetch) (userScopeField user : Option String) (others : List StoredRow)
      (fetched : List Record) (after : LocalState), fetch config.rootEntity none = .ok fetched →
      syncRootEntityList config fetch userScopeField user others state = (.ok (), after) →
      (KeepsQueued config state after ↔
        (∀ id field value, QueuedEdit config state id field value →
          dropsRoot config user others (scopedRoots userScopeField user fetched) state.queue id =
              false ∧
            (deletesRoot config state.queue id = true ∨
              ∀ other, servedValue (scopedRoots userScopeField user fetched) id field =
                some other → other = value)) ∧
        ∀ id, QueuedDelete config state id → deletesRoot config state.queue id = true ∨
          id ∉ serverIds (scopedRoots userScopeField user fetched))) ∧
    (∀ (scope : String) (opened : ScopeState) (after : LocalState),
      (∀ child ∈ opened.children, child.1 ∈ config.childEntities) →
      Unqueued config state opened.bufferedMutations →
      openScopeWithServer config scope (.ok opened) state = (.ok (), after) →
      (KeepsQueued config state after ↔
        (∀ id field value, QueuedEdit config state id field value →
          state.persistence.isSome = true ∧
            SparesField config scope opened.root (localDb state) id field value) ∧
        ∀ id, QueuedDelete config state id → state.persistence.isSome = true →
          SparesAbsence config scope opened.root (localDb state) id)) := by
  constructor
  · intro fetch userScopeField user others fetched after listed ran
    have rows := sync_root_entity_list_rows apart calm listed ran
    apply keeps_queued_iff
    · intro id field value edit
      rw [rows.row]
      exact refreshed_field_iff edit.given edit.shown
    · intro id delete
      rw [rows.row]
      exact refreshed_absent_iff delete.absent
  · intro scope opened after children unqueued ran
    have apartChildren : ∀ child ∈ opened.children, config.rootEntity ≠ child.1 := by
      intro child member same
      rw [same] at apart
      exact apart (children child member)
    cases persisted : state.persistence with
    | none =>
      have emptied := opened_memory_empty persisted ran
      apply keeps_queued_iff
      · intro id field value edit
        rw [emptied]
        simp [fieldOf]
      · intro id delete
        rw [emptied]
        simp
    | some db =>
      have quiet : Quiet db state := ⟨calm, persisted⟩
      have held : localDb state = db := local_db_quiet quiet
      have rows : ∀ id,
          (∃ queued ∈ state.queue.getD [], queued.key = (config.rootEntity, id)) →
          rootRow config after id =
            upsertedRow config scope opened.root (localDb state) id := by
        intro id waiting
        obtain ⟨queued, waits, here⟩ := waiting
        rw [held]
        exact opened_root_row apartChildren (unqueued_elsewhere unqueued waits here) quiet ran
      apply keeps_queued_iff
      · intro id field value edit
        obtain ⟨queued, waits, here, _⟩ := edit.queued
        rw [rows id ⟨queued, waits, here⟩, upserted_field_iff edit.given edit.shown]
        simp
      · intro id delete
        obtain ⟨queued, waits, here, _⟩ := delete.queued
        rw [rows id ⟨queued, waits, here⟩, upserted_absent_iff delete.absent]
        simp

end

section

def boardNamed (id name : String) : Record := record [("id", .string id), ("name", .string name)]

def editedStore : LocalState :=
  { startState (some (createRows [("board", boardNamed "b1" "sketch")])) with
    queue := some [
      ⟨"q1", .update, "board", "b1", "b1", some (record [("name", .string "sketch")]), 1⟩,
      ⟨"q2", .delete, "board", "b2", "b2", none, 2⟩] }

def listing (roots : List Record) : Fetch := fun entity _ =>
  .ok (if entity = "board" then roots else [])

def refreshed (roots : List Record) : LocalState :=
  (syncRootEntityList boards (listing roots) none none [] editedStore).2

def fetchedRoot (root : Record) : ScopeState where
  root := root
  children := [("task", [])]
  bufferedMutations := []

def opened (scope : String) (root : Record) : LocalState :=
  (openScopeWithServer boards scope (.ok (fetchedRoot root)) editedStore).2

variable {id : String}

theorem edited_store_edit {field : String} {value : Value}
    (edit : QueuedEdit boards editedStore id field value) :
    id = "b1" ∧ field = "name" ∧ value = .string "sketch" := by
  obtain ⟨queued, member, here, updates, sets⟩ := edit.queued
  rcases List.mem_cons.mp member with first | second
  · subst first
    cases here
    have kept : ((record [("name", .string "sketch")]).lookup field).filter
        (fun value => value != .null) = some value := by
      rw [← lookup_keepValues]
      exact sets
    have named := (Option.filter_eq_some_iff.mp kept).1
    by_cases same : field = "name"
    · subst same
      refine ⟨rfl, rfl, ?_⟩
      exact (Option.some.inj (named.symm.trans (Finmap.lookup_insert _)))
    · have unset : (record [("name", .string "sketch")]).lookup field = none :=
        Finmap.lookup_insert_of_ne _ same
      rw [unset] at named
      cases named
  · rw [List.mem_singleton.mp second] at updates
    cases updates

theorem edited_store_delete (delete : QueuedDelete boards editedStore id) :
    id = "b2" := by
  obtain ⟨queued, member, here, deletes⟩ := delete.queued
  rcases List.mem_cons.mp member with first | second
  · rw [first] at deletes
    cases deletes
  · rw [List.mem_singleton.mp second] at here
    cases here
    rfl

def colouredBoard : Record := record [("id", .string "b1"), ("colour", .string "red")]

/-- The server lists b1 with a colour and no name, and it still lists b2. -/
theorem uncontested_edits_are_kept :
    KeepsQueued boards editedStore (refreshed [colouredBoard, boardNamed "b2" "plan"]) ∧
      KeepsQueued boards editedStore (opened "b1" colouredBoard) := by
  obtain ⟨list, scope⟩ := resync_keeps_queued_iff boards (by decide)
    editedStore rfl
  have present : has (localDb editedStore) (boards.rootEntity, "b1") = true := by decide
  constructor
  · apply (list (listing [colouredBoard, boardNamed "b2" "plan"]) none none []
      [colouredBoard, boardNamed "b2" "plan"] _ rfl (ended_ok (by decide))).mpr
    constructor
    · intro id field value edit
      obtain ⟨rfl, rfl, rfl⟩ := edited_store_edit edit
      have unserved : servedValue (scopedRoots none none
          [colouredBoard, boardNamed "b2" "plan"]) "b1" "name" = none := by decide
      refine ⟨rfl, .inr ?_⟩
      intro other served
      rw [unserved] at served
      cases served
    · intro id delete
      have same := edited_store_delete delete
      subst same
      exact .inl (by decide)
  · apply (scope "b1" (fetchedRoot colouredBoard) _ (by decide)
      (by intro event member; cases member) (ended_ok (by decide))).mpr
    constructor
    · intro id field value edit
      obtain ⟨rfl, rfl, rfl⟩ := edited_store_edit edit
      have unserved : (upsertFields colouredBoard "b1").lookup "name" = none := by decide
      refine ⟨rfl, ?_⟩
      intro _
      rw [if_pos present]
      intro _ other served
      cases unserved.symm.trans served
    · intro id delete _ _ absent
      rw [present] at absent
      cases absent

/-- The server still has the old name of b1, and b2. A refresh and an open both put the old name
back over the queued rename, and an open of b2 brings the deleted board back. -/
theorem resync_undoes_queued_edits :
    QueuedEdit boards editedStore "b1" "name" (.string "sketch") ∧
      QueuedDelete boards editedStore "b2" ∧
      syncRootEntityList boards (listing [boardNamed "b1" "plan"]) none none []
        editedStore = (.ok (), refreshed [boardNamed "b1" "plan"]) ∧
      ¬ KeepsQueued boards editedStore (refreshed [boardNamed "b1" "plan"]) ∧
      openScopeWithServer boards "b1" (.ok (fetchedRoot (boardNamed "b1" "plan")))
        editedStore = (.ok (), opened "b1" (boardNamed "b1" "plan")) ∧
      ¬ KeepsQueued boards editedStore (opened "b1" (boardNamed "b1" "plan")) ∧
      openScopeWithServer boards "b2" (.ok (fetchedRoot (boardNamed "b2" "plan")))
        editedStore = (.ok (), opened "b2" (boardNamed "b2" "plan")) ∧
      ¬ KeepsQueued boards editedStore (opened "b2" (boardNamed "b2" "plan")) := by
  have edit : QueuedEdit boards editedStore "b1" "name" (.string "sketch") :=
    ⟨by decide, by decide, by decide, rfl⟩
  have delete : QueuedDelete boards editedStore "b2" := ⟨by decide, by decide⟩
  refine ⟨edit, delete, ended_ok (by decide), ?_, ended_ok (by decide), ?_,
    ended_ok (by decide), ?_⟩
  · intro kept
    exact absurd (kept.edits _ _ _ edit) (by decide)
  · intro kept
    exact absurd (kept.edits _ _ _ edit) (by decide)
  · intro kept
    exact absurd (kept.deletes _ delete) (by decide)

end

end Stitch.Client.RootResync
