import Stitch.Client.PendingReplay
import Stitch.Client.RootList

/-!
# How much of the server's record a local row takes over

A fetched record of a row that is not local is created as it is, without its nulls. A row that
is local is updated instead: the record is laid over the old row.
-/

namespace Stitch.Client.ServerAdoption

open Foundation.FiniteMap Foundation.FallibleState Mutations Consolidation LocalRows ScopeSync
open EventReplay ReconciledRows PendingReplay RootList
open ReconcileFrame (has_pending_iff storeWith)
open ScopeReplacement (boards record)

section

variable [Database] {server old : Record} {row : Option Record}

/-- The server's record laid over the old row, as far as the fields are given; it is that record
alone exactly when the old row had no other such field. -/
def Adopted (server old : Record) (row : Option Record) : Prop :=
  row.map kept = some (kept (server ∪ old)) ∧
    (row.map kept = some (kept server) ↔
      ∀ field, Database.own field = false → field ∈ old → field ∈ server)

theorem adopted_of_eq (same : row.map kept = some (kept (server ∪ old))) :
    Adopted server old row := by
  refine ⟨same, ?_⟩
  rw [same, Option.some.injEq, kept_eq_iff]
  refine forall_congr' fun field => forall_congr' fun _ => ?_
  rw [lookup_union, ← Finmap.lookup_isSome, ← Finmap.lookup_isSome]
  cases server.lookup field with
  | some value => simp
  | none =>
    cases old.lookup field with
    | none | some value => simp

variable {config : StoreConfig} {persisted : Bool} {scope entity : String} {records : List Record}
  {pending : List StoredRow} {db : Db}

def heldInScope (config : StoreConfig) (scope entity : String) (db : Db) (id : String) : Record :=
  if id ∈ localIds config scope entity db then (db.rows.lookup (entity, id)).getD ∅ else ∅

variable {id : String}

/-- Queued writes of other rows leave a row that is there alone: they carry another id or get
one that no row has. -/
theorem queued_creates_keep (named : config.scopeField ≠ "id")
    (fresh : ∀ rows : Db, rows.rows.lookup (entity, Database.newId rows) = none) {listed known : List String}
    {queue : List StoredRow} {rows : Db} (ownRow : NamesOwnRow queue)
    (free : ∀ queued ∈ queue, queued.entityId ≠ id) (present : has rows (entity, id) = true) :
    ((queue.filterMap (pendingPut entity listed known)).foldl (putRow config persisted)
        rows).rows.lookup (entity, id) = rows.rows.lookup (entity, id) := by
  induction queue generalizing rows with
  | nil => rfl
  | cons queued rest ih =>
    have later : NamesOwnRow rest := fun other member =>
      ownRow other (List.mem_cons_of_mem queued member)
    have others : ∀ other ∈ rest, other.entityId ≠ id := fun other member =>
      free other (List.mem_cons_of_mem queued member)
    rw [List.filterMap_cons]
    cases made : pendingPut entity listed known queued with
    | none => exact ih later others present
    | some put =>
      obtain ⟨_, _, _, data, carries, same⟩ := pending_put_some made
      have away : (putRow config persisted rows put).rows.lookup (entity, id) =
          rows.rows.lookup (entity, id) := by
        rw [same]
        rcases ownRow queued List.mem_cons_self data carries with bare | identified
        · rw [putRow, Db.create, stored_form_without_id named bare, Option.getD_none]
          apply Db.lookup_put_other
          intro same
          have absent := fresh rows
          rw [← same] at absent
          rw [has, absent] at present
          cases present
        · have target : putTarget (.tryCreate entity data) =
              some (entity, queued.entityId) := by
            rw [putTarget, identified]
            rfl
          rw [lookup_put_row target, if_neg]
          intro same
          exact free queued List.mem_cons_self (Prod.mk.inj same).2.symm
      rw [List.foldl_cons, ih later others (by rw [has, away]; exact present), away]

/-- A listed row without queued mutations is the record laid over the local row of the scope. -/
theorem reconciled_listed_row (named : config.scopeField ≠ "id")
    (fresh : ∀ rows : Db, rows.rows.lookup (entity, Database.newId rows) = none)
    (distinct : (serverIds records).Nodup) (ownRow : NamesOwnRow pending) {record : Record}
    (member : record ∈ records) (identified : recordId record = some id)
    (free : ∀ queued ∈ pending, queued.entityId ≠ id) :
    (reconciled config persisted scope entity records pending db).seen (entity, id) =
      some (kept (cleanedRecord config scope record ∪
        heldInScope config scope entity db id)) := by
  have listed : id ∈ serverIds records := mem_server_ids.mpr ⟨record, member, identified⟩
  have unedited : ¬ (hasPending pending .delete id || hasPending pending .update id) = true := by
    rw [Bool.or_eq_true, has_pending_iff, has_pending_iff]
    intro edited
    rcases edited with ⟨queued, waits, here, _⟩ | ⟨queued, waits, here, _⟩
    · exact free queued waits here
    · exact free queued waits here
  -- the first pass
  have settled : ∀ put ∈ records.filterMap (serverPut config scope entity
      (localIds config scope entity db) pending), (putTarget put).isSome = true := by
    intro put planned
    obtain ⟨server, _, made⟩ := List.mem_filterMap.mp planned
    obtain ⟨other, named, _⟩ := server_put_some made
    rw [server_put_target named made]
    rfl
  have served : ((records.filterMap (serverPut config scope entity
      (localIds config scope entity db) pending)).foldl (putRow config persisted)
        db).seen (entity, id) =
      some (kept (cleanedRecord config scope record ∪
        heldInScope config scope entity db id)) := by
    rw [Db.seen, lookup_put_rows settled, server_pass_row, afterServer, if_neg unedited,
      filter_label_eq_singleton distinct member identified, List.foldl_cons, List.foldl_nil,
      adopt, heldInScope]
    by_cases known : id ∈ localIds config scope entity db
    · obtain ⟨row, held, _⟩ := mem_local_ids.mp known
      rw [if_pos known, if_pos known, held]
      exact congrArg some (kept_updated _ row)
    · rw [if_neg known, if_neg known, Finmap.union_empty]
      exact congrArg some (kept_created _)
  have present := Option.map_eq_some_iff.mp served
  have spared : id ∉ planDeletes config scope entity records pending db := by
    intro deleted
    exact (of_decide_eq_true (List.mem_filter.mp deleted).2).1 listed
  rw [Db.seen, reconciled, plan_parts, planWrites, List.foldl_append, List.foldl_append,
    lookup_put_rows (by
      intro put planned
      obtain ⟨other, _, made⟩ := List.mem_map.mp planned
      rw [← made]
      rfl), delete_pass_row, if_neg spared,
    queued_creates_keep named fresh ownRow free (by
      obtain ⟨row, held, _⟩ := present
      rw [has, held]
      rfl), ← Db.seen, served]

variable {fetch : Fetch} {state after : LocalState}

theorem refreshed_listed_root {user : Option String} {others : List StoredRow}
    {roots : List Record} (distinct : (serverIds roots).Nodup) {root : Record} {id : String}
    (member : root ∈ roots) (identified : recordId root = some id)
    (free : ∀ queued ∈ state.queue.getD [], queued.entity = config.rootEntity →
      queued.scopeId ≠ id) :
    (refreshedRoot config user others roots state id).map kept =
      some (kept (stripNulls root ∪ (rootRow config state id).getD ∅)) := by
  have listed : roots.any (fun other => recordId other = some id) = true :=
    List.any_eq_true.mpr ⟨root, member, decide_eq_true identified⟩
  have undeleted : deletesRoot config state.queue id = false := by
    cases queue : state.queue with
    | none => rfl
    | some rows =>
      rw [queue] at free
      change hasPendingRootDelete config rows id = false
      rw [hasPendingRootDelete, List.any_eq_false]
      intro queued waits
      simp only [Bool.and_eq_true, beq_iff_eq, not_and]
      intro here _ ofRoot
      exact free queued waits ofRoot here
  rw [refreshedRoot, undeleted, dropsRoot, listed, Bool.true_or, Bool.not_true, Bool.and_false]
  simp only [Bool.false_eq_true, if_false]
  rw [filter_label_eq_singleton distinct member identified, List.foldl_cons, List.foldl_nil,
    adoptRoot, Option.map_some]
  cases rootRow config state id with
  | some held => exact congrArg some (kept_updated _ held)
  | none =>
    rw [Option.getD_none, Finmap.union_empty]
    exact congrArg some (kept_created _)

/-- The server's record without its nulls ends up in the local row over what the row had before
in that scope, in a reconcile of children and in a refresh of the roots. -/
theorem reconcile_lays_server_row_over_local (config : StoreConfig)
    (named : config.scopeField ≠ "id")
    (fresh : ∀ entity (rows : Db), rows.rows.lookup (entity, Database.newId rows) = none) :
    (∀ (scope entity : String) (records : List Record) (state : LocalState) (record : Record)
      (id : String), state.faults = [] → (serverIds records).Nodup →
      NamesOwnRow (pendingFor (state.queue.getD []) scope entity) →
      record ∈ records → recordId record = some id →
      (∀ queued ∈ pendingFor (state.queue.getD []) scope entity, queued.entityId ≠ id) →
        Adopted (cleanedRecord config scope record)
          (heldInScope config scope entity (localDb state) id)
          ((localDb (reconcileChildren config scope entity records state).2).rows.lookup
            (entity, id))) ∧
    (config.rootEntity ∉ config.childEntities →
      ∀ (fetch : Fetch) (userScopeField user : Option String) (others : List StoredRow)
        (state after : LocalState) (fetched : List Record) (root : Record) (id : String),
      state.faults = [] → fetch config.rootEntity none = .ok fetched →
      syncRootEntityList config fetch userScopeField user others state = (.ok (), after) →
      (serverIds (scopedRoots userScopeField user fetched)).Nodup →
      root ∈ scopedRoots userScopeField user fetched → recordId root = some id →
      (∀ queued ∈ state.queue.getD [], queued.entity = config.rootEntity →
        queued.scopeId ≠ id) →
        Adopted (stripNulls root) ((rootRow config state id).getD ∅)
          (rootRow config after id)) := by
  constructor
  · intro scope entity records state record id calm distinct ownRow member identified free
    apply adopted_of_eq
    rw [reconcile_children_calm calm]
    dsimp only
    rw [local_db_store_local]
    exact reconciled_listed_row named (fresh entity) distinct ownRow member identified free
  · intro apart fetch userScopeField user others state after fetched root id calm listed ran
      distinct member identified free
    apply adopted_of_eq
    rw [(sync_root_entity_list_rows apart calm listed ran).row]
    exact refreshed_listed_root distinct member identified free

end

section

def notedTask : Record :=
  record [("id", .string "t1"), ("boardId", .string "b1"), ("title", .string "old"),
    ("note", .string "ask"), ("due", .string "monday")]

def servedTask : Record :=
  record [("id", .string "t1"), ("title", .string "new"), ("due", .null)]

def colouredBoard : Record :=
  record [("id", .string "b1"), ("name", .string "plan"), ("colour", .string "red")]

def servedBoard : Record :=
  record [("id", .string "b1"), ("name", .string "road map"), ("colour", .null)]

def notedStore : LocalState :=
  storeWith [("task", notedTask), ("board", colouredBoard)] []

def boardServer : Fetch := fun entity _ => .ok (if entity = "board" then [servedBoard] else [])

def refreshedStore : LocalState :=
  (syncRootEntityList boards boardServer none none [] notedStore).2

theorem new_id_unheld (entity : String) (rows : Db) :
    rows.rows.lookup (entity, Database.newId rows) = none :=
  (@long_id_fresh entity [] [] (by decide) (by decide) rows).1

theorem refreshed_store_ended :
    syncRootEntityList boards boardServer none none [] notedStore =
      (.ok (), refreshedStore) :=
  ended_ok (by decide)

theorem noted_store_adopts :
    Adopted (cleanedRecord boards "b1" servedTask) (Database.created notedTask)
        ((localDb (reconcileChildren boards "b1" "task" [servedTask]
          notedStore).2).rows.lookup ("task", "t1")) ∧
      Adopted (stripNulls servedBoard) (Database.created colouredBoard)
        (rootRow boards refreshedStore "b1") := by
  obtain ⟨children, roots⟩ := reconcile_lays_server_row_over_local boards (by decide)
    new_id_unheld
  have task := children "b1" "task" [servedTask] notedStore servedTask "t1" rfl
    (by decide) (by intro queued member; cases member) (List.mem_singleton.mpr rfl)
    (by decide) (by intro queued member; cases member)
  have board := roots (by decide) boardServer none none [] notedStore refreshedStore [servedBoard]
    servedBoard "b1" rfl rfl refreshed_store_ended (by decide)
    (List.mem_singleton.mpr rfl) (by decide) (by intro queued member; cases member)
  have oldTask : heldInScope boards "b1" "task" (localDb notedStore) "t1" =
      Database.created notedTask := by decide
  have oldBoard : (rootRow boards notedStore "b1").getD ∅ = Database.created colouredBoard := by
    decide
  rw [oldTask] at task
  rw [oldBoard] at board
  exact ⟨task, board⟩

/-- A field the server removed and fields it set to null are still there locally. -/
theorem removed_and_null_fields_stay :
    (localDb (reconcileChildren boards "b1" "task" [servedTask] notedStore).2).seen
        ("task", "t1") =
      some (record [("id", .string "t1"), ("boardId", .string "b1"), ("title", .string "new"),
        ("note", .string "ask"), ("due", .string "monday")]) ∧
      (rootRow boards refreshedStore "b1").map kept =
        some (record [("id", .string "b1"), ("name", .string "road map"),
          ("colour", .string "red")]) ∧
      (cleanedRecord boards "b1" servedTask).lookup "note" = none ∧
      (cleanedRecord boards "b1" servedTask).lookup "due" = none ∧
      (stripNulls servedBoard).lookup "colour" = none := by
  decide

end

end Stitch.Client.ServerAdoption
