import Stitch.Client.WritePath
import Stitch.Client.ReconciledRows

/-!
# Refreshing the list of root rows

After a reconnect `sync_root_entity_list` fetches the root rows of the server, drops local root
rows that are not among them, writes each fetched root over its local row and reconciles the
children of each.
-/

namespace Stitch.Client.RootList

open Foundation.FiniteMap Foundation.FallibleState Mutations Consolidation LocalRows ScopeSync
open EventReplay ReconciledRows
open WritePath (hasPendingInsert)

/-- What the server answers to `fetch_list` for an entity and an optional scope. -/
abbrev Fetch := String → Option String → Except Error (List Record)

section

variable [Database] (config : StoreConfig) (fetch : Fetch)
  (userScopeField user : Option String)

def scopedRoots (records : List Record) : List Record :=
  match user, userScopeField with
  | some user, some field =>
    records.filter (fun record => (record.lookup field).bind Value.asStr = some user)
  | _, _ => records

/-- `has_pending_insert` also sees the rows other users have queued on this device. -/
def askPendingInsert (others : List StoredRow) (entity id : String) : StoreM Bool := do
  match ← inspect LocalState.queue with
  | none => pure false
  | some rows => do
    dbCall
    pure (hasPendingInsert (rows ++ others) (entity, id))

def hasPendingRootDelete (rows : List StoredRow) (id : String) : Bool :=
  rows.any (fun row => row.scopeId == id && (row.op == .delete && row.entity == config.rootEntity))

def askPendingRootDelete (id : String) : StoreM Bool := do
  match ← inspect LocalState.queue with
  | none => pure false
  | some rows => do
    dbCall
    pure (hasPendingRootDelete config rows id)

/-- A local root that the server does not list for the user is dropped unless its insert is
still queued. -/
def dropUnlisted (others : List StoredRow) (roots : List Record) (row : Record) : StoreM Unit :=
  match recordId row with
  | none => pure ()
  | some id =>
    if user.isNone then pure ()
    else if roots.any (fun root => recordId root = some id) then pure ()
    else do
      if ← askPendingInsert others config.rootEntity id then pure ()
      else accessorDelete config.rootEntity id

def syncChild (id child : String) : StoreM Unit := do
  let records ← settle (fetch child (some id))
  reconcileChildren config id child records

def writeRoot (id : String) (root : Record) : StoreM Unit := do
  let existing ← accessorRead config.rootEntity id
  if existing.isSome then accessorUpdate config.rootEntity id root
  else accessorCreate config config.rootEntity root

def syncRoot (root : Record) : StoreM Unit :=
  match recordId root with
  | none => pure ()
  | some id => do
    if ← askPendingRootDelete config id then pure ()
    else do
      writeRoot config id root
      each (syncChild config fetch id) config.childEntities

def syncRootEntityList (others : List StoredRow) : StoreM Unit := do
  let fetched ← settle (fetch config.rootEntity none)
  let localRows ← accessorList config config.rootEntity ""
  each (dropUnlisted config user others (scopedRoots userScopeField user fetched)) localRows
  each (syncRoot config fetch) (scopedRoots userScopeField user fetched)

variable {config} {fetch} {state after : LocalState}

/-- The calls ended with the rows rewritten and nothing else touched; at the root rows they
are as given. -/
def Rewrites (config : StoreConfig) (roots : String → Option Record) (state after : LocalState) :
    Prop :=
  ∃ db, after = storeLocal db state ∧
    ∀ id, db.rows.lookup (config.rootEntity, id) = roots id

def rootRow (config : StoreConfig) (state : LocalState) (id : String) : Option Record :=
  (localDb state).rows.lookup (config.rootEntity, id)

theorem Rewrites.calm {roots : String → Option Record}
    (rewrites : Rewrites config roots state after)
    (calm : state.faults = []) : after.faults = [] := by
  obtain ⟨db, same, _⟩ := rewrites
  rw [same, store_local_faults]
  exact calm

theorem Rewrites.queue {roots : String → Option Record}
    (rewrites : Rewrites config roots state after) :
    after.queue = state.queue := by
  obtain ⟨db, same, _⟩ := rewrites
  rw [same, store_local_queue]

theorem Rewrites.row {roots : String → Option Record} (rewrites : Rewrites config roots state after)
    (id : String) : rootRow config after id = roots id := by
  obtain ⟨db, same, rows⟩ := rewrites
  rw [rootRow, same, local_db_store_local]
  exact rows id

variable {first second : String → Option Record}

theorem Rewrites.trans {middle : LocalState} (left : Rewrites config first state middle)
    (right : Rewrites config second middle after) :
    Rewrites config second state after := by
  obtain ⟨db, same, _⟩ := left
  obtain ⟨later, reached, rows⟩ := right
  refine ⟨later, ?_, rows⟩
  rw [reached, same, store_local_twice]

theorem Rewrites.congr (rewrites : Rewrites config first state after)
    (same : ∀ id, first id = second id) :
    Rewrites config second state after := by
  obtain ⟨db, reached, rows⟩ := rewrites
  exact ⟨db, reached, fun id => (rows id).trans (same id)⟩

theorem rewrites_same : Rewrites config (rootRow config state) state state :=
  ⟨localDb state, (store_local_same state).symm, fun _ => rfl⟩

theorem rewrites_each {Item : Type} {program : Item → StoreM Unit} {items : List Item}
    (kept : ∀ item ∈ items, ∀ start reached, start.faults = [] →
      program item start = (.ok (), reached) →
        Rewrites config (rootRow config start) start reached)
    (calm : state.faults = []) (ran : each program items state = (.ok (), after)) :
    Rewrites config (rootRow config state) state after := by
  induction items generalizing state with
  | nil =>
    cases ran
    exact rewrites_same
  | cons item rest ih =>
    obtain ⟨_, middle, first, later⟩ := bind_ok_iff.mp ran
    have step := kept item List.mem_cons_self state middle calm first
    have next := ih (fun other member => kept other (List.mem_cons_of_mem item member))
      (step.calm calm) later
    have carried : rootRow config middle = rootRow config state := funext step.row
    rw [carried] at next
    exact step.trans next

theorem reconcile_children_rows {scope entity : String} {records : List Record}
    (other : config.rootEntity ≠ entity) (calm : state.faults = [])
    (ran : reconcileChildren config scope entity records state = (.ok (), after)) :
    Rewrites config (rootRow config state) state after := by
  rw [reconcile_children_calm calm] at ran
  refine ⟨_, (Prod.mk.inj ran).2.symm, ?_⟩
  intro root
  exact reconciled_other_entity other

variable {id : String} {others : List StoredRow} {roots : List Record} {row : Record}

theorem sync_children_rows {children : List String} (apart : config.rootEntity ∉ children)
    (calm : state.faults = [])
    (ran : each (syncChild config fetch id) children state = (.ok (), after)) :
    Rewrites config (rootRow config state) state after := by
  refine rewrites_each ?_ calm ran
  intro child member start reached quiet synced
  obtain ⟨records, unchanged, fetched, reconciles⟩ := bind_ok_iff.mp synced
  have started : start = unchanged := (Prod.mk.inj fetched).2
  subst started
  apply reconcile_children_rows _ quiet reconciles
  intro here
  rw [here] at apart
  exact apart member

def dropsRoot (config : StoreConfig) (user : Option String) (others : List StoredRow)
    (roots : List Record) (queue : Option (List StoredRow)) (id : String) : Bool :=
  user.isSome && !(roots.any (fun root => recordId root = some id) ||
    queue.elim false (fun rows => hasPendingInsert (rows ++ others) (config.rootEntity, id)))

omit [Database] in
theorem ask_pending_insert_calm (calm : state.faults = []) (others : List StoredRow)
    (entity id : String) :
    askPendingInsert others entity id state =
      (.ok (state.queue.elim false (fun rows => hasPendingInsert (rows ++ others) (entity, id))),
        state) := by
  rw [askPendingInsert, bind_inspect]
  cases state.queue with
  | none => rfl
  | some rows => exact bind_of_ok (db_call_calm calm)

def deletesRoot (config : StoreConfig) (queue : Option (List StoredRow)) (id : String) : Bool :=
  queue.elim false (fun rows => hasPendingRootDelete config rows id)

theorem ask_pending_root_delete_calm (calm : state.faults = []) (id : String) :
    askPendingRootDelete config id state = (.ok (deletesRoot config state.queue id), state) := by
  rw [askPendingRootDelete, bind_inspect, deletesRoot]
  cases state.queue with
  | none => rfl
  | some rows => exact bind_of_ok (db_call_calm calm)

variable {user : Option String}

theorem drop_unlisted_calm (identified : recordId row = some id) (calm : state.faults = []) :
    dropUnlisted config user others roots row state =
      if dropsRoot config user others roots state.queue id then
        accessorDelete config.rootEntity id state
      else (.ok (), state) := by
  rw [dropUnlisted, identified, dropsRoot]
  cases user with
  | none => rfl
  | some name =>
    dsimp only
    cases roots.any (fun root => recordId root = some id) with
    | true => rfl
    | false =>
      rw [if_neg Bool.false_ne_true, Option.isNone_some, if_neg Bool.false_ne_true,
        bind_of_ok (ask_pending_insert_calm calm others config.rootEntity id)]
      cases state.queue.elim false
          (fun rows => hasPendingInsert (rows ++ others) (config.rootEntity, id)) with
      | true | false => rfl

theorem drop_unlisted_rows (identified : recordId row = some id) (calm : state.faults = [])
    (ran : dropUnlisted config user others roots row state = (.ok (), after)) :
    Rewrites config (fun root => if root = id ∧ dropsRoot config user others roots state.queue id
      then none else rootRow config state root) state after := by
  rw [drop_unlisted_calm identified calm] at ran
  cases drops : dropsRoot config user others roots state.queue id with
  | false =>
    rw [drops, if_neg Bool.false_ne_true] at ran
    cases ran
    simp only [Bool.false_eq_true, and_false, if_false]
    exact rewrites_same
  | true =>
    rw [drops, if_pos rfl, accessor_delete_calm calm] at ran
    refine ⟨_, (Prod.mk.inj ran).2.symm, ?_⟩
    intro root
    rw [Db.lookup_deleted]
    simp only [Prod.mk.injEq, true_and, and_true]
    rfl

theorem drop_all_rows {rows : List Record} (calm : state.faults = [])
    (ran : each (dropUnlisted config user others roots) rows state = (.ok (), after)) :
    Rewrites config (fun root => if (∃ row ∈ rows, recordId row = some root) ∧
      dropsRoot config user others roots state.queue root then none
        else rootRow config state root) state after := by
  induction rows generalizing state with
  | nil =>
    cases ran
    exact rewrites_same
  | cons row rest ih =>
    obtain ⟨_, middle, first, later⟩ := bind_ok_iff.mp ran
    cases identified : recordId row with
    | none =>
      have same : state = middle := by
        rw [dropUnlisted, identified] at first
        exact (Prod.mk.inj first).2
      subst same
      simp only [List.mem_cons, exists_eq_or_imp, identified, reduceCtorEq, false_or]
      exact ih calm later
    | some id =>
      have step := drop_unlisted_rows identified calm first
      have next := ih (step.calm calm) later
      have carried := funext step.row
      rw [carried, step.queue] at next
      apply (step.trans next).congr
      intro root
      simp only [List.mem_cons, exists_eq_or_imp, identified, Option.some.injEq]
      by_cases here : root = id
      · subst here
        cases dropsRoot config user others roots state.queue root with
        | true | false => simp
      · simp [here, Ne.symm here]

/-- What writing a fetched root leaves of its row. -/
def adoptRoot (row : Option Record) (root : Record) : Option Record :=
  some (row.elim (Database.created (stripNulls root)) (Database.updated (stripNulls root)))

theorem rewrites_put {put : Put} {id : String} {row : Option Record}
    (target : putTarget put = some (config.rootEntity, id))
    (changes : putChange config state.persistence.isSome id put (rootRow config state id) = row) :
    Rewrites config (fun other => if other = id then row else rootRow config state other) state
      (storeLocal (putRow config state.persistence.isSome (localDb state) put) state) := by
  refine ⟨_, rfl, ?_⟩
  intro other
  rw [lookup_put_row target]
  dsimp only
  by_cases here : other = id
  · subst here
    rw [if_pos rfl, if_pos rfl]
    exact changes
  · rw [if_neg here, if_neg (by simpa using here)]
    rfl

theorem write_root_calm {id : String} {root : Record} (identified : recordId root = some id)
    (calm : state.faults = []) :
    (writeRoot config id root state).1 = .ok () ∧
      Rewrites config (fun other => if other = id then adoptRoot (rootRow config state id) root
        else rootRow config state other) state (writeRoot config id root state).2 := by
  have named : (stripNulls root).lookup "id" = some (.string id) :=
    strip_nulls_lookup (lookup_record_id identified) (by simp)
  rw [writeRoot, bind_of_ok (accessor_read_calm calm config.rootEntity id)]
  cases held : (localDb state).rows.lookup (config.rootEntity, id) with
  | some row =>
    have present : has (localDb state) (config.rootEntity, id) = true := by
      rw [has, held]
      rfl
    have updated := @run_put_calm _ config state calm (.update config.rootEntity id root) (by
      intro entity other fields same
      cases same
      exact present)
    rw [runPut] at updated
    rw [Option.isSome_some, if_pos rfl, updated]
    refine ⟨rfl, @rewrites_put _ _ _ (.update config.rootEntity id root) _ _ rfl ?_⟩
    rw [putChange, rootRow, held, Option.map_some, adoptRoot, Option.elim_some]
    apply congrArg some
    apply insert_of_lookup
    rw [Database.updated_lookup _ _ _ Database.id_kept, lookup_union, named, Option.some_or]
  | none =>
    rw [Option.isSome_none, if_neg Bool.false_ne_true, accessor_create_calm calm]
    refine ⟨rfl, @rewrites_put _ _ _ (.create config.rootEntity root) _ _ ?_ ?_⟩
    · rw [putTarget, identified]
      rfl
    · rw [putChange, stored_form_root, rootRow, held, adoptRoot, Option.elim_none, insert_of_lookup]
      rw [Database.created_lookup _ _ Database.id_kept, named]

theorem sync_root_rows (apart : config.rootEntity ∉ config.childEntities) {root : Record}
    (identified : recordId root = some id) (calm : state.faults = [])
    (ran : syncRoot config fetch root state = (.ok (), after)) :
    Rewrites config (fun other => if other = id ∧ deletesRoot config state.queue id = false then
      adoptRoot (rootRow config state id) root else rootRow config state other) state after := by
  rw [syncRoot, identified] at ran
  dsimp only at ran
  rw [bind_of_ok (ask_pending_root_delete_calm calm id)] at ran
  cases deletes : deletesRoot config state.queue id with
  | true =>
    rw [deletes, if_pos rfl] at ran
    cases ran
    simp only [Bool.true_eq_false, and_false, if_false]
    exact rewrites_same
  | false =>
    rw [deletes, if_neg Bool.false_ne_true] at ran
    obtain ⟨_, middle, wrote, later⟩ := bind_ok_iff.mp ran
    have first := (@write_root_calm _ config state id root identified calm).2
    rw [wrote] at first
    have children := sync_children_rows apart (first.calm calm) later
    have carried := funext first.row
    rw [carried] at children
    simp only [and_true]
    exact first.trans children

/-- The second pass writes the fetched roots over their rows, in order, except those whose
delete is queued. -/
theorem sync_all_rows (apart : config.rootEntity ∉ config.childEntities) (calm : state.faults = [])
    (ran : each (syncRoot config fetch) roots state = (.ok (), after)) :
    Rewrites config (fun id => if deletesRoot config state.queue id then rootRow config state id
      else (roots.filter (fun root => recordId root = some id)).foldl adoptRoot
        (rootRow config state id)) state after := by
  induction roots generalizing state with
  | nil =>
    cases ran
    apply rewrites_same.congr
    intro id
    simp
  | cons root rest ih =>
    obtain ⟨_, middle, first, later⟩ := bind_ok_iff.mp ran
    cases identified : recordId root with
    | none =>
      have same : state = middle := by
        rw [syncRoot, identified] at first
        exact (Prod.mk.inj first).2
      subst same
      apply (ih calm later).congr
      intro id
      simp [identified]
    | some named =>
      have step := sync_root_rows apart identified calm first
      have next := ih (step.calm calm) later
      have carried := funext step.row
      rw [carried, step.queue] at next
      apply (step.trans next).congr
      intro id
      by_cases here : id = named
      · subst here
        cases deletesRoot config state.queue id with
        | true => simp
        | false => simp [identified]
      · simp [identified, here, Ne.symm here]

def refreshedRoot (config : StoreConfig) (user : Option String) (others : List StoredRow)
    (roots : List Record) (state : LocalState) (id : String) : Option Record :=
  let kept := if dropsRoot config user others roots state.queue id then none
    else rootRow config state id
  if deletesRoot config state.queue id then kept
  else (roots.filter (fun root => recordId root = some id)).foldl adoptRoot kept

theorem sync_root_entity_list_rows {userScopeField user : Option String} {fetched : List Record}
    (apart : config.rootEntity ∉ config.childEntities) (calm : state.faults = [])
    (listed : fetch config.rootEntity none = .ok fetched)
    (ran : syncRootEntityList config fetch userScopeField user others state =
      (.ok (), after)) :
    Rewrites config (refreshedRoot config user others (scopedRoots userScopeField user fetched)
      state) state after := by
  obtain ⟨answer, start, settled, first⟩ := bind_ok_iff.mp ran
  have here : state = start := (Prod.mk.inj settled).2
  subst here
  have answered : answer = fetched := by
    rw [settle, listed] at settled
    exact (Except.ok.inj (Prod.mk.inj settled).1).symm
  subst answered
  rw [bind_of_ok (accessor_list_calm calm config.rootEntity "")] at first
  obtain ⟨_, middle, dropped, synced⟩ := bind_ok_iff.mp first
  have drops := drop_all_rows calm dropped
  have syncs := sync_all_rows apart (drops.calm calm) synced
  have carried := funext drops.row
  rw [carried, drops.queue] at syncs
  apply (drops.trans syncs).congr
  intro id
  -- the first pass goes over all root rows, so a row it does not meet is not there
  have met : (∃ row ∈ (localDb state).list config.rootEntity
      (inScope config config.rootEntity ""), recordId row = some id) ↔
        (rootRow config state id).isSome = true := by
    constructor
    · intro found
      obtain ⟨row, member, identified⟩ := found
      obtain ⟨⟨other, held⟩, _⟩ := Db.mem_list.mp member
      have same : other = id := by
        rw [Db.record_id_of_lookup held] at identified
        exact Option.some.inj identified
      rw [rootRow, ← same, held]
      rfl
    · intro present
      obtain ⟨row, held⟩ := Option.isSome_iff_exists.mp present
      refine ⟨row, Db.mem_list.mpr ⟨⟨id, held⟩, ?_⟩, Db.record_id_of_lookup held⟩
      simp [inScope, isScoped]
  have kept : (if (∃ row ∈ (localDb state).list config.rootEntity
      (inScope config config.rootEntity ""), recordId row = some id) ∧
        dropsRoot config user others (scopedRoots userScopeField user answer) state.queue id then
          none else rootRow config state id) =
      if dropsRoot config user others (scopedRoots userScopeField user answer) state.queue id then
        none else rootRow config state id := by
    simp only [met]
    cases rootRow config state id with
    | none | some row => simp
  dsimp only
  rw [kept, refreshedRoot]

end

end Stitch.Client.RootList
