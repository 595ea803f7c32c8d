import Stitch.Client.MemoryMirror
import Stitch.Client.ReconciledRows

/-!
# Opening a scope while its events arrive

`open_scope` installs a buffer for the scope before it subscribes, fetches the snapshot, takes
the buffer out and only then stops awaiting the scope. A run interleaves the tasks of one open
with the delivery and the handling of events.
-/

namespace Stitch.Client.ScopeOpening

open Foundation.FallibleState Foundation.GuardedRuns Mutations Consolidation
open LocalRows ScopeSync EventReplay
open ReconciledRows (reconcile_puts_calm server_put_of_id server_put_some cleaned_id)
open ScopeReplacement (boards boardRow taskRow startState reload_scope_loads)
open MemoryMirror

structure Snapshot where
  root : Record
  children : List (String × List Record)
  deriving DecidableEq

/-- What is left to do of `open_scope_with_server` once the snapshot is there. -/
inductive Task where
  | upsertRoot (root : Record)
  | reconcile (entity : String) (records : List Record)
  | put (put : Put)
  | replay (mutation : SyncMutation)
  | reload
  deriving DecidableEq

def Task.isReconcile : Task → Bool
  | .replay _ => false
  | .reload => false
  | _ => true

inductive Phase where
  | fetching
  | fetched
  | drained (tasks : List Task)
  | working (tasks : List Task)
  | finished
  | failed
  deriving DecidableEq

structure Opening where
  store : LocalState
  phase : Phase
  awaiting : Bool
  buffered : Option (List SyncMutation)
  /-- Sent to the mutation loop and not yet handled. -/
  bus : List SyncMutation
  /-- For specification: every event delivered since the subscription, oldest first. -/
  delivered : List SyncMutation
  snapshot : Snapshot
  /-- For specification: the accessor's rows after the last write of the reconcile. -/
  base : Db
  deriving DecidableEq

/-- `replace_scope` makes the scope the current one before it opens it. -/
def Opening.start (scope : String) (store : LocalState) : Opening where
  store := { store with faults := [], currentScope := some scope }
  phase := .fetching
  awaiting := true
  buffered := some []
  bus := []
  delivered := []
  snapshot := { root := ∅, children := [] }
  base := Db.empty

inductive Action where
  | fetch (snapshot : Snapshot)
  | fetchFails
  | drain
  | release
  | work
  | deliver (own : Bool) (event : SyncMutation)
  | handle
  deriving DecidableEq

section

variable [Database] (config : StoreConfig) (scope : String)

def openTasks (snapshot : Snapshot) (buffered : List SyncMutation) : List Task :=
  .upsertRoot snapshot.root ::
    snapshot.children.map (fun child => .reconcile child.1 child.2) ++
    buffered.map .replay ++ [.reload]

/-- Run one task; a reconcile is planned in one go and its writes are tasks of their own. -/
def runTask : Task → StoreM (List Task)
  | .upsertRoot root => do
    upsertRoot config scope root
    pure []
  | .reconcile entity records => do
    let puts ← reconcilePuts config scope entity records
    pure (puts.map .put)
  | .put put => do
    runPut config put
    pure []
  | .replay mutation => do
    replayMutation config mutation
    pure []
  | .reload => do
    reloadScope config scope
    pure []

/-- One list of records for each child entity. -/
def FetchesChildren (snapshot : Snapshot) : Prop :=
  (snapshot.children.map Prod.fst).Nodup ∧
    (∀ child ∈ snapshot.children, child.1 ∈ config.childEntities) ∧
    ∀ entity ∈ config.childEntities, entity ∈ snapshot.children.map Prod.fst

instance (snapshot : Snapshot) : Decidable (FetchesChildren config snapshot) :=
  inferInstanceAs (Decidable (_ ∧ _ ∧ _))

def afterTask (state : Opening) (task : Task) (rest : List Task) : Opening :=
  let ran := runTask config scope task state.store
  let after := { state with
    store := ran.2
    base := if task.isReconcile then localDb ran.2 else state.base }
  match ran.1 with
  | .error _ => { after with phase := .failed }
  | .ok more =>
    if more ++ rest = [] then { after with phase := .finished }
    else { after with phase := .working (more ++ rest) }

/-- `handle_scope_message`, after the message is parsed. -/
def receive (state : Opening) (own : Bool) (event : SyncMutation) : Opening :=
  match state.awaiting, state.buffered with
  | true, some list => { state with buffered := some (list ++ [event]) }
  | _, _ => if own then state else { state with bus := state.bus ++ [event] }

def step (state : Opening) : Action → Option Opening
  | .fetch snapshot =>
    if state.phase = .fetching ∧ FetchesChildren config snapshot then
      some { state with phase := .fetched, snapshot }
    else none
  | .fetchFails =>
    if state.phase = .fetching then
      some { state with phase := .failed, awaiting := false, buffered := none }
    else none
  | .drain =>
    if state.phase = .fetched then
      some { state with
        phase := .drained (openTasks state.snapshot (state.buffered.getD []))
        buffered := none }
    else none
  | .release =>
    match state.phase with
    | .drained tasks =>
      some { state with
        phase := .working tasks, awaiting := false, base := localDb state.store }
    | _ => none
  | .work =>
    match state.phase with
    | .working (task :: rest) => some (afterTask config scope state task rest)
    | _ => none
  | .deliver own event =>
    some { receive state own event with delivered := state.delivered ++ [event] }
  | .handle =>
    match state.bus with
    | [] => none
    | event :: rest =>
      some { state with
        store := (handleRemoteMutation config event state.store).2, bus := rest }

def Fetched (snapshot : Snapshot) (key : RowKey) : Prop :=
  key = (config.rootEntity, scope) ∧ snapshot.root ≠ ∅ ∨
    ∃ child ∈ snapshot.children, child.1 = key.1 ∧
      ∃ record ∈ child.2, recordId record = some key.2

/-- Every delivered event shows in the persisted rows, unless it is superseded, and the cache
shows the rows of the scope as they are persisted. -/
def LosesNothing (state : Opening) : Prop :=
  (∀ earlier event later, state.delivered = earlier ++ event :: later →
    Reflected config (Fetched config scope state.snapshot) state.base (localDb state.store)
      earlier event later) ∧
  Mirrors config scope state.store

/-- The rows are persisted, the server has the scope's root, no queued write concerns the
scope, and its events arrive in order, while the buffer stands or after the open. -/
def Timely (state : Opening) : Action → Prop
  | .fetch snapshot =>
    state.store.persistence.isSome ∧ recordId snapshot.root = some scope ∧
      ∀ row ∈ state.store.queue.getD [], row.scopeId ≠ scope
  | .deliver own event =>
    (state.buffered.isSome ∨ state.phase = .finished ∧ own = false) ∧
      InSequence config scope state.delivered event
  | _ => True

instance (state : Opening) (action : Action) : Decidable (Timely config scope state action) := by
  cases action <;> dsimp only [Timely] <;> infer_instance

/-- An event is timely, and one that is handled after the open says where its row is. -/
def Sheltered (state : Opening) (action : Action) : Prop :=
  Timely config scope state action ∧
    (action = .handle → ∀ event ∈ state.bus.head?, LocatedIn config scope state.store event)

end

variable {db : Db}

theorem has_after_delete {entity id : String} {key : RowKey} (present : has db key = true)
    (different : key ≠ (entity, id)) :
    has ((db.delete entity id).getD db) key = true := by
  rw [has, Db.lookup_deleted, if_neg different]
  exact present

theorem with_rows_is_quiet {state : LocalState} (quiet : Quiet db state) (after : Db) :
    Quiet after (withRows after state) :=
  ⟨quiet.faults, rfl⟩

section

variable [Database] {config : StoreConfig} {scope : String}

def putInstalls : Put → RowKey → Prop
  | .update entity id _, key => key = (entity, id)
  | .create entity data, key => key.1 = entity ∧ recordId data = some key.2
  | _, _ => False

def putRemoves : Put → RowKey → Prop
  | .delete entity id, key => key = (entity, id)
  | _, _ => False

def installs (config : StoreConfig) (scope : String) : Task → RowKey → Prop
  | .upsertRoot _, key => key = (config.rootEntity, scope)
  | .reconcile entity records, key =>
    key.1 = entity ∧ ∃ record ∈ records, recordId record = some key.2
  | .put put, key => putInstalls put key
  | _, _ => False

def removes : Task → RowKey → Prop
  | .put put, key => putRemoves put key
  | _, _ => False

structure Written (installed removed : RowKey → Prop) (before after : Db) : Prop where
  kept : ∀ key, has before key = true → ¬ removed key → has after key = true
  made : ∀ key, installed key → has after key = true

variable {db : Db} {entity id : String} {removed : RowKey → Prop} {after store : LocalState}
  {put : Put} {localIds : List String} {record : Record} {localRows records : List Record}
  {snapshot : Snapshot} {task : Task} {front : List Task}

omit [Database] in
theorem put_written {row : Record} :
    Written (fun key => key = (entity, id)) removed db (db.put entity id row) where
  kept _ present _ := has_put.mpr (.inr present)
  made _ here := has_put.mpr (.inl here)

theorem create_written {data : Record} :
    Written (fun key => key.1 = entity ∧ recordId data = some key.2) removed db
      (db.create entity (stripNulls data)) where
  kept _ present _ := has_put.mpr (.inr present)
  made key here := by
    apply has_put.mpr
    rw [record_id_stripped, here.2, Option.getD_some]
    exact .inl (Prod.ext here.1 rfl)

theorem run_put_written (quiet : Quiet db store)
    (ran : runPut config put store = (.ok (), after)) :
    ∃ next, after = withRows next store ∧
      Written (putInstalls put) (putRemoves put) db next := by
  cases put with
  | update entity id fields =>
    rw [runPut, accessor_update_quiet quiet, Db.update] at ran
    cases held : db.rows.lookup (entity, id) with
    | none =>
      rw [held] at ran
      cases ran
    | some existing =>
      rw [held] at ran
      cases ran
      exact ⟨_, rfl, put_written⟩
  | create entity data =>
    rw [runPut, accessor_create_quiet config quiet] at ran
    cases ran
    exact ⟨_, rfl, create_written⟩
  | tryCreate entity data =>
    rw [runPut, bind_attempt, accessor_create_quiet config quiet] at ran
    cases ran
    refine ⟨_, rfl, ?_, ?_⟩
    · exact create_written.kept
    · intro key never
      cases never
  | delete entity id =>
    rw [runPut, accessor_delete_quiet quiet] at ran
    cases ran
    refine ⟨_, rfl, ?_, ?_⟩
    · intro key present kept
      exact has_after_delete present kept
    · intro key never
      cases never

theorem upsert_root_written (quiet : Quiet db store) {root : Record}
    (identified : recordId root = some scope)
    (ran : upsertRoot config scope root store = (.ok (), after)) :
    ∃ next, after = withRows next store ∧
      Written (fun key => key = (config.rootEntity, scope)) (fun _ => False) db next := by
  have fetched : root ≠ ∅ := by
    intro nothing
    rw [nothing] at identified
    cases identified
  rw [upsertRoot, if_neg fetched, bind_of_ok (accessor_read_quiet quiet _ _)] at ran
  cases held : db.rows.lookup (config.rootEntity, scope) with
  | some existing =>
    rw [held] at ran
    dsimp only at ran
    rw [bind_attempt, accessor_update_quiet quiet, Db.update, held] at ran
    cases ran
    exact ⟨_, rfl, put_written⟩
  | none =>
    rw [held] at ran
    dsimp only at ran
    rw [bind_attempt, accessor_create_quiet config quiet] at ran
    cases ran
    have created : Written (fun key => key.1 = config.rootEntity ∧ recordId root = some key.2)
        (fun _ => False) db (db.create config.rootEntity (stripNulls root)) :=
      create_written
    refine ⟨_, rfl, created.kept, ?_⟩
    intro key here
    subst here
    exact created.made _ ⟨rfl, identified⟩

theorem reconcile_puts_quiet (quiet : Quiet db store)
    (idle : ∀ row ∈ store.queue.getD [], row.scopeId ≠ scope) (entity : String)
    (records : List Record) :
    reconcilePuts config scope entity records store =
      (.ok (reconcilePlan config scope entity records
        (db.list entity (inScope config entity scope)) []), store) := by
  have nothing : pendingFor (store.queue.getD []) scope entity = [] := by
    apply List.filter_eq_nil_iff.mpr
    intro row member
    simp [idle row member]
  rw [reconcile_puts_calm quiet.faults, local_db_quiet quiet, nothing]

theorem server_put_installs (identified : recordId record = some id) :
    ∃ put, serverPut config scope entity localIds [] record = some put ∧
      putInstalls put (entity, id) := by
  have free : ¬ (hasPending [] .delete id || hasPending [] .update id) = true := by
    simp [hasPending]
  rw [server_put_of_id identified, if_neg free]
  refine ⟨_, rfl, ?_⟩
  split_ifs
  · rfl
  · refine ⟨rfl, ?_⟩
    rw [recordId, cleaned_id identified]
    rfl

theorem plan_installs (member : record ∈ records) (identified : recordId record = some id) :
    ∃ put ∈ reconcilePlan config scope entity records localRows [],
      putInstalls put (entity, id) := by
  obtain ⟨put, planned, installed⟩ := server_put_installs identified
  refine ⟨put, ?_, installed⟩
  apply List.mem_append_left
  apply List.mem_append_left
  exact List.mem_filterMap.mpr ⟨record, member, planned⟩

theorem server_put_keeps {pending : List StoredRow}
    (planned : serverPut config scope entity localIds pending record = some put) (key : RowKey) :
    ¬ putRemoves put key := by
  obtain ⟨id, _, made⟩ := server_put_some planned
  rw [made]
  split_ifs
  · exact not_false
  · exact not_false

theorem plan_removes (planned : put ∈ reconcilePlan config scope entity records localRows [])
    {key : RowKey} (removed : putRemoves put key) :
    key.1 = entity ∧ ∀ record ∈ records, recordId record ≠ some key.2 := by
  rw [reconcilePlan, List.filterMap_nil, List.append_nil, List.mem_append] at planned
  cases planned with
  | inl written =>
    obtain ⟨record, _, made⟩ := List.mem_filterMap.mp written
    exact absurd removed (server_put_keeps made key)
  | inr deleted =>
    obtain ⟨id, selected, made⟩ := List.mem_map.mp deleted
    subst made
    rw [List.mem_filter, decide_eq_true_eq] at selected
    have here : key = (entity, id) := removed
    subst here
    refine ⟨rfl, ?_⟩
    intro record member identified
    exact selected.2.1 (List.mem_filterMap.mpr ⟨record, member, identified⟩)

/-- How far the reconcile is: the rows of the snapshot are there or still to come, and
nothing that is left removes one of them. -/
structure Installing (config : StoreConfig) (scope : String) (snapshot : Snapshot)
    (front : List Task) (db : Db) : Prop where
  covers : ∀ key, Fetched config scope snapshot key →
    has db key = true ∨ ∃ task ∈ front, installs config scope task key
  spared : ∀ task ∈ front, ∀ key, removes task key → ¬ Fetched config scope snapshot key
  reconciles : ∀ task ∈ front, task.isReconcile = true
  listed : ∀ entity records, .reconcile entity records ∈ front →
    (entity, records) ∈ snapshot.children
  rooted : ∀ root, .upsertRoot root ∈ front → root = snapshot.root

structure Admissible (config : StoreConfig) (scope : String) (snapshot : Snapshot)
    (store : LocalState) : Prop where
  children : FetchesChildren config snapshot
  root : recordId snapshot.root = some scope
  idle : ∀ row ∈ store.queue.getD [], row.scopeId ≠ scope
  current : store.currentScope = some scope

theorem admissible_with_rows (admissible : Admissible config scope snapshot store) (rows : Db) :
    Admissible config scope snapshot (withRows rows store) :=
  ⟨admissible.children, admissible.root, admissible.idle, admissible.current⟩

theorem open_tasks_installing (snapshot : Snapshot) (db : Db) :
    Installing config scope snapshot
      (.upsertRoot snapshot.root ::
        snapshot.children.map (fun child => .reconcile child.1 child.2)) db where
  covers key fetched := by
    apply Or.inr
    cases fetched with
    | inl root => exact ⟨_, List.mem_cons_self, root.1⟩
    | inr child =>
      obtain ⟨child, member, here, record, listed, identified⟩ := child
      refine ⟨.reconcile child.1 child.2, ?_, here.symm, record, listed, identified⟩
      exact List.mem_cons_of_mem _ (List.mem_map.mpr ⟨child, member, rfl⟩)
  spared task member key removed := by
    cases List.mem_cons.mp member with
    | inl root =>
      subst root
      cases removed
    | inr child =>
      obtain ⟨child, _, made⟩ := List.mem_map.mp child
      subst made
      cases removed
  reconciles task member := by
    cases List.mem_cons.mp member with
    | inl root =>
      subst root
      rfl
    | inr child =>
      obtain ⟨child, _, made⟩ := List.mem_map.mp child
      subst made
      rfl
  listed entity records member := by
    cases List.mem_cons.mp member with
    | inl root => cases root
    | inr child =>
      obtain ⟨child, fetched, made⟩ := List.mem_map.mp child
      cases made
      exact fetched
  rooted root member := by
    cases List.mem_cons.mp member with
    | inl same =>
      cases same
      rfl
    | inr child =>
      obtain ⟨child, _, made⟩ := List.mem_map.mp child
      cases made

theorem installing_written {next : Db}
    (installing : Installing config scope snapshot (task :: front) db)
    (written : Written (installs config scope task) (removes task) db next) :
    Installing config scope snapshot front next where
  covers key fetched := by
    cases installing.covers key fetched with
    | inl present =>
      apply Or.inl
      apply written.kept key present
      intro removed
      exact installing.spared task List.mem_cons_self key removed fetched
    | inr coming =>
      obtain ⟨other, member, installed⟩ := coming
      cases List.mem_cons.mp member with
      | inl here =>
        subst here
        exact .inl (written.made key installed)
      | inr later => exact .inr ⟨other, later, installed⟩
  spared other member := installing.spared other (List.mem_cons_of_mem _ member)
  reconciles other member := installing.reconciles other (List.mem_cons_of_mem _ member)
  listed entity records member :=
    installing.listed entity records (List.mem_cons_of_mem _ member)
  rooted root member := installing.rooted root (List.mem_cons_of_mem _ member)

theorem installing_planned (distinct : config.rootEntity ∉ config.childEntities)
    (children : FetchesChildren config snapshot)
    (installing : Installing config scope snapshot (.reconcile entity records :: front) db) :
    Installing config scope snapshot
      ((reconcilePlan config scope entity records localRows []).map .put ++ front) db := by
  have fetchedHere := installing.listed entity records List.mem_cons_self
  have later : ∀ task ∈ front, task ∈ Task.reconcile entity records :: front :=
    fun task member => List.mem_cons_of_mem _ member
  constructor
  · intro key fetched
    cases installing.covers key fetched with
    | inl present => exact .inl present
    | inr coming =>
      obtain ⟨task, member, installed⟩ := coming
      apply Or.inr
      cases List.mem_cons.mp member with
      | inl here =>
        subst here
        obtain ⟨same, record, listed, identified⟩ := installed
        obtain ⟨put, planned, made⟩ := plan_installs listed identified
        refine ⟨.put put, ?_, ?_⟩
        · exact List.mem_append_left _ (List.mem_map.mpr ⟨put, planned, rfl⟩)
        · rw [← same] at made
          exact made
      | inr rest => exact ⟨task, List.mem_append_right _ rest, installed⟩
  · intro task member key removed fetched
    cases List.mem_append.mp member with
    | inr rest => exact installing.spared task (later task rest) key removed fetched
    | inl planned =>
      obtain ⟨put, inPlan, made⟩ := List.mem_map.mp planned
      subst made
      obtain ⟨same, unknown⟩ := plan_removes inPlan removed
      cases fetched with
      | inl root =>
        apply distinct
        have isRoot : key.1 = config.rootEntity := by rw [root.1]
        rw [← isRoot, same]
        exact children.2.1 _ fetchedHere
      | inr child =>
        obtain ⟨child, fetched, named, record, listed, identified⟩ := child
        -- one list of records for each entity
        have whole : child = (entity, records) :=
          List.inj_on_of_nodup_map children.1 fetched fetchedHere (named.trans same)
        rw [whole] at listed
        exact unknown record listed identified
  · intro task member
    cases List.mem_append.mp member with
    | inl planned =>
      obtain ⟨put, _, made⟩ := List.mem_map.mp planned
      subst made
      rfl
    | inr rest => exact installing.reconciles task (later task rest)
  · intro other list member
    cases List.mem_append.mp member with
    | inl planned =>
      obtain ⟨put, _, made⟩ := List.mem_map.mp planned
      cases made
    | inr rest => exact installing.listed other list (later _ rest)
  · intro root member
    cases List.mem_append.mp member with
    | inl planned =>
      obtain ⟨put, _, made⟩ := List.mem_map.mp planned
      cases made
    | inr rest => exact installing.rooted root (later _ rest)

theorem task_installing (distinct : config.rootEntity ∉ config.childEntities) {more : List Task}
    (admissible : Admissible config scope snapshot store) (quiet : Quiet db store)
    (installing : Installing config scope snapshot (task :: front) db)
    (ran : runTask config scope task store = (.ok more, after)) :
    ∃ next, after = withRows next store ∧
      Installing config scope snapshot (more ++ front) next := by
  cases task with
  | upsertRoot root =>
    obtain ⟨_, middle, upserted, returned⟩ := bind_ok_iff.mp ran
    cases returned
    have identified := admissible.root
    rw [← installing.rooted root List.mem_cons_self] at identified
    obtain ⟨next, same, written⟩ := upsert_root_written quiet identified upserted
    exact ⟨next, same, installing_written installing written⟩
  | reconcile entity records =>
    obtain ⟨puts, middle, planned, returned⟩ := bind_ok_iff.mp ran
    rw [reconcile_puts_quiet quiet admissible.idle] at planned
    cases planned
    cases returned
    refine ⟨db, (with_rows_quiet quiet).symm, ?_⟩
    exact installing_planned distinct admissible.children installing
  | put put =>
    obtain ⟨_, middle, wrote, returned⟩ := bind_ok_iff.mp ran
    cases returned
    obtain ⟨next, same, written⟩ := run_put_written quiet wrote
    exact ⟨next, same, installing_written installing written⟩
  | replay mutation | reload => cases installing.reconciles _ List.mem_cons_self

theorem replay_quiet (quiet : Quiet db store) (mutation : SyncMutation) :
    replayMutation config mutation store =
      (.ok (), withRows (applied config db mutation) store) := by
  rw [replayMutation, bind_attempt, apply_mutation_quiet quiet mutation]
  rfl

omit [Database] in
theorem keeps_quiet_call (db : Db) : Keeps (Quiet db) dbCall := by
  intro state quiet
  rw [db_call_calm quiet.faults]
  exact quiet

theorem keeps_quiet_reload (db : Db) : Keeps (Quiet db) (reloadScope config scope) := by
  have called := keeps_quiet_call db
  apply keeps_bind
  · refine keeps_bind (keeps_inspect _) ?_
    intro persistence
    cases persistence with
    | none => exact keeps_pure _
    | some rows =>
      apply keeps_bind called
      intro _
      apply keeps_bind
      · apply keeps_gather
        intro entity
        exact keeps_bind called (fun _ => keeps_pure _)
      · intro children
        exact keeps_pure _
  · intro bundle
    apply keeps_bind called
    intro _
    apply keeps_bind
    · exact keeps_each _ (fun _ _ => called)
    · intro _
      exact keeps_change (fun _ quiet => ⟨quiet.faults, quiet.persistence⟩)

theorem handle_quiet (quiet : Quiet db store) (mutation : SyncMutation) :
    Quiet (applied config db mutation) (handleRemoteMutation config mutation store).2 := by
  rw [handle_remote_mutation_quiet quiet mutation]
  exact ⟨quiet.faults, rfl⟩

/-- The work that is left: some of the reconcile, or some of the replay. -/
structure Working (config : StoreConfig) (scope : String) (state : Opening)
    (tasks front : List Task) (replays rest : List SyncMutation) : Prop where
  tasks_eq : tasks = front ++ rest.map .replay ++ [.reload]
  delivered : state.delivered = replays ++ rest
  first : front = [] ∨ replays = []
  rows : Quiet (replayed config state.base replays) state.store
  installing : Installing config scope state.snapshot front state.base

/-- What holds at each stage of the open, when every step is sheltered. -/
def Stage (config : StoreConfig) (scope : String) (state : Opening) : Prop :=
  match state.phase with
  | .fetching =>
    state.awaiting = true ∧ state.buffered = some state.delivered ∧ state.bus = [] ∧
      state.store.faults = [] ∧ state.store.currentScope = some scope
  | .fetched =>
    state.awaiting = true ∧ state.buffered = some state.delivered ∧ state.bus = [] ∧
      Admissible config scope state.snapshot state.store ∧ ∃ db, Quiet db state.store
  | .drained tasks =>
    state.buffered = none ∧ state.bus = [] ∧
      Admissible config scope state.snapshot state.store ∧
      (∃ db, Quiet db state.store) ∧ tasks = openTasks state.snapshot state.delivered
  | .working tasks =>
    state.buffered = none ∧ state.bus = [] ∧
      Admissible config scope state.snapshot state.store ∧
      ∃ front replays rest, Working config scope state tasks front replays rest
  | .finished =>
    state.buffered = none ∧ recordId state.snapshot.root = some scope ∧
      Installing config scope state.snapshot [] state.base ∧
      Mirrors config scope state.store ∧
      ∃ handled, state.delivered = handled ++ state.bus ∧
        Quiet (replayed config state.base handled) state.store
  | .failed => True

theorem start_stage (store : LocalState) : Stage config scope (Opening.start scope store) :=
  ⟨rfl, rfl, rfl, rfl, rfl⟩

variable {state : Opening} {event : SyncMutation} {rest : List SyncMutation} {task : Task}

theorem fetch_stage {snapshot : Snapshot} (children : FetchesChildren config snapshot)
    (phase : state.phase = .fetching) (timely : Timely config scope state (.fetch snapshot))
    (stage : Stage config scope state) :
    Stage config scope { state with phase := .fetched, snapshot } := by
  rw [Stage, phase] at stage
  obtain ⟨awaiting, buffered, bus, faults, current⟩ := stage
  obtain ⟨persisted, root, idle⟩ := timely
  obtain ⟨db, held⟩ := Option.isSome_iff_exists.mp persisted
  exact ⟨awaiting, buffered, bus, ⟨children, root, idle, current⟩, db, faults, held⟩

theorem drain_stage (phase : state.phase = .fetched) (stage : Stage config scope state) :
    Stage config scope { state with
      phase := .drained (openTasks state.snapshot (state.buffered.getD []))
      buffered := none } := by
  rw [Stage, phase] at stage
  obtain ⟨_, buffered, bus, admissible, quiet⟩ := stage
  refine ⟨rfl, bus, admissible, quiet, ?_⟩
  rw [buffered, Option.getD_some]

theorem release_stage {tasks : List Task} (phase : state.phase = .drained tasks)
    (stage : Stage config scope state) :
    Stage config scope { state with
      phase := .working tasks, awaiting := false, base := localDb state.store } := by
  rw [Stage, phase] at stage
  obtain ⟨buffered, bus, admissible, ⟨db, quiet⟩, same⟩ := stage
  have rows := local_db_quiet quiet
  refine ⟨buffered, bus, admissible, _, [], state.delivered, same, rfl, .inr rfl, ?_,
    open_tasks_installing state.snapshot _⟩
  rw [rows]
  exact quiet

omit [Database] in
theorem receive_buffered {list : List SyncMutation} (own : Bool) (event : SyncMutation)
    (awaiting : state.awaiting = true) (buffered : state.buffered = some list) :
    receive state own event = { state with buffered := some (list ++ [event]) } := by
  rw [receive, awaiting, buffered]

omit [Database] in
theorem receive_unbuffered (event : SyncMutation) (buffered : state.buffered = none) :
    receive state false event = { state with bus := state.bus ++ [event] } := by
  rw [receive, buffered]
  cases state.awaiting with
  | true | false => rfl

theorem deliver_stage {own : Bool} (sheltered : Timely config scope state (.deliver own event))
    (stage : Stage config scope state) :
    Stage config scope
      { receive state own event with delivered := state.delivered ++ [event] } := by
  obtain ⟨timely, _⟩ := sheltered
  unfold Stage at stage ⊢
  cases phase : state.phase with
  | fetching | fetched =>
    rw [phase] at stage
    obtain ⟨awaiting, buffered, rest⟩ := stage
    rw [receive_buffered own event awaiting buffered]
    rw [phase]
    exact ⟨awaiting, rfl, rest⟩
  | drained tasks | working tasks =>
    rw [phase] at stage timely
    rw [stage.1] at timely
    cases timely with
    | inl standing => cases standing
    | inr done => cases done.1
  | finished =>
    rw [phase] at stage timely
    obtain ⟨buffered, root, installing, mirrors, handled, delivered, quiet⟩ := stage
    rw [buffered] at timely
    cases timely with
    | inl standing => cases standing
    | inr done =>
      rw [done.2, receive_unbuffered event buffered]
      rw [phase]
      refine ⟨buffered, root, installing, mirrors, handled, ?_, quiet⟩
      rw [delivered, List.append_assoc]
  | failed =>
    have kept : (receive state own event).phase = .failed := by
      unfold receive
      split
      · exact phase
      · split_ifs
        · exact phase
        · exact phase
    rw [kept]
    trivial

theorem bus_empty_until_ended (stage : Stage config scope state)
    (unfinished : state.phase ≠ .finished) (going : state.phase ≠ .failed) :
    state.bus = [] := by
  unfold Stage at stage
  cases phase : state.phase with
  | fetching | fetched =>
    rw [phase] at stage
    exact stage.2.2.1
  | drained tasks | working tasks =>
    rw [phase] at stage
    exact stage.2.1
  | finished => exact absurd phase unfinished
  | failed => exact absurd phase going

theorem handle_stage (plain : Plain config) (bus : state.bus = event :: rest)
    (located : LocatedIn config scope state.store event) (stage : Stage config scope state) :
    Stage config scope { state with
      store := (handleRemoteMutation config event state.store).2, bus := rest } := by
  by_cases failed : state.phase = .failed
  · rw [failed]
    trivial
  by_cases finished : state.phase = .finished
  · unfold Stage at stage ⊢
    rw [finished, bus] at stage
    obtain ⟨buffered, root, installing, mirrors, handled, delivered, quiet⟩ := stage
    rw [finished]
    refine ⟨buffered, root, installing, mirrors_step plain mirrors located, handled ++ [event],
      ?_, ?_⟩
    · rw [delivered, List.append_assoc]
      rfl
    · rw [replayed_snoc]
      exact handle_quiet quiet event
  · rw [bus_empty_until_ended stage finished failed] at bus
    cases bus

theorem reconcile_stage (distinct : config.rootEntity ∉ config.childEntities) {front : List Task}
    {events : List SyncMutation}
    (admissible : Admissible config scope state.snapshot state.store)
    (buffered : state.buffered = none) (bus : state.bus = []) (delivered : state.delivered = events)
    (quiet : Quiet state.base state.store)
    (installing : Installing config scope state.snapshot (task :: front) state.base) :
    Stage config scope (afterTask config scope state task
      (front ++ events.map .replay ++ [.reload])) := by
  have reconciles := installing.reconciles task List.mem_cons_self
  unfold afterTask
  cases ran : runTask config scope task state.store with
  | mk outcome after =>
    cases outcome with
    | error failure => trivial
    | ok more =>
      obtain ⟨next, same, installed⟩ := task_installing distinct admissible quiet installing ran
      have unfinished : more ++ (front ++ events.map .replay ++ [.reload]) ≠ [] := by simp
      dsimp only
      rw [if_neg unfinished, if_pos reconciles, same]
      have wrote := with_rows_is_quiet quiet next
      refine ⟨buffered, bus, admissible_with_rows admissible next, more ++ front, [], events, ?_,
        delivered, .inr rfl, wrote, installed⟩
      simp

theorem replay_stage {replays : List SyncMutation}
    (admissible : Admissible config scope state.snapshot state.store)
    (buffered : state.buffered = none) (bus : state.bus = [])
    (delivered : state.delivered = replays ++ event :: rest)
    (quiet : Quiet (replayed config state.base replays) state.store)
    (installing : Installing config scope state.snapshot [] state.base) :
    Stage config scope (afterTask config scope state (.replay event)
      (rest.map .replay ++ [.reload])) := by
  have ran : runTask config scope (.replay event) state.store =
      (.ok [], withRows (applied config (replayed config state.base replays) event)
        state.store) := by
    rw [runTask, bind_of_ok (replay_quiet quiet event)]
    rfl
  have unfinished : [] ++ (rest.map Task.replay ++ [.reload]) ≠ [] := by simp
  unfold afterTask
  rw [ran]
  dsimp only
  rw [if_neg unfinished]
  refine ⟨buffered, bus, admissible_with_rows admissible _, [], replays ++ [event], rest, rfl, ?_,
    .inl rfl, ?_, installing⟩
  · rw [delivered]
    simp
  · rw [replayed_snoc]
    exact with_rows_is_quiet quiet _

theorem reload_stage (separated : config.Separated)
    (admissible : Admissible config scope state.snapshot state.store)
    (buffered : state.buffered = none) (bus : state.bus = [])
    (quiet : Quiet (replayed config state.base state.delivered) state.store)
    (installing : Installing config scope state.snapshot [] state.base) :
    Stage config scope (afterTask config scope state .reload []) := by
  unfold afterTask
  cases ran : runTask config scope .reload state.store with
  | mk outcome after =>
    cases outcome with
    | error failure => trivial
    | ok more =>
      obtain ⟨_, middle, reloaded, returned⟩ := bind_ok_iff.mp ran
      cases returned
      have kept := (keeps_quiet_reload _).after quiet reloaded
      obtain ⟨loaded, current⟩ :=
        reload_scope_loads separated ⟨quiet.persistence, admissible.current⟩ reloaded
      have mirrors : Mirrors config scope after := by
        refine ⟨kept.faults, current, _, kept.persistence, ?_⟩
        intro key _ row
        rw [loaded.rows, ScopeReplacement.rowsAfter, kept.persistence, Option.getD_some]
      dsimp only
      rw [List.append_nil, if_pos rfl]
      refine ⟨buffered, admissible.root, installing, mirrors, state.delivered, ?_, kept⟩
      rw [bus, List.append_nil]

theorem work_stage (separated : config.Separated) {rest : List Task} (phase : state.phase = .working (task :: rest)) (stage : Stage config scope state) :
    Stage config scope (afterTask config scope state task rest) := by
  rw [Stage, phase] at stage
  obtain ⟨buffered, bus, admissible, front, replays, events, working⟩ := stage
  have tasks := working.tasks_eq
  have distinct : config.rootEntity ∉ config.childEntities :=
    fun child => (separated config.rootEntity child).1 rfl
  cases front with
  | cons first front =>
    have nothing : replays = [] := working.first.resolve_left (by simp)
    subst nothing
    cases tasks
    exact reconcile_stage distinct admissible buffered bus working.delivered working.rows
      working.installing
  | nil =>
    cases events with
    | cons event events =>
      cases tasks
      exact replay_stage admissible buffered bus working.delivered working.rows
        working.installing
    | nil =>
      cases tasks
      have all : state.delivered = replays := by
        rw [working.delivered, List.append_nil]
      apply reload_stage separated admissible buffered bus _ working.installing
      rw [all]
      exact working.rows

theorem after_task_delivered (state : Opening) (task : Task) (rest : List Task) :
    (afterTask config scope state task rest).delivered = state.delivered := by
  unfold afterTask
  dsimp only
  split
  · rfl
  · next more ran =>
      by_cases last : more ++ rest = []
      · rw [if_pos last]
      · rw [if_neg last]

structure Sound (config : StoreConfig) (scope : String) (state : Opening) : Prop where
  ordered : Ordered config scope state.delivered
  stage : Stage config scope state

theorem step_sound (plain : Plain config) {after : Opening} {action : Action} (sound : Sound config scope state)
    (sheltered : Sheltered config scope state action)
    (taken : step config scope state action = some after) :
    Sound config scope after := by
  obtain ⟨ordered, stage⟩ := sound
  cases action with
  | fetch snapshot =>
    rw [step] at taken
    split_ifs at taken with enabled
    cases taken
    exact ⟨ordered, fetch_stage enabled.2 enabled.1 sheltered.1 stage⟩
  | fetchFails =>
    rw [step] at taken
    split_ifs at taken
    cases taken
    exact ⟨ordered, trivial⟩
  | drain =>
    rw [step] at taken
    split_ifs at taken with enabled
    cases taken
    exact ⟨ordered, drain_stage enabled stage⟩
  | release =>
    rw [step] at taken
    split at taken
    · next tasks phase =>
        cases taken
        exact ⟨ordered, release_stage phase stage⟩
    · cases taken
  | work =>
    rw [step] at taken
    split at taken
    · next task rest phase =>
        cases taken
        refine ⟨?_, work_stage plain.separated phase stage⟩
        rw [after_task_delivered]
        exact ordered
    · cases taken
  | deliver own event =>
    cases taken
    exact ⟨ordered_snoc.mpr ⟨ordered, sheltered.1.2⟩, deliver_stage sheltered.1 stage⟩
  | handle =>
    rw [step] at taken
    split at taken
    · cases taken
    · next event rest bus =>
        cases taken
        have located := sheltered.2 rfl event (by rw [bus]; rfl)
        exact ⟨ordered, handle_stage plain bus located stage⟩

end

def insertTask : SyncMutation where
  op := .insert
  entity := "task"
  id := "t1"
  data := some taskRow

def finishTask : SyncMutation :=
  updateTask [("done", .number 1), ("boardId", .string "b1")]

def emptyBoard : Snapshot where
  root := boardRow
  children := [("task", [])]

def openingBoard : Opening := Opening.start "b1" (startState (some Db.empty))

/-- The insert is buffered and replayed, the update arrives after the open. -/
def insertThenUpdate : List Action :=
  [.deliver false insertTask, .fetch emptyBoard, .drain, .release, .work, .work, .work, .work,
    .deliver false finishTask]

/-- The state before the update is handled. -/
def boardOpened : Opening :=
  (replay (step boards "b1") (fun state action => Timely boards "b1" state action ∧
    action ≠ .handle) openingBoard insertThenUpdate).get (by decide)

theorem board_opens :
    Reaches (step boards "b1") (Sheltered boards "b1") openingBoard boardOpened := by
  apply reaches_weaken _ (reaches_of_replay .start (Option.some_get _).symm)
  intro state action timely
  exact ⟨timely.1, fun handles => absurd handles timely.2⟩

theorem finish_task_located : LocatedIn boards "b1" boardOpened.store finishTask := by
  intro db persisted
  cases persisted
  constructor
  · intro _ data carries row held inside
    cases carries
    rfl
  · intro _ _ data carries named row held outside
    cases held
    exact absurd rfl outside
  · intro isRoot
    exact absurd isRoot (by decide)

/-- The mutation loop creates the row of a late insert, and the reconcile with the older snapshot
deletes it. -/
def insertDuringReconcile : List Action :=
  [.fetch emptyBoard, .drain, .release, .work, .deliver false insertTask, .handle, .work,
    .work, .work]

end Stitch.Client.ScopeOpening
