import Stitch.Client.LocalRows

/-!
# Bringing a scope's server state into the local rows

Opening a scope with the server upserts the fetched root, reconciles the fetched children with
the local rows and the queued mutations, replays the mutations buffered meanwhile, and reloads
the memory cache.
-/

namespace Stitch.Client.ScopeSync

open Foundation.FallibleState Mutations Consolidation LocalRows

structure SyncMutation where
  op : Operation
  entity : String
  id : String
  data : Option Record
  deriving DecidableEq

def SyncMutation.key (mutation : SyncMutation) : RowKey := (mutation.entity, mutation.id)

/-- What `open_scope` fetched, and the mutations it buffered meanwhile. -/
structure ScopeState where
  root : Record
  children : List (String × List Record)
  bufferedMutations : List SyncMutation
  deriving DecidableEq

def isBehind (field : String) (data existing : Record) : Bool :=
  match (data.lookup field).bind Value.asU64, (existing.lookup field).bind Value.asU64 with
  | some remote, some held => remote < held
  | _, _ => false

section

variable [Database] (config : StoreConfig)

def isOlder (data existing : Record) : Bool :=
  isBehind config.versionField data existing || isBehind config.updatedAtField data existing

def rootIsMissing (data : Record) : StoreM Bool :=
  match refScope config data with
  | some scope => do
    let root ← accessorRead config.rootEntity scope
    pure root.isNone
  | none => pure false

def applyInsert (mutation : SyncMutation) : StoreM Bool :=
  match mutation.data with
  | none => pure false
  | some data => do
    if ← rootIsMissing config data then pure false
    else do
      accessorCreate config mutation.entity (data.insert "id" (.string mutation.id))
      pure true

def applyUpdate (mutation : SyncMutation) : StoreM Bool :=
  match mutation.data with
  | none => pure false
  | some data => do
    match ← accessorRead mutation.entity mutation.id with
    | none => pure false
    | some existing =>
      if isOlder config data existing then pure false
      else do
        accessorUpdate mutation.entity mutation.id data
        pure true

def applyDelete (mutation : SyncMutation) : StoreM Bool := do
  accessorDelete mutation.entity mutation.id
  pure true

def applyMutationToDb (mutation : SyncMutation) : StoreM Bool :=
  match mutation.op with
  | .insert => applyInsert config mutation
  | .update => applyUpdate config mutation
  | .delete => applyDelete mutation

end

inductive Put where
  | update (entity id : String) (fields : Record)
  | create (entity : String) (data : Record)
  | tryCreate (entity : String) (data : Record)
  | delete (entity id : String)
  deriving DecidableEq

section

variable [Database] (config : StoreConfig)

def hasPending (pending : List StoredRow) (op : Operation) (id : String) : Bool :=
  pending.any (fun row => row.entityId == id && row.op == op)

def serverPut (scope entity : String) (localIds : List String) (pending : List StoredRow)
    (record : Record) : Option Put :=
  match recordId record with
  | none => none
  | some id =>
    if hasPending pending .delete id || hasPending pending .update id then none
    else
      let stripped := stripNulls record
      let cleaned :=
        if (stripped.lookup config.scopeField).isNone then
          stripped.insert config.scopeField (.string scope)
        else stripped
      if id ∈ localIds then some (.update entity id cleaned)
      else some (.create entity cleaned)

/-- A queued write of a row that neither side has. -/
def pendingPut (entity : String) (serverIds localIds : List String) (row : StoredRow) :
    Option Put :=
  if row.op = .delete ∨ row.entityId ∈ serverIds ∨ row.entityId ∈ localIds then none
  else row.data.map (fun data => .tryCreate entity data)

def reconcilePlan (scope entity : String) (records localRows : List Record)
    (pending : List StoredRow) : List Put :=
  let serverIds := records.filterMap recordId
  let localIds := localRows.filterMap recordId
  records.filterMap (serverPut config scope entity localIds pending) ++
    pending.filterMap (pendingPut entity serverIds localIds) ++
    (localIds.filter (fun id =>
      id ∉ serverIds ∧ ∀ row ∈ pending, row.entityId ≠ id)).map (fun id => .delete entity id)

def pendingFor (rows : List StoredRow) (scope entity : String) : List StoredRow :=
  rows.filter (fun row => row.scopeId == scope && row.entity == entity)

/-- The queued rows of the scope and entity; without a queue nothing is asked. -/
def pendingForScope (scope entity : String) : StoreM (List StoredRow) := do
  match ← inspect LocalState.queue with
  | none => pure []
  | some rows => do
    dbCall
    pure (pendingFor rows scope entity)

def reconcilePuts (scope entity : String) (records : List Record) : StoreM (List Put) := do
  let localRows ← accessorList config entity scope
  let pending ← pendingForScope scope entity
  pure (reconcilePlan config scope entity records localRows pending)

def runPut : Put → StoreM Unit
  | .update entity id fields => accessorUpdate entity id fields
  | .create entity data => accessorCreate config entity data
  | .tryCreate entity data => do
    let _ ← attempt (accessorCreate config entity data)
  | .delete entity id => accessorDelete entity id

def reconcileChildren (scope entity : String) (records : List Record) : StoreM Unit := do
  let puts ← reconcilePuts config scope entity records
  each (runPut config) puts

def upsertRoot (scope : String) (root : Record) : StoreM Unit := do
  if root = ∅ then pure ()
  else
    match ← accessorRead config.rootEntity scope with
    | some _ => do
      let _ ← attempt (accessorUpdate config.rootEntity scope root)
    | none => do
      let _ ← attempt (accessorCreate config config.rootEntity root)

def replayMutation (mutation : SyncMutation) : StoreM Unit := do
  let _ ← attempt (applyMutationToDb config mutation)

def reconcileScope (scope : String) (opened : Except Error ScopeState) : StoreM Unit := do
  let state ← settle opened
  upsertRoot config scope state.root
  each (fun child => reconcileChildren config scope child.1 child.2) state.children
  each (replayMutation config) state.bufferedMutations
  change (fun state => { state with reconciled := localDb state })

def reloadScope (scope : String) : StoreM Unit := do
  let bundle ← loadBundleFromPersistence config scope
  loadScope config scope bundle

def openScopeWithServer (scope : String) (opened : Except Error ScopeState) : StoreM Unit := do
  reconcileScope config scope opened
  reloadScope config scope

def belongsToMemory (mutation : SyncMutation) (current : Option String)
    (cached : Option Record) : Bool :=
  if config.topLevelEntities.contains mutation.entity then true
  else
    match mutation.data, mutation.op with
    | some data, _ =>
      if mutation.entity = config.rootEntity then some mutation.id = current
      else refScope config data = current
    | none, .delete =>
      match cached with
      | some existing =>
        if mutation.entity = config.rootEntity then some mutation.id = current
        else refScope config existing = current
      | none => false
    | none, _ => false

/-- The scope under which a mirrored row is created; a root row is its own scope. -/
def mirrorScope (mutation : SyncMutation) (data : Record) (rootScope : Option String) :
    Option String :=
  if config.topLevelEntities.contains mutation.entity then some ""
  else (refScope config data).or
    (if mutation.entity = config.rootEntity then rootScope else none)

def mirrorCreate (mutation : SyncMutation) (data : Record) (scope : Option String) :
    StoreM Unit :=
  match scope with
  | none => pure ()
  | some scope => do
    let _ ← attempt (memoryCreate config mutation.entity scope
      (data.insert "id" (.string mutation.id)))

def mirrorRemoteToMemory (mutation : SyncMutation) : StoreM Unit :=
  match mutation.op, mutation.data with
  | .insert, some data =>
    mirrorCreate config mutation data (mirrorScope config mutation data (recordId data))
  | .update, some data => do
    match ← attempt (memoryUpdate mutation.entity mutation.id data) with
    | .ok _ => pure ()
    | .error error =>
      if error.isNotFound then
        mirrorCreate config mutation data
          (mirrorScope config mutation data (some mutation.id))
      else pure ()
  | .delete, _ => do
    let _ ← attempt (memoryDelete mutation.entity mutation.id)
  | _, none => pure ()

/-- `handle_remote_mutation`: only an applied mutation of a persistent store is mirrored. -/
def handleRemoteMutation (mutation : SyncMutation) : StoreM Unit := do
  let applied ← attempt (applyMutationToDb config mutation)
  let state ← inspect id
  if applied.toOption = some true ∧ state.persistence.isSome then
    if belongsToMemory config mutation state.currentScope
        (state.memory.rows.lookup mutation.key) then
      mirrorRemoteToMemory config mutation
    else pure ()
  else pure ()

end

/-- A property of the state that neither a call of the database nor a write breaks. -/
structure Unwritten (Holds : LocalState → Prop) : Prop where
  faults : ∀ state rest, Holds state → Holds { state with faults := rest }
  stores : ∀ state db, Holds state → Holds (storeLocal db state)

section

variable {Holds : LocalState → Prop}

theorem keeps_accessor_read (unwritten : Unwritten Holds) (entity id : String) :
    Keeps Holds (accessorRead entity id) :=
  keeps_bind (keeps_db_call unwritten.faults) (fun _ => keeps_inspect _)

theorem keeps_store_found (unwritten : Unwritten Holds) (entity id : String)
    (found : Option Db) : Keeps Holds (storeFound entity id found) := by
  cases found with
  | none => exact keeps_settle _
  | some db => exact keeps_change (fun state holds => unwritten.stores state db holds)

theorem keeps_accessor_delete (unwritten : Unwritten Holds) (entity id : String) :
    Keeps Holds (accessorDelete entity id) := by
  have deletes : Keeps Holds (deleteRow entity id) := by
    apply keeps_bind (keeps_db_call unwritten.faults)
    intro _
    apply keeps_bind (keeps_db_call unwritten.faults)
    intro _
    exact keeps_bind (keeps_inspect _) (keeps_store_found unwritten entity id)
  exact keeps_bind (keeps_attempt deletes) (fun _ => keeps_pure ())

variable [Database] (config : StoreConfig)

variable (unwritten : Unwritten Holds)

include unwritten

theorem keeps_accessor_list (entity scope : String) :
    Keeps Holds (accessorList config entity scope) :=
  keeps_bind (keeps_db_call unwritten.faults) (fun _ => keeps_inspect _)

theorem keeps_accessor_create (entity : String) (data : Record) :
    Keeps Holds (accessorCreate config entity data) := by
  apply keeps_bind (keeps_db_call unwritten.faults)
  intro _
  apply keeps_change
  intro state holds
  exact unwritten.stores state _ holds

theorem keeps_accessor_update (entity id : String) (fields : Record) :
    Keeps Holds (accessorUpdate entity id fields) := by
  apply keeps_bind (keeps_db_call unwritten.faults)
  intro _
  exact keeps_bind (keeps_inspect _) (keeps_store_found unwritten entity id)

theorem keeps_apply_mutation (mutation : SyncMutation) :
    Keeps Holds (applyMutationToDb config mutation) := by
  unfold applyMutationToDb
  cases mutation.op with
  | insert =>
    unfold applyInsert
    cases mutation.data with
    | none => exact keeps_pure false
    | some data =>
      apply keeps_bind
      · unfold rootIsMissing
        cases refScope config data with
        | none => exact keeps_pure false
        | some scope =>
          exact keeps_bind (keeps_accessor_read unwritten _ _) (fun _ => keeps_pure _)
      · intro missing
        cases missing with
        | true => exact keeps_pure false
        | false =>
          exact keeps_bind (keeps_accessor_create config unwritten _ _)
            (fun _ => keeps_pure true)
  | update =>
    unfold applyUpdate
    cases mutation.data with
    | none => exact keeps_pure false
    | some data =>
      apply keeps_bind (keeps_accessor_read unwritten _ _)
      intro found
      cases found with
      | none => exact keeps_pure false
      | some existing =>
        dsimp only
        split_ifs
        · exact keeps_pure false
        · exact keeps_bind (keeps_accessor_update unwritten _ _ _)
            (fun _ => keeps_pure true)
  | delete =>
    exact keeps_bind (keeps_accessor_delete unwritten _ _) (fun _ => keeps_pure true)

theorem keeps_run_put (put : Put) :
    Keeps Holds (runPut config put) := by
  cases put with
  | update entity id fields => exact keeps_accessor_update unwritten entity id fields
  | create entity data => exact keeps_accessor_create config unwritten entity data
  | tryCreate entity data =>
    exact keeps_bind (keeps_attempt (keeps_accessor_create config unwritten entity data))
      (fun _ => keeps_pure ())
  | delete entity id => exact keeps_accessor_delete unwritten entity id

theorem keeps_reconcile_children (scope entity : String) (records : List Record) :
    Keeps Holds (reconcileChildren config scope entity records) := by
  apply keeps_bind
  · apply keeps_bind (keeps_accessor_list config unwritten entity scope)
    intro localRows
    apply keeps_bind
    · refine keeps_bind (keeps_inspect _) ?_
      intro queue
      cases queue with
      | none => exact keeps_pure []
      | some rows => exact keeps_bind (keeps_db_call unwritten.faults) (fun _ => keeps_pure _)
    · intro pending
      exact keeps_pure _
  · intro puts
    exact keeps_each puts (fun put _ => keeps_run_put config unwritten put)

theorem keeps_upsert_root (scope : String) (root : Record) :
    Keeps Holds (upsertRoot config scope root) := by
  unfold upsertRoot
  split_ifs
  · exact keeps_pure ()
  · apply keeps_bind (keeps_accessor_read unwritten _ _)
    intro found
    cases found with
    | none =>
      exact keeps_bind (keeps_attempt (keeps_accessor_create config unwritten _ _))
        (fun _ => keeps_pure ())
    | some existing =>
      exact keeps_bind (keeps_attempt (keeps_accessor_update unwritten _ _ _))
        (fun _ => keeps_pure ())

theorem keeps_replay_mutation (mutation : SyncMutation) :
    Keeps Holds (replayMutation config mutation) := by
  exact keeps_bind (keeps_attempt (keeps_apply_mutation config unwritten mutation))
    (fun _ => keeps_pure ())

theorem keeps_reconcile_scope
    (marked : ∀ state db, Holds state → Holds { state with reconciled := db }) (scope : String)
    (opened : Except Error ScopeState) :
    Keeps Holds (reconcileScope config scope opened) := by
  refine keeps_bind (keeps_settle opened) ?_
  intro state
  apply keeps_bind (keeps_upsert_root config unwritten scope state.root)
  intro _
  apply keeps_bind
  · apply keeps_each
    intro child _
    exact keeps_reconcile_children config unwritten scope child.1 child.2
  intro _
  apply keeps_bind
  · exact keeps_each _ (fun mutation _ => keeps_replay_mutation config unwritten mutation)
  intro _
  apply keeps_change
  intro after holds
  exact marked after _ holds

end

end Stitch.Client.ScopeSync
