import Stitch.Foundation.GuardedRuns
import Stitch.Foundation.TwoRuns
import Stitch.Client.LocalRows

/-!
# The memory cache

`MemoryStore` holds the rows of the loaded scope. It announces every mutation on a bus and
counts the announcements for each scope and entity, the change token of `Store::version`. While
a batch is open announcements are held back, one for each scope and entity.
-/

namespace Stitch.Client.MemoryStore

open Foundation.FiniteMap Foundation.FallibleState Mutations
open LocalRows (Database StoreConfig Db recordId stripNulls inScope refScope memoryRow ScopeBundle
  bundleRows createRows LocalState)

/-- Where a mutation came from; `app` is the source's `Local`. -/
inductive Origin where
  | app
  | remote
  | load
  | clear
  deriving DecidableEq, Repr

structure MutationEvent where
  operation : Operation
  entity : String
  id : String
  scopeId : String
  data : Option Record
  origin : Origin
  deriving DecidableEq

inductive StoreEvent where
  | mutation (event : MutationEvent)
  | scopeLoaded (scope : String) (entities : List String)
  | scopeCleared (scope : String) (entities : List String)
  deriving DecidableEq

abbrev ScopeEntity := String × String

def MutationEvent.key (event : MutationEvent) : ScopeEntity := (event.scopeId, event.entity)

structure Memory where
  db : Db
  currentScope : Option String
  depth : Nat
  buffered : HashMap ScopeEntity MutationEvent
  versions : HashMap ScopeEntity Nat
  /-- What went onto the bus, oldest first. -/
  sent : List StoreEvent
  /-- How the coming calls of the database end: an error, or as they should. -/
  faults : List (Option Error)
  deriving DecidableEq

def Memory.new (faults : List (Option Error)) : Memory where
  db := Db.empty
  currentScope := none
  depth := 0
  buffered := ∅
  versions := ∅
  sent := []
  faults := faults

abbrev MemoryM := Fallible Memory Error

def callDb : MemoryM Unit := fun memory =>
  match memory.faults with
  | [] => (.ok (), memory)
  | none :: rest => (.ok (), { memory with faults := rest })
  | some error :: rest => (.error error, { memory with faults := rest })

section

variable [Database] (config : StoreConfig)

def isTopLevel (entity : String) : Bool := config.topLevelEntities.contains entity

def resolveScope (entity : String) (data : Record) : Option String :=
  if entity = config.rootEntity then recordId data
  else if isTopLevel config entity then some ""
  else refScope config data

def versionScope (entity scope : String) : String :=
  if isTopLevel config entity then "" else scope

/-- The root, the children and the top-level entities; the order of the last is that of a set. -/
def allScopedEntities : List String :=
  config.rootEntity :: config.childEntities ++ config.topLevelEntities.dedup

def getVersion (memory : Memory) (scope entity : String) : Nat :=
  getOr memory.versions (versionScope config entity scope, entity) 0

def bumpVersion (scope entity : String) (memory : Memory) : Memory :=
  { memory with versions := raise memory.versions (scope, entity) }

def bumpScopeVersions (scope : String) (memory : Memory) : Memory :=
  (allScopedEntities config).foldl
    (fun memory entity => bumpVersion (versionScope config entity scope) entity memory) memory

def removeScopeVersions (scope : String) (memory : Memory) : Memory :=
  { memory with versions := keepKeys (fun key => key.1 != scope) memory.versions }

def send (event : StoreEvent) (memory : Memory) : Memory :=
  { memory with sent := memory.sent ++ [event] }

def announce (memory : Memory) (event : MutationEvent) : Memory :=
  send (.mutation event)
    (bumpVersion (versionScope config event.entity event.scopeId) event.entity memory)

def emitMutation (event : MutationEvent) (memory : Memory) : Memory :=
  if 0 < memory.depth then
    { memory with buffered := memory.buffered.insert event.key event }
  else announce config memory event

def maxDepth : Nat := 4294967295

def beginBatch (memory : Memory) : Memory :=
  { memory with depth := min (memory.depth + 1) maxDepth }

/-- The end of the outermost batch drains the map in an order that is not specified. -/
def endBatch (order : List ScopeEntity) (memory : Memory) : Memory :=
  if memory.depth = 0 then memory
  else if 0 < memory.depth - 1 then { memory with depth := memory.depth - 1 }
  else
    (order.filterMap (fun key => memory.buffered.lookup key)).foldl (announce config)
      { memory with depth := 0, buffered := ∅ }

/-- What a mutation makes of the rows, the row it returns and the event it emits. -/
structure RowWrite where
  db : Db
  returned : Option Record
  event : Option MutationEvent
  deriving DecidableEq

def createRow (db : Db) (entity scope : String) (data : Record) (origin : Origin) : RowWrite :=
  let row := memoryRow config entity scope data
  let id := (recordId row).getD (Database.newId db)
  let record := (Database.created row).insert "id" (.string id)
  { db := db.create entity row
    returned := some record
    event := some
      { operation := .insert
        entity := entity
        id := id
        scopeId := (resolveScope config entity record).getD scope
        data := some record
        origin := origin } }

/-- An update of a row that names no scope emits nothing. -/
def updateRow (db : Db) (entity id : String) (fields : Record) (origin : Origin) :
    Option RowWrite :=
  (db.update entity id (stripNulls fields)).map (fun after =>
    let record := (after.rows.lookup (entity, id)).getD ∅
    { db := after
      returned := some record
      event := (resolveScope config entity record).map (fun scope =>
        { operation := .update
          entity := entity
          id := (recordId record).getD id
          scopeId := scope
          data := some record
          origin := origin }) })

def deleteRow (db : Db) (entity id : String) (origin : Origin) : Option RowWrite :=
  (db.delete entity id).map (fun after =>
    { db := after
      returned := none
      event := some
        { operation := .delete
          entity := entity
          id := id
          scopeId := ((db.rows.lookup (entity, id)).bind (resolveScope config entity)).getD ""
          data := none
          origin := origin } })

def RowWrite.apply (write : RowWrite) (memory : Memory) : Memory :=
  match write.event with
  | some event => emitMutation config event { memory with db := write.db }
  | none => { memory with db := write.db }

def carryOut (write : RowWrite) : MemoryM (Option Record) := do
  change (write.apply config)
  pure write.returned

def carryFound (entity id : String) : Option RowWrite → MemoryM (Option Record)
  | some write => carryOut config write
  | none => settle (.error (.notFound entity id))

def create (entity scope : String) (data : Record) (origin : Origin) :
    MemoryM (Option Record) := do
  callDb
  let db ← inspect Memory.db
  carryOut config (createRow config db entity scope data origin)

def update (entity id : String) (fields : Record) (origin : Origin) :
    MemoryM (Option Record) := do
  callDb
  let db ← inspect Memory.db
  carryFound config entity id (updateRow config db entity id fields origin)

/-- The row is read for its scope before it is deleted. -/
def delete (entity id : String) (origin : Origin) : MemoryM (Option Record) := do
  callDb
  callDb
  let db ← inspect Memory.db
  carryFound config entity id (deleteRow config db entity id origin)

def listed (scope entity : String) (memory : Memory) : List Record :=
  memory.db.list entity (inScope config entity scope)

/-- The swap of the rows and what follows from it, once the fresh database is filled. -/
def swapScope (scope : String) (bundle : ScopeBundle) (memory : Memory) : Memory :=
  let swapped :=
    { memory with
      db := createRows (bundleRows config bundle), currentScope := some scope }
  let released :=
    match memory.currentScope with
    | some previous =>
      if previous ≠ scope then
        send (.scopeCleared previous (allScopedEntities config))
          (removeScopeVersions previous swapped)
      else swapped
    | none => swapped
  send (.scopeLoaded scope (allScopedEntities config)) (bumpScopeVersions config scope released)

def loadScope (scope : String) (bundle : ScopeBundle) : MemoryM Unit := do
  callDb
  each (fun _ => callDb) (bundleRows config bundle)
  change (swapScope config scope bundle)

/-- The rows of every scope go, whichever scope is cleared. -/
def dropScope (scope : String) (memory : Memory) : Memory :=
  send (.scopeCleared scope (allScopedEntities config))
    (removeScopeVersions scope
      { memory with
        db := Db.empty
        currentScope := if memory.currentScope = some scope then none else memory.currentScope })

def clearScope (scope : String) : MemoryM Unit := do
  callDb
  change (dropScope config scope)

inductive Mutation where
  | create (entity scope : String) (data : Record) (origin : Origin)
  | update (entity id : String) (fields : Record) (origin : Origin)
  | delete (entity id : String) (origin : Origin)
  deriving DecidableEq

inductive Call where
  | mutate (mutation : Mutation)
  | loadScope (scope : String) (bundle : ScopeBundle)
  | clearScope (scope : String)
  | beginBatch
  | endBatch (order : List ScopeEntity)
  deriving DecidableEq

def mutate : Mutation → MemoryM (Option Record)
  | .create entity scope data origin => create config entity scope data origin
  | .update entity id fields origin => update config entity id fields origin
  | .delete entity id origin => delete config entity id origin

def serve : Call → MemoryM Unit
  | .mutate mutation => do
    let _ ← mutate config mutation
  | .loadScope scope bundle => loadScope config scope bundle
  | .clearScope scope => clearScope config scope
  | .beginBatch => change beginBatch
  | .endBatch order => change (endBatch config order)

def Drains (memory : Memory) : Call → Prop
  | .endBatch order => Visits order memory.buffered
  | _ => True

instance (memory : Memory) : (call : Call) → Decidable (Drains memory call)
  | .endBatch order => inferInstanceAs (Decidable (Visits order memory.buffered))
  | .mutate _ => isTrue trivial
  | .loadScope _ _ => isTrue trivial
  | .clearScope _ => isTrue trivial
  | .beginBatch => isTrue trivial

def step (memory : Memory) (call : Call) : Option Memory :=
  if Drains memory call then some (serve config call memory).2 else none

def rowWrite (db : Db) : Mutation → Option RowWrite
  | .create entity scope data origin => some (createRow config db entity scope data origin)
  | .update entity id fields origin => updateRow config db entity id fields origin
  | .delete entity id origin => deleteRow config db entity id origin

/-- What a call makes of the store when it succeeds; none when it cannot. -/
def effect (memory : Memory) : Call → Option Memory
  | .mutate mutation =>
    (rowWrite config memory.db mutation).map (fun write => write.apply config memory)
  | .loadScope scope bundle => some (swapScope config scope bundle memory)
  | .clearScope scope => some (dropScope config scope memory)
  | .beginBatch => some (beginBatch memory)
  | .endBatch order => some (endBatch config order memory)

variable {config}

omit [Database] in
theorem call_db_cases (memory : Memory) :
    ∃ rest, callDb memory = (.ok (), { memory with faults := rest }) ∨
      ∃ error, callDb memory = (.error error, { memory with faults := rest }) := by
  unfold callDb
  split
  · rename_i calm
    exact ⟨[], .inl (by rw [← calm])⟩
  · rename_i rest _
    exact ⟨rest, .inl rfl⟩
  · rename_i error rest _
    exact ⟨rest, .inr ⟨error, rfl⟩⟩

omit [Database] in
theorem each_call_db_cases {Item : Type} (items : List Item) (memory : Memory) :
    ∃ rest, each (fun _ => callDb) items memory = (.ok (), { memory with faults := rest }) ∨
      ∃ error, each (fun _ => callDb) items memory =
        (.error error, { memory with faults := rest }) := by
  induction items generalizing memory with
  | nil => exact ⟨memory.faults, .inl rfl⟩
  | cons item rest ih =>
    obtain ⟨left, well | ⟨error, failed⟩⟩ := call_db_cases memory
    · obtain ⟨later, ran⟩ := ih { memory with faults := left }
      refine ⟨later, ?_⟩
      have first : each (fun _ => callDb) (item :: rest) memory =
          each (fun _ => callDb) rest { memory with faults := left } := bind_of_ok well
      rw [first]
      exact ran
    · exact ⟨left, .inr ⟨error, bind_of_error failed⟩⟩

/-- A mutation carries out its write, or fails and leaves no trace. -/
theorem mutate_cases (mutation : Mutation) (memory : Memory) :
    ∃ rest, (∃ write, rowWrite config memory.db mutation = some write ∧
        mutate config mutation memory =
          (.ok write.returned, write.apply config { memory with faults := rest })) ∨
      ∃ error, mutate config mutation memory =
        (.error error, { memory with faults := rest }) := by
  cases mutation with
  | create entity scope data origin =>
    obtain ⟨rest, well | ⟨error, failed⟩⟩ := call_db_cases memory
    · exact ⟨rest, .inl ⟨_, rfl, bind_of_ok well⟩⟩
    · exact ⟨rest, .inr ⟨error, bind_of_error failed⟩⟩
  | update entity id fields origin =>
    obtain ⟨rest, well | ⟨error, failed⟩⟩ := call_db_cases memory
    · refine ⟨rest, ?_⟩
      have ran : update config entity id fields origin memory = carryFound config entity id
          (updateRow config memory.db entity id fields origin)
            { memory with faults := rest } := bind_of_ok well
      rw [mutate, ran, rowWrite]
      cases updateRow config memory.db entity id fields origin with
      | none => exact .inr ⟨_, rfl⟩
      | some write => exact .inl ⟨write, rfl, rfl⟩
    · exact ⟨rest, .inr ⟨error, bind_of_error failed⟩⟩
  | delete entity id origin =>
    obtain ⟨left, read | ⟨error, failed⟩⟩ := call_db_cases memory
    · obtain ⟨rest, well | ⟨error, failed⟩⟩ := call_db_cases { memory with faults := left }
      · refine ⟨rest, ?_⟩
        have ran : delete config entity id origin memory = carryFound config entity id
            (deleteRow config memory.db entity id origin)
              { memory with faults := rest } := by
          rw [delete, bind_of_ok read, bind_of_ok well]
          rfl
        rw [mutate, ran, rowWrite]
        cases deleteRow config memory.db entity id origin with
        | none => exact .inr ⟨_, rfl⟩
        | some write => exact .inl ⟨write, rfl, rfl⟩
      · refine ⟨rest, .inr ⟨error, ?_⟩⟩
        rw [mutate, delete, bind_of_ok read]
        exact bind_of_error failed
    · exact ⟨left, .inr ⟨error, bind_of_error failed⟩⟩

theorem serve_cases (call : Call) (memory : Memory) :
    ∃ rest, (∃ after, effect config { memory with faults := rest } call = some after ∧
        serve config call memory = (.ok (), after)) ∨
      ∃ error, serve config call memory = (.error error, { memory with faults := rest }) := by
  cases call with
  | mutate mutation =>
    obtain ⟨rest, ⟨write, written, ran⟩ | ⟨error, failed⟩⟩ :=
      @mutate_cases _ config mutation memory
    · refine ⟨rest, .inl ⟨write.apply config { memory with faults := rest }, ?_, ?_⟩⟩
      · rw [effect, written, Option.map_some]
      · rw [serve, bind_of_ok ran]
        rfl
    · exact ⟨rest, .inr ⟨error, bind_of_error failed⟩⟩
  | loadScope scope bundle =>
    obtain ⟨left, opened | ⟨error, failed⟩⟩ := call_db_cases memory
    · obtain ⟨rest, filled | ⟨error, failed⟩⟩ := each_call_db_cases (bundleRows config bundle)
        { memory with faults := left }
      · refine ⟨rest, .inl ⟨_, rfl, ?_⟩⟩
        rw [serve, loadScope, bind_of_ok opened, bind_of_ok filled]
        rfl
      · refine ⟨rest, .inr ⟨error, ?_⟩⟩
        rw [serve, loadScope, bind_of_ok opened]
        exact bind_of_error failed
    · exact ⟨left, .inr ⟨error, bind_of_error failed⟩⟩
  | clearScope scope =>
    obtain ⟨rest, opened | ⟨error, failed⟩⟩ := call_db_cases memory
    · exact ⟨rest, .inl ⟨_, rfl, bind_of_ok opened⟩⟩
    · exact ⟨rest, .inr ⟨error, bind_of_error failed⟩⟩
  | beginBatch | endBatch order => exact ⟨memory.faults, .inl ⟨_, rfl, rfl⟩⟩

theorem step_cases {memory after : Memory} {call : Call}
    (taken : step config memory call = some after) :
    Drains memory call ∧ ∃ rest,
      effect config { memory with faults := rest } call = some after ∨
        after = { memory with faults := rest } := by
  rw [step] at taken
  split_ifs at taken with drains
  refine ⟨drains, ?_⟩
  obtain ⟨rest, ⟨reached, takes, ran⟩ | ⟨error, failed⟩⟩ := @serve_cases _ config call memory
  · rw [ran] at taken
    cases taken
    exact ⟨rest, .inl takes⟩
  · rw [failed] at taken
    cases taken
    exact ⟨rest, .inr rfl⟩

variable (config)

def Mutation.entity : Mutation → String
  | .create entity _ _ _ => entity
  | .update entity _ _ _ => entity
  | .delete entity _ _ => entity

def targetId (db : Db) : Mutation → String
  | .create entity scope data _ =>
    (recordId (memoryRow config entity scope data)).getD (Database.newId db)
  | .update _ id _ _ => id
  | .delete _ id _ => id

variable {config}

theorem row_write_cases {db : Db} {mutation : Mutation} {write : RowWrite}
    (written : rowWrite config db mutation = some write) :
    (∃ row, write.db = db.put mutation.entity (targetId config db mutation) row ∧
      ∀ scope, resolveScope config mutation.entity
          (row.insert "id" (.string (targetId config db mutation))) = some scope →
        ∃ event, write.event = some event ∧ event.key = (scope, mutation.entity)) ∨
    (∃ row, db.rows.lookup (mutation.entity, targetId config db mutation) = some row ∧
      write.db = db.remove mutation.entity (targetId config db mutation) ∧
      ∀ scope, resolveScope config mutation.entity row = some scope →
        ∃ event, write.event = some event ∧ event.key = (scope, mutation.entity)) := by
  cases mutation with
  | create entity scope data origin =>
    cases written
    refine .inl ⟨_, rfl, ?_⟩
    intro found resolves
    refine ⟨_, rfl, ?_⟩
    exact congrArg (fun named => (named.getD scope, entity)) resolves
  | update entity id fields origin =>
    obtain ⟨after, found, made⟩ := Option.map_eq_some_iff.mp written
    obtain ⟨row, held, same⟩ := Option.map_eq_some_iff.mp found
    subst made
    refine .inl ⟨_, same.symm, ?_⟩
    intro scope resolves
    have stored : (after.rows.lookup (entity, id)).getD ∅ =
        (Database.updated (stripNulls fields) row).insert "id" (.string id) := by
      rw [← same, Db.lookup_put_self, Option.getD_some]
    have resolved : resolveScope config entity ((after.rows.lookup (entity, id)).getD ∅) =
        some scope := by
      rw [stored]
      exact resolves
    dsimp only
    rw [resolved]
    exact ⟨_, rfl, rfl⟩
  | delete entity id origin =>
    obtain ⟨after, found, made⟩ := Option.map_eq_some_iff.mp written
    obtain ⟨row, held, same⟩ := Option.map_eq_some_iff.mp found
    subst made
    refine .inr ⟨row, held, same.symm, ?_⟩
    intro scope resolves
    refine ⟨_, rfl, ?_⟩
    have named : ((db.rows.lookup (entity, id)).bind (resolveScope config entity)).getD "" =
        scope := by
      rw [held, Option.bind_some, show resolveScope config entity row = some scope from resolves,
        Option.getD_some]
    exact congrArg (fun found => (found, entity)) named

/-- The counters a load of the scope raises, each as often as its entity is listed. -/
def loadKeys (config : StoreConfig) (scope : String) : List ScopeEntity :=
  (allScopedEntities config).map (fun entity => (versionScope config entity scope, entity))

theorem bump_scope_versions_eq (scope : String) (memory : Memory) :
    bumpScopeVersions config scope memory =
      { memory with versions := (loadKeys config scope).foldl raise memory.versions } := by
  rw [bumpScopeVersions, loadKeys]
  induction allScopedEntities config generalizing memory with
  | nil => rfl
  | cons entity rest ih =>
    rw [List.foldl_cons, ih, List.map_cons, List.foldl_cons]
    rfl

def versionKey (config : StoreConfig) (event : MutationEvent) : ScopeEntity :=
  (versionScope config event.entity event.scopeId, event.entity)

theorem announce_all_eq (events : List MutationEvent) (memory : Memory) :
    events.foldl (announce config) memory =
      { memory with
        versions := (events.map (versionKey config)).foldl raise memory.versions
        sent := memory.sent ++ events.map .mutation } := by
  induction events generalizing memory with
  | nil => simp
  | cons event rest ih =>
    rw [List.foldl_cons, ih, List.map_cons, List.map_cons, List.foldl_cons]
    simp [announce, send, bumpVersion, versionKey]

def loadedVersions (config : StoreConfig) (scope : String) (previous : Option String)
    (versions : HashMap ScopeEntity Nat) : HashMap ScopeEntity Nat :=
  (loadKeys config scope).foldl raise
    (match previous with
    | some replaced =>
      if replaced ≠ scope then keepKeys (fun key => key.1 != replaced) versions else versions
    | none => versions)

theorem swap_scope_eq (scope : String) (bundle : ScopeBundle) (memory : Memory) :
    ∃ events, swapScope config scope bundle memory =
      { memory with
        db := createRows (bundleRows config bundle)
        currentScope := some scope
        versions := loadedVersions config scope memory.currentScope memory.versions
        sent := memory.sent ++ events } := by
  unfold loadedVersions
  rw [swapScope, bump_scope_versions_eq]
  cases memory.currentScope with
  | none => exact ⟨_, rfl⟩
  | some previous =>
    dsimp only
    split_ifs with other
    · refine ⟨[.scopeCleared previous (allScopedEntities config),
        .scopeLoaded scope (allScopedEntities config)], ?_⟩
      simp [send, removeScopeVersions]
    · exact ⟨_, rfl⟩

theorem emit_mutation_frame (event : MutationEvent) (memory : Memory) :
    (emitMutation config event memory).db = memory.db ∧
      (emitMutation config event memory).currentScope = memory.currentScope ∧
      (emitMutation config event memory).faults = memory.faults := by
  unfold emitMutation
  split_ifs
  · exact ⟨rfl, rfl, rfl⟩
  · exact ⟨rfl, rfl, rfl⟩

theorem apply_frame (write : RowWrite) (memory : Memory) :
    (write.apply config memory).db = write.db ∧
      (write.apply config memory).currentScope = memory.currentScope ∧
      (write.apply config memory).faults = memory.faults := by
  rw [RowWrite.apply]
  cases write.event with
  | none => exact ⟨rfl, rfl, rfl⟩
  | some event => exact emit_mutation_frame event { memory with db := write.db }

variable {memory : Memory} {store : LocalState}

end

end Stitch.Client.MemoryStore
