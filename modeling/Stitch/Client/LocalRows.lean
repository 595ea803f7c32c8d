import Mathlib.Data.List.AList
import Stitch.Foundation.FallibleState
import Stitch.Client.Consolidation

/-!
# The local rows of a store

A store keeps its rows in the persistence layer when one is configured and always has the memory
cache. What the embedded database makes of the data of a row is a parameter, with the laws the
store relies on. Every call of the database can fail; the outcomes of the coming calls are part
of the state.
-/

namespace Stitch.Client.LocalRows

open Foundation.FiniteMap Foundation.FallibleState Mutations Consolidation

def recordId (record : Record) : Option String := (record.lookup "id").bind Value.asStr

def stripNulls (record : Record) : Record := keepValues (fun value => value != .null) record

/-- The embedded database; a row always carries the id it is stored under. -/
structure Db where
  rows : AList (fun _ : RowKey => Record)
  keyed : ∀ key row, rows.lookup key = some row → row.lookup "id" = some (.string key.2)
  deriving DecidableEq

namespace Db

def empty : Db where
  rows := ∅
  keyed := by
    intro key row held
    cases held

def put (db : Db) (entity id : String) (row : Record) : Db where
  rows := db.rows.insert (entity, id) (row.insert "id" (.string id))
  keyed := by
    intro key other held
    by_cases here : key = (entity, id)
    · subst here
      rw [AList.lookup_insert] at held
      rw [← Option.some.inj held, Finmap.lookup_insert]
    · rw [AList.lookup_insert_ne here] at held
      exact db.keyed key other held

def remove (db : Db) (entity id : String) : Db where
  rows := db.rows.erase (entity, id)
  keyed := by
    intro key row held
    by_cases here : key = (entity, id)
    · subst here
      rw [AList.lookup_erase] at held
      cases held
    · rw [AList.lookup_erase_ne here] at held
      exact db.keyed key row held

def delete (db : Db) (entity id : String) : Option Db :=
  (db.rows.lookup (entity, id)).map (fun _ => db.remove entity id)

/-- The rows of an entity that pass a filter. -/
def list (db : Db) (entity : String) (filter : Record → Bool) : List Record :=
  db.rows.entries.filterMap
    (fun entry => if entry.1.1 = entity ∧ filter entry.2 then some entry.2 else none)

theorem lookup_put_self (db : Db) (entity id : String) (row : Record) :
    (db.put entity id row).rows.lookup (entity, id) = some (row.insert "id" (.string id)) :=
  AList.lookup_insert db.rows

variable {entity id listed : String} {key : RowKey} {db : Db} {filter : Record → Bool}
  {row : Record}

theorem lookup_put_other (db : Db) (row : Record) (different : key ≠ (entity, id)) :
    (db.put entity id row).rows.lookup key = db.rows.lookup key :=
  AList.lookup_insert_ne different

theorem lookup_remove_self (db : Db) (entity id : String) :
    (db.remove entity id).rows.lookup (entity, id) = none :=
  AList.lookup_erase (entity, id) db.rows

theorem lookup_remove_other (db : Db) (different : key ≠ (entity, id)) :
    (db.remove entity id).rows.lookup key = db.rows.lookup key :=
  AList.lookup_erase_ne different

theorem lookup_deleted (db : Db) (entity id : String) (key : RowKey) :
    ((db.delete entity id).getD db).rows.lookup key =
      if key = (entity, id) then none else db.rows.lookup key := by
  rw [delete]
  split_ifs with here
  · rw [here]
    cases held : db.rows.lookup (entity, id) with
    | none => exact held
    | some row => exact lookup_remove_self db entity id
  · cases db.rows.lookup (entity, id) with
    | none => rfl
    | some row => exact lookup_remove_other db here

theorem mem_list :
    row ∈ db.list entity filter ↔
      (∃ id, db.rows.lookup (entity, id) = some row) ∧ filter row := by
  rw [list, List.mem_filterMap]
  constructor
  · intro listed
    obtain ⟨⟨⟨other, id⟩, held⟩, member, selected⟩ := listed
    split_ifs at selected with chosen
    cases selected
    obtain ⟨same, passes⟩ := chosen
    refine ⟨⟨id, ?_⟩, passes⟩
    rw [← same]
    exact AList.mem_lookup_iff.mpr member
  · intro held
    obtain ⟨⟨id, found⟩, passes⟩ := held
    refine ⟨⟨(entity, id), row⟩, AList.mem_lookup_iff.mp found, ?_⟩
    rw [if_pos ⟨rfl, passes⟩]

theorem list_remove (unlisted : ∀ row, db.rows.lookup (entity, id) = some row →
      ¬ (entity = listed ∧ filter row = true)) :
    (db.remove entity id).list listed filter = db.list listed filter := by
  apply filterMap_kerase
  intro row member
  rw [if_neg (unlisted row (AList.mem_lookup_iff.mpr member))]

theorem list_put (before : ∀ held, db.rows.lookup (entity, id) = some held →
      ¬ (entity = listed ∧ filter held = true))
    (after : ¬ (entity = listed ∧ filter (row.insert "id" (.string id)) = true)) :
    (db.put entity id row).list listed filter = db.list listed filter := by
  rw [list, put, AList.entries_insert, List.filterMap_cons, if_neg after]
  exact list_remove before

theorem record_id_of_lookup (held : db.rows.lookup key = some row) : recordId row = some key.2 := by
  rw [recordId, db.keyed key row held]
  rfl

end Db

structure LocalState where
  persistence : Option Db
  memory : Db
  memoryScope : Option String
  currentScope : Option String
  serverSynced : Bool
  /-- The queued rows of the current user, when a queue is configured. -/
  queue : Option (List StoredRow)
  /-- How the coming calls of the database end: an error, or as they should. -/
  faults : List (Option Error)
  /-- For specification: the accessor's rows when the last open had replayed its buffer. -/
  reconciled : Db
  deriving DecidableEq

abbrev StoreM := Fallible LocalState Error

def dbCall : StoreM Unit := fun state =>
  match state.faults with
  | [] => (.ok (), state)
  | none :: rest => (.ok (), { state with faults := rest })
  | some error :: rest => (.error error, { state with faults := rest })

def localDb (state : LocalState) : Db := state.persistence.getD state.memory

def storeLocal (db : Db) (state : LocalState) : LocalState :=
  match state.persistence with
  | some _ => { state with persistence := some db }
  | none => { state with memory := db }

def accessorRead (entity id : String) : StoreM (Option Record) := do
  dbCall
  inspect (fun state => (localDb state).rows.lookup (entity, id))

def storeFound (entity id : String) : Option Db → StoreM Unit
  | some db => change (storeLocal db)
  | none => settle (.error (.notFound entity id))

def deleteRow (entity id : String) : StoreM Unit := do
  dbCall
  dbCall
  let found ← inspect (fun state => (localDb state).delete entity id)
  storeFound entity id found

/-- The accessor reports no failed delete. -/
def accessorDelete (entity id : String) : StoreM Unit := do
  let _ ← attempt (deleteRow entity id)

def storeMemory (entity id : String) : Option Db → StoreM Unit
  | some db => change (fun state => { state with memory := db })
  | none => settle (.error (.notFound entity id))

def memoryDelete (entity id : String) : StoreM Unit := do
  dbCall
  dbCall
  let found ← inspect (fun state => state.memory.delete entity id)
  storeMemory entity id found

theorem keeps_db_call {Holds : LocalState → Prop}
    (faults : ∀ state rest, Holds state → Holds { state with faults := rest }) :
    Keeps Holds dbCall := by
  intro state holds
  unfold dbCall
  split
  · exact holds
  · exact faults state _ holds
  · exact faults state _ holds

@[simp] theorem local_db_store_local (db : Db) (state : LocalState) :
    localDb (storeLocal db state) = db := by
  obtain ⟨persistence, _⟩ := state
  cases persistence with
  | none | some held => rfl

@[simp] theorem store_local_faults (db : Db) (state : LocalState) :
    (storeLocal db state).faults = state.faults := by
  obtain ⟨persistence, _⟩ := state
  cases persistence with
  | none | some held => rfl

@[simp] theorem store_local_queue (db : Db) (state : LocalState) :
    (storeLocal db state).queue = state.queue := by
  obtain ⟨persistence, _⟩ := state
  cases persistence with
  | none | some held => rfl

@[simp] theorem store_local_persisted (db : Db) (state : LocalState) :
    (storeLocal db state).persistence.isSome = state.persistence.isSome := by
  obtain ⟨persistence, _⟩ := state
  cases persistence with
  | none | some held => rfl

@[simp] theorem store_local_twice (first second : Db) (state : LocalState) :
    storeLocal second (storeLocal first state) = storeLocal second state := by
  obtain ⟨persistence, _⟩ := state
  cases persistence with
  | none | some held => rfl

@[simp] theorem store_local_same (state : LocalState) :
    storeLocal (localDb state) state = state := by
  obtain ⟨persistence, _⟩ := state
  cases persistence with
  | none | some held => rfl

theorem db_call_cases (state : LocalState) :
    ∃ rest, dbCall state = (.ok (), { state with faults := rest }) ∨
      ∃ error, dbCall state = (.error error, { state with faults := rest }) := by
  unfold dbCall
  split
  · rename_i calm
    exact ⟨[], .inl (by rw [← calm])⟩
  · rename_i rest _
    exact ⟨rest, .inl rfl⟩
  · rename_i error rest _
    exact ⟨rest, .inr ⟨error, rfl⟩⟩

variable {state : LocalState}

theorem db_call_calm (calm : state.faults = []) :
    dbCall state = (.ok (), state) := by
  rw [dbCall, calm]

theorem accessor_read_cases (state : LocalState) (entity id : String) :
    ∃ rest, accessorRead entity id state =
        (.ok ((localDb state).rows.lookup (entity, id)), { state with faults := rest }) ∨
      ∃ error, accessorRead entity id state = (.error error, { state with faults := rest }) := by
  obtain ⟨rest, well | ⟨error, failed⟩⟩ := db_call_cases state
  · exact ⟨rest, .inl (bind_of_ok well)⟩
  · exact ⟨rest, .inr ⟨error, bind_of_error failed⟩⟩

theorem accessor_read_calm (calm : state.faults = []) (entity id : String) :
    accessorRead entity id state = (.ok ((localDb state).rows.lookup (entity, id)), state) :=
  bind_of_ok (db_call_calm calm)

theorem delete_row_calm (calm : state.faults = []) (entity id : String) :
    (deleteRow entity id state).2 =
      storeLocal (((localDb state).delete entity id).getD (localDb state)) state := by
  rw [deleteRow, bind_of_ok (db_call_calm calm), bind_of_ok (db_call_calm calm), bind_inspect]
  cases (localDb state).delete entity id with
  | none =>
    rw [Option.getD_none, store_local_same]
    rfl
  | some after => rfl

theorem accessor_delete_calm (calm : state.faults = []) (entity id : String) :
    accessorDelete entity id state =
      (.ok (), storeLocal (((localDb state).delete entity id).getD (localDb state)) state) := by
  rw [accessorDelete, bind_attempt, delete_row_calm calm]
  rfl

/-- What the embedded database makes of the data it is given. It sets or fills in some fields by
itself, such as the number of a row's version; the others it stores as they are given. -/
class Database where
  newId : Db → String
  own : String → Bool
  created : Record → Record
  updated : Record → Record → Record
  id_kept : own "id" = false
  created_lookup : ∀ data field, own field = false →
    (created data).lookup field = data.lookup field
  updated_lookup : ∀ fields row field, own field = false →
    (updated fields row).lookup field = (fields ∪ row).lookup field

/-- An id that is longer than those of all rows. -/
def longId (db : Db) : String :=
  (db.rows.entries.map (fun entry => entry.1.2)).foldr (fun id joined => id ++ joined) "generated"

/-- A database that counts the versions of a row in a field of its own. -/
instance versioned : Database where
  newId := longId
  own field := field == "_version"
  created data := data.insert "_version" (.number 1)
  updated fields row := (fields ∪ row).insert "_version"
    (.number (((row.lookup "_version").bind Value.asU64).getD 0 + 1))
  id_kept := rfl
  created_lookup := by
    intro data field kept
    exact Finmap.lookup_insert_of_ne _ (beq_eq_false_iff_ne.mp kept)
  updated_lookup := by
    intro fields row field kept
    exact Finmap.lookup_insert_of_ne _ (beq_eq_false_iff_ne.mp kept)

section

variable [Database]

structure StoreConfig where
  rootEntity : String
  childEntities : List String
  scopeField : String
  topLevelEntities : List String
  versionField : String
  updatedAtField : String
  /-- The database stores the scope field as it is given. -/
  scopeKept : Database.own scopeField = false
  deriving DecidableEq

def StoreConfig.Separated (config : StoreConfig) : Prop :=
  ∀ child ∈ config.childEntities,
    child ≠ config.rootEntity ∧ child ∉ config.topLevelEntities

instance (config : StoreConfig) : Decidable config.Separated :=
  inferInstanceAs (Decidable (∀ child ∈ config.childEntities,
    child ≠ config.rootEntity ∧ child ∉ config.topLevelEntities))

/-- The database stores the version and the time of a row as they are given. -/
def StoreConfig.Stamped (config : StoreConfig) : Prop :=
  Database.own config.versionField = false ∧ Database.own config.updatedAtField = false

namespace Db

/-- Creating a row under an id that exists replaces the row. -/
def create (db : Db) (entity : String) (data : Record) : Db :=
  db.put entity ((recordId data).getD (Database.newId db)) (Database.created data)

def update (db : Db) (entity id : String) (fields : Record) : Option Db :=
  (db.rows.lookup (entity, id)).map (fun row => db.put entity id (Database.updated fields row))

end Db

section

variable {data fields row : Record} {field : String}

/-- The record without the fields that the database sets itself. -/
def kept (row : Record) : Record := keepKeys (fun field => !Database.own field) row

theorem lookup_kept (row : Record) (given : Database.own field = false) :
    (kept row).lookup field = row.lookup field := by
  rw [kept, lookup_keepKeys, given]
  rfl

variable {left right : Record}

theorem kept_eq_iff : kept left = kept right ↔
    ∀ field, Database.own field = false → left.lookup field = right.lookup field := by
  constructor
  · intro same field given
    rw [← lookup_kept left given, same, lookup_kept right given]
  · intro same
    apply Finmap.ext_lookup
    intro field
    rw [kept, kept, lookup_keepKeys, lookup_keepKeys]
    cases given : Database.own field with
    | true => rfl
    | false => exact same field given

theorem kept_created (data : Record) : kept (Database.created data) = kept data :=
  kept_eq_iff.mpr (Database.created_lookup data)

theorem kept_updated (fields row : Record) :
    kept (Database.updated fields row) = kept (fields ∪ row) :=
  kept_eq_iff.mpr (Database.updated_lookup fields row)

/-- A field that the database stores as it is given and under whatever id. -/
def Ordinary (field : String) : Prop := field ≠ "id" ∧ Database.own field = false

theorem lookup_created (ordinary : Ordinary field) (id : Value) :
    ((Database.created data).insert "id" id).lookup field = data.lookup field := by
  rw [Finmap.lookup_insert_of_ne _ ordinary.1, Database.created_lookup _ _ ordinary.2]

theorem lookup_updated (ordinary : Ordinary field) (id : Value) :
    ((Database.updated fields row).insert "id" id).lookup field =
      (fields.lookup field).or (row.lookup field) := by
  rw [Finmap.lookup_insert_of_ne _ ordinary.1, Database.updated_lookup _ _ _ ordinary.2,
    lookup_union]

theorem kept_insert_congr (same : kept left = kept right) (field : String) (value : Value) :
    kept (left.insert field value) = kept (right.insert field value) := by
  rw [kept_eq_iff] at same ⊢
  intro other given
  by_cases here : other = field
  · rw [here, Finmap.lookup_insert, Finmap.lookup_insert]
  · rw [Finmap.lookup_insert_of_ne _ here, Finmap.lookup_insert_of_ne _ here, same other given]

theorem kept_union_congr (same : kept left = kept right) (fields : Record) :
    kept (fields ∪ left) = kept (fields ∪ right) := by
  rw [kept_eq_iff] at same ⊢
  intro field given
  rw [lookup_union, lookup_union, same field given]

end

/-- The row of a key, without the fields that the database sets itself. -/
def Db.seen (db : Db) (key : RowKey) : Option Record := (db.rows.lookup key).map kept

theorem Db.seen_put_self (db : Db) (entity id : String) (row : Record) :
    (db.put entity id row).seen (entity, id) = some (kept (row.insert "id" (.string id))) := by
  rw [seen, lookup_put_self]
  rfl

section

variable (config : StoreConfig)

def isScoped (entity : String) : Bool :=
  !(entity == config.rootEntity || config.topLevelEntities.contains entity)

/-- The filter of `list_by_scope` and of the memory cache's `list`. -/
def inScope (entity scope : String) (row : Record) : Bool :=
  !isScoped config entity || row.lookup config.scopeField == some (.string scope)

def refScope (data : Record) : Option String :=
  (data.lookup config.scopeField).bind Value.asStr

def memoryRow (entity scope : String) (data : Record) : Record :=
  let stripped := stripNulls data
  if isScoped config entity ∧ (stripped.lookup config.scopeField).isNone then
    stripped.insert config.scopeField (.string scope)
  else stripped

def createdRow (state : LocalState) (entity : String) (data : Record) : Record :=
  match state.persistence with
  | some _ => stripNulls data
  | none => memoryRow config entity ((refScope config data).getD "") data

def accessorList (entity scope : String) : StoreM (List Record) := do
  dbCall
  inspect (fun state => (localDb state).list entity (inScope config entity scope))

def accessorCreate (entity : String) (data : Record) : StoreM Unit := do
  dbCall
  change (fun state =>
    storeLocal ((localDb state).create entity (createdRow config state entity data)) state)

def accessorUpdate (entity id : String) (fields : Record) : StoreM Unit := do
  dbCall
  let found ← inspect (fun state => (localDb state).update entity id (stripNulls fields))
  storeFound entity id found

def memoryCreate (entity scope : String) (data : Record) : StoreM Unit := do
  dbCall
  change (fun state =>
    { state with memory := state.memory.create entity (memoryRow config entity scope data) })

def memoryUpdate (entity id : String) (fields : Record) : StoreM Unit := do
  dbCall
  let found ← inspect (fun state => state.memory.update entity id (stripNulls fields))
  storeMemory entity id found

structure ScopeBundle where
  root : Option Record
  children : List (String × List Record)
  deriving DecidableEq

def persistedChild (db : Db) (scope entity : String) : StoreM (String × List Record) := do
  dbCall
  pure (entity, db.list entity (inScope config entity scope))

def loadBundleFromPersistence (scope : String) : StoreM ScopeBundle := do
  match ← inspect LocalState.persistence with
  | none => pure { root := none, children := [] }
  | some db => do
    dbCall
    let children ← gather (persistedChild config db scope) config.childEntities
    pure { root := db.rows.lookup (config.rootEntity, scope), children }

def bundleRows (bundle : ScopeBundle) : List (String × Record) :=
  (bundle.root.map (fun root => (config.rootEntity, root))).toList ++
    bundle.children.flatMap (fun child => child.2.map (fun record => (child.1, record)))

def createRows (rows : List (String × Record)) : Db :=
  rows.foldl (fun db row => db.create row.1 row.2) Db.empty

/-- `MemoryStore::load_scope`: fill a fresh database, then swap it in with its scope. -/
def loadScope (scope : String) (bundle : ScopeBundle) : StoreM Unit := do
  dbCall
  each (fun _ => dbCall) (bundleRows config bundle)
  change (fun state =>
    { state with
      memory := createRows (bundleRows config bundle), memoryScope := some scope })

variable {config}

/-- What `create` stores of the data, in a persistent store and in one without persistence. -/
def storedForm (config : StoreConfig) (persisted : Bool) (entity : String) (data : Record) :
    Record :=
  if persisted then stripNulls data
  else memoryRow config entity ((refScope config data).getD "") data

theorem created_row_form (state : LocalState) (entity : String) (data : Record) :
    createdRow config state entity data =
      storedForm config state.persistence.isSome entity data := by
  unfold createdRow storedForm
  cases state.persistence with
  | none | some rows => rfl

variable {state : LocalState}

theorem accessor_list_calm (calm : state.faults = []) (entity scope : String) :
    accessorList config entity scope state =
      (.ok ((localDb state).list entity (inScope config entity scope)), state) :=
  bind_of_ok (db_call_calm calm)

theorem accessor_create_calm (calm : state.faults = []) (entity : String) (data : Record) :
    accessorCreate config entity data state =
      (.ok (), storeLocal ((localDb state).create entity
        (storedForm config state.persistence.isSome entity data)) state) := by
  rw [← created_row_form]
  exact bind_of_ok (db_call_calm calm)

variable {entity id : String} {fields : Record}

theorem accessor_update_calm (calm : state.faults = []) {after : Db}
    (found : (localDb state).update entity id (stripNulls fields) = some after) :
    accessorUpdate entity id fields state = (.ok (), storeLocal after state) := by
  rw [accessorUpdate, bind_of_ok (db_call_calm calm), bind_inspect, found]
  rfl

theorem accessor_update_missing (calm : state.faults = [])
    (missing : (localDb state).update entity id (stripNulls fields) = none) :
    accessorUpdate entity id fields state = (.error (.notFound entity id), state) := by
  rw [accessorUpdate, bind_of_ok (db_call_calm calm), bind_inspect, missing]
  rfl

end

end

end Stitch.Client.LocalRows
