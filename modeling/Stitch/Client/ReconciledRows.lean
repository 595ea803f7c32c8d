import Stitch.Client.EventReplay

/-!
# What a reconcile makes of each row

`reconcile_children` makes three passes: over the fetched records, over the queued writes of
rows that neither side has, and over the local rows the server does not list. With a database
that does not fail its effect is given here row by row, over either layer.
-/

namespace Stitch.Client.ReconciledRows

open Foundation.FiniteMap Foundation.FallibleState Mutations Consolidation LocalRows ScopeSync
open EventReplay

section

variable [Database] (config : StoreConfig) (persisted : Bool)

def putRow (db : Db) : Put → Db
  | .update entity id fields => (db.update entity id (stripNulls fields)).getD db
  | .create entity data =>
    db.create entity (storedForm config persisted entity data)
  | .tryCreate entity data =>
    db.create entity (storedForm config persisted entity data)
  | .delete entity id => (db.delete entity id).getD db

def putTarget : Put → Option RowKey
  | .update entity id _ => some (entity, id)
  | .create entity data => (recordId data).map (fun id => (entity, id))
  | .tryCreate entity data => (recordId data).map (fun id => (entity, id))
  | .delete entity id => some (entity, id)

def putChange (id : String) (put : Put) (row : Option Record) : Option Record :=
  match put with
  | .update _ _ fields =>
    row.map (fun held => (Database.updated (stripNulls fields) held).insert "id" (.string id))
  | .create entity data =>
    some ((Database.created (storedForm config persisted entity data)).insert "id" (.string id))
  | .tryCreate entity data =>
    some ((Database.created (storedForm config persisted entity data)).insert "id" (.string id))
  | .delete _ _ => none

variable {config persisted}

theorem stored_form_id {entity id : String} {data : Record} (carries : recordId data = some id) :
    recordId (storedForm config persisted entity data) = some id := by
  unfold storedForm
  cases persisted with
  | false => exact memory_row_id (lookup_record_id carries) entity _
  | true => rw [if_pos rfl, record_id_stripped, carries]

theorem stored_form_root (data : Record) :
    storedForm config persisted config.rootEntity data = stripNulls data := by
  simp [storedForm, memoryRow, isScoped]

variable {put : Put} {key : RowKey}

theorem lookup_put_row {target : RowKey} (settled : putTarget put = some target) (db : Db)
    (key : RowKey) :
    (putRow config persisted db put).rows.lookup key =
      if key = target then putChange config persisted target.2 put (db.rows.lookup key)
      else db.rows.lookup key := by
  have created : ∀ entity data, (recordId data).map (fun id => (entity, id)) = some target →
      (db.create entity (storedForm config persisted entity data)).rows.lookup key =
        if key = target then
          some ((Database.created (storedForm config persisted entity data)).insert "id" (.string target.2))
        else db.rows.lookup key := by
    intro entity data named
    obtain ⟨id, carries, whole⟩ := Option.map_eq_some_iff.mp named
    subst whole
    rw [Db.create, stored_form_id carries, Option.getD_some]
    split_ifs with here
    · rw [here, Db.lookup_put_self]
    · exact Db.lookup_put_other db _ here
  cases put with
  | update entity id fields =>
    cases settled
    rw [putRow, Db.update, putChange]
    split_ifs with here
    · rw [here]
      cases held : db.rows.lookup (entity, id) with
      | none => exact held
      | some row => exact Db.lookup_put_self db entity id _
    · cases db.rows.lookup (entity, id) with
      | none => rfl
      | some row => exact Db.lookup_put_other db _ here
  | create entity data | tryCreate entity data => exact created entity data settled
  | delete entity id =>
    cases settled
    exact Db.lookup_deleted db entity id key

theorem lookup_put_rows {puts : List Put} (settled : ∀ put ∈ puts, (putTarget put).isSome)
    (db : Db) (key : RowKey) :
    (puts.foldl (putRow config persisted) db).rows.lookup key =
      (puts.filter (fun put => putTarget put = some key)).foldl
        (fun row put => putChange config persisted key.2 put row) (db.rows.lookup key) := by
  induction puts generalizing db with
  | nil => rfl
  | cons put rest ih =>
    obtain ⟨target, named⟩ := Option.isSome_iff_exists.mp (settled put List.mem_cons_self)
    have later : ∀ other ∈ rest, (putTarget other).isSome := by
      intro other member
      exact settled other (List.mem_cons_of_mem put member)
    rw [List.foldl_cons, ih later, lookup_put_row named]
    by_cases here : key = target
    · have selected : decide (putTarget put = some key) = true := by
        rw [named, here]
        exact decide_eq_true rfl
      rw [List.filter_cons, if_pos selected, List.foldl_cons, if_pos here, here]
    · have passed : ¬ decide (putTarget put = some key) = true := by
        rw [named, decide_eq_true_eq, Option.some.injEq]
        exact Ne.symm here
      rw [List.filter_cons, if_neg passed, if_neg here]

def putEntity : Put → String
  | .update entity _ _ => entity
  | .create entity _ => entity
  | .tryCreate entity _ => entity
  | .delete entity _ => entity

theorem lookup_put_row_entity (db : Db) (other : key.1 ≠ putEntity put) :
    (putRow config persisted db put).rows.lookup key = db.rows.lookup key := by
  have apart : ∀ id, key ≠ (putEntity put, id) := by
    intro id same
    rw [same] at other
    exact other rfl
  cases put with
  | update entity id _ | delete entity id =>
    have away : key ≠ (entity, id) := apart id
    rw [lookup_put_row rfl, if_neg away]
  | create entity data | tryCreate entity data => exact Db.lookup_put_other db _ (apart _)

theorem has_put_row {db : Db} (present : has db key = true)
    (kept : ∀ entity id, put ≠ .delete entity id) :
    has (putRow config persisted db put) key = true := by
  have placed : ∀ entity id row, has (db.put entity id row) key = true := by
    intro entity id row
    exact has_put.mpr (.inr present)
  cases put with
  | update entity id fields =>
    rw [putRow, Db.update]
    cases db.rows.lookup (entity, id) with
    | none => exact present
    | some row => exact placed entity id _
  | create entity data | tryCreate entity data => exact placed entity _ _
  | delete entity id => exact absurd rfl (kept entity id)

variable {state : LocalState}

theorem run_put_calm (calm : state.faults = []) {put : Put}
    (found : ∀ entity id fields, put = .update entity id fields →
      has (localDb state) (entity, id) = true) :
    runPut config put state =
      (.ok (), storeLocal (putRow config state.persistence.isSome (localDb state) put)
        state) := by
  cases put with
  | update entity id fields =>
    obtain ⟨row, held⟩ := Option.isSome_iff_exists.mp (found entity id fields rfl)
    have updated : (localDb state).update entity id (stripNulls fields) =
        some ((localDb state).put entity id (Database.updated (stripNulls fields) row)) := by
      rw [Db.update, held, Option.map_some]
    rw [runPut, accessor_update_calm calm updated, putRow, updated, Option.getD_some]
  | create entity data => exact accessor_create_calm calm entity data
  | tryCreate entity data =>
    rw [runPut, bind_attempt, accessor_create_calm calm]
    rfl
  | delete entity id => exact accessor_delete_calm calm entity id

theorem run_puts_cons {put : Put} {rest : List Put} {after : LocalState}
    (written : after = storeLocal (putRow config state.persistence.isSome (localDb state) put)
      state)
    (ran : runPut config put state = (.ok (), after))
    (next : each (runPut config) rest after = (.ok (), storeLocal
      (rest.foldl (putRow config after.persistence.isSome) (localDb after)) after)) :
    each (runPut config) (put :: rest) state = (.ok (), storeLocal
      ((put :: rest).foldl (putRow config state.persistence.isSome) (localDb state))
        state) := by
  rw [each, bind_of_ok ran, next, written]
  simp only [local_db_store_local, store_local_persisted, store_local_twice, List.foldl_cons]

theorem run_writes_calm {writes : List Put} (calm : state.faults = [])
    (kept : ∀ put ∈ writes, ∀ entity id, put ≠ .delete entity id)
    (found : ∀ entity id fields, .update entity id fields ∈ writes →
      has (localDb state) (entity, id) = true) :
    each (runPut config) writes state =
      (.ok (), storeLocal (writes.foldl (putRow config state.persistence.isSome)
        (localDb state)) state) := by
  induction writes generalizing state with
  | nil =>
    rw [List.foldl_nil, store_local_same]
    rfl
  | cons put rest ih =>
    apply run_puts_cons rfl
    · apply run_put_calm calm
      intro entity id fields written
      exact found entity id fields (by rw [written]; exact List.mem_cons_self)
    · apply ih ((store_local_faults _ _).trans calm)
        (fun other member => kept other (List.mem_cons_of_mem put member))
      intro entity id fields member
      rw [local_db_store_local]
      exact has_put_row (found entity id fields (List.mem_cons_of_mem put member))
        (kept put List.mem_cons_self)

theorem run_deletes_calm (entity : String) {ids : List String} (calm : state.faults = []) :
    each (runPut config) (ids.map (fun id => .delete entity id)) state =
      (.ok (), storeLocal ((ids.map (fun id => Put.delete entity id)).foldl
        (putRow config state.persistence.isSome) (localDb state)) state) := by
  induction ids generalizing state with
  | nil =>
    rw [List.map_nil, List.foldl_nil, store_local_same]
    rfl
  | cons id rest ih =>
    apply run_puts_cons rfl
    · apply run_put_calm calm
      intro other key fields written
      cases written
    · exact ih ((store_local_faults _ _).trans calm)

variable (config) (scope : String)

def cleanedRecord (record : Record) : Record :=
  let stripped := stripNulls record
  if (stripped.lookup config.scopeField).isNone then
    stripped.insert config.scopeField (.string scope)
  else stripped

variable {config scope} {record : Record} {id : String}

omit [Database] in
theorem strip_nulls_no_null {field : String} : (stripNulls record).lookup field ≠ some .null := by
  rw [stripNulls, lookup_keepValues]
  intro null
  have kept := (Option.filter_eq_some_iff.mp null).2
  simp at kept

theorem cleaned_lookup (field : String) :
    (cleanedRecord config scope record).lookup field =
      ((stripNulls record).lookup field).or
        (if field = config.scopeField then some (.string scope) else none) := by
  rw [cleanedRecord]
  by_cases here : field = config.scopeField
  · rw [if_pos here, here]
    cases held : (stripNulls record).lookup config.scopeField with
    | none => rw [Option.isNone_none, if_pos rfl, Finmap.lookup_insert, Option.none_or]
    | some value => rw [Option.isNone_some, if_neg Bool.false_ne_true, held, Option.some_or]
  · rw [if_neg here, Option.or_none]
    split_ifs
    · exact Finmap.lookup_insert_of_ne _ here
    · rfl

theorem strip_nulls_cleaned :
    stripNulls (cleanedRecord config scope record) = cleanedRecord config scope record := by
  have noNull : ∀ field, (cleanedRecord config scope record).lookup field ≠ some .null := by
    intro field
    rw [cleaned_lookup]
    cases held : (stripNulls record).lookup field with
    | some value =>
      rw [Option.some_or, ← held]
      exact strip_nulls_no_null
    | none =>
      split_ifs
      · simp
      · simp
  apply Finmap.ext_lookup
  intro field
  rw [stripNulls, lookup_keepValues]
  cases held : (cleanedRecord config scope record).lookup field with
  | none => rfl
  | some value =>
    rw [Option.filter_some, if_pos]
    simp only [bne_iff_ne]
    intro null
    rw [null] at held
    exact noNull field held

theorem cleaned_id (identified : recordId record = some id) :
    (cleanedRecord config scope record).lookup "id" = some (.string id) := by
  rw [cleaned_lookup, strip_nulls_lookup (lookup_record_id identified) (by simp), Option.some_or]

theorem cleaned_scope_set :
    ((cleanedRecord config scope record).lookup config.scopeField).isSome = true := by
  rw [cleaned_lookup, if_pos rfl, Option.isSome_or]
  simp

theorem stored_form_cleaned (persisted : Bool) (entity : String) :
    storedForm config persisted entity (cleanedRecord config scope record) =
      cleanedRecord config scope record := by
  unfold storedForm
  cases persisted with
  | true => rw [if_pos rfl, strip_nulls_cleaned]
  | false =>
    rw [if_neg Bool.false_ne_true, memoryRow, strip_nulls_cleaned, if_neg]
    intro unset
    have set := @cleaned_scope_set _ config scope record
    rw [Option.isNone_iff_eq_none.mp unset.2] at set
    cases set

variable (config) (persisted) (scope) (entity : String) (records : List Record)
  (pending : List StoredRow) (db : Db)

def serverIds : List String := records.filterMap recordId

def localIds : List String := (db.list entity (inScope config entity scope)).filterMap recordId

def planWrites : List Put :=
  records.filterMap (serverPut config scope entity (localIds config scope entity db) pending) ++
    pending.filterMap (pendingPut entity (serverIds records) (localIds config scope entity db))

def planDeletes : List String :=
  (localIds config scope entity db).filter (fun id =>
    id ∉ serverIds records ∧ ∀ row ∈ pending, row.entityId ≠ id)

def reconciled : Db :=
  (reconcilePlan config scope entity records (db.list entity (inScope config entity scope))
    pending).foldl (putRow config persisted) db

variable {config persisted scope entity records pending db}

variable {id : String}

omit [Database] in
theorem mem_server_ids :
    id ∈ serverIds records ↔ ∃ record ∈ records, recordId record = some id :=
  List.mem_filterMap

theorem mem_local_ids :
    id ∈ localIds config scope entity db ↔
      ∃ row, db.rows.lookup (entity, id) = some row ∧ inScope config entity scope row = true := by
  rw [localIds, List.mem_filterMap]
  constructor
  · intro listed
    obtain ⟨row, member, identified⟩ := listed
    obtain ⟨⟨other, held⟩, inside⟩ := Db.mem_list.mp member
    have same : other = id := by
      rw [Db.record_id_of_lookup held] at identified
      exact Option.some.inj identified
    rw [same] at held
    exact ⟨row, held, inside⟩
  · intro held
    obtain ⟨row, found, inside⟩ := held
    exact ⟨row, Db.mem_list.mpr ⟨⟨id, found⟩, inside⟩, Db.record_id_of_lookup found⟩

variable {known : List String} {put : Put}

variable {record : Record}

theorem server_put_of_id (identified : recordId record = some id) :
    serverPut config scope entity known pending record =
      if hasPending pending .delete id || hasPending pending .update id then none
      else some (if id ∈ known then .update entity id (cleanedRecord config scope record)
        else .create entity (cleanedRecord config scope record)) := by
  rw [serverPut, identified]
  dsimp only
  by_cases held : (hasPending pending .delete id || hasPending pending .update id) = true
  · rw [if_pos held, if_pos held]
  · by_cases found : id ∈ known
    · rw [if_pos found, if_pos found]
      rfl
    · rw [if_neg found, if_neg found]
      rfl

theorem server_put_some (planned : serverPut config scope entity known pending record = some put) :
    ∃ id, recordId record = some id ∧
      put = if id ∈ known then .update entity id (cleanedRecord config scope record)
        else .create entity (cleanedRecord config scope record) := by
  cases identified : recordId record with
  | none =>
    rw [serverPut, identified] at planned
    cases planned
  | some id =>
    rw [server_put_of_id identified] at planned
    by_cases held : (hasPending pending .delete id || hasPending pending .update id) = true
    · rw [if_pos held] at planned
      cases planned
    · rw [if_neg held] at planned
      exact ⟨id, rfl, (Option.some.inj planned).symm⟩

theorem server_put_target (identified : recordId record = some id)
    (planned : serverPut config scope entity known pending record = some put) :
    putTarget put = some (entity, id) := by
  obtain ⟨other, named, made⟩ := server_put_some planned
  rw [identified] at named
  cases named
  rw [made]
  split_ifs
  · rfl
  · rw [putTarget, recordId, cleaned_id identified]
    rfl

omit [Database] in
theorem pending_put_some {row : StoredRow} {listed : List String}
    (planned : pendingPut entity listed known row = some put) :
    row.op ≠ .delete ∧ row.entityId ∉ listed ∧ row.entityId ∉ known ∧
      ∃ data, row.data = some data ∧ put = .tryCreate entity data := by
  rw [pendingPut] at planned
  split_ifs at planned with passed
  obtain ⟨data, carries, made⟩ := Option.map_eq_some_iff.mp planned
  push Not at passed
  exact ⟨passed.1, passed.2.1, passed.2.2, data, carries, made.symm⟩

variable {state : LocalState}

theorem reconcile_puts_calm (calm : state.faults = []) :
    reconcilePuts config scope entity records state =
      (.ok (reconcilePlan config scope entity records
        ((localDb state).list entity (inScope config entity scope))
        (pendingFor (state.queue.getD []) scope entity)), state) := by
  have asked : pendingForScope scope entity state =
      (.ok (pendingFor (state.queue.getD []) scope entity), state) := by
    rw [pendingForScope, bind_inspect]
    cases state.queue with
    | none => rfl
    | some rows => exact bind_of_ok (db_call_calm calm)
  rw [reconcilePuts, bind_of_ok (accessor_list_calm calm entity scope), bind_of_ok asked]
  rfl

theorem plan_parts :
    reconcilePlan config scope entity records (db.list entity (inScope config entity scope))
        pending =
      planWrites config scope entity records pending db ++
        (planDeletes config scope entity records pending db).map (fun id => .delete entity id) :=
  rfl

theorem plan_writes_kept (put : Put)
    (planned : put ∈ planWrites config scope entity records pending db)
    (other id : String) : put ≠ .delete other id := by
  rcases List.mem_append.mp planned with served | queued
  · obtain ⟨record, _, made⟩ := List.mem_filterMap.mp served
    obtain ⟨found, _, put⟩ := server_put_some made
    rw [put]
    split_ifs
    · exact Put.noConfusion
    · exact Put.noConfusion
  · obtain ⟨row, _, made⟩ := List.mem_filterMap.mp queued
    obtain ⟨_, _, _, data, _, put⟩ := pending_put_some made
    rw [put]
    exact Put.noConfusion

theorem plan_writes_found (other id : String) (fields : Record)
    (planned : .update other id fields ∈ planWrites config scope entity records pending db) :
    has db (other, id) = true := by
  rcases List.mem_append.mp planned with served | queued
  · obtain ⟨record, _, made⟩ := List.mem_filterMap.mp served
    obtain ⟨found, _, put⟩ := server_put_some made
    split_ifs at put with known
    cases put
    obtain ⟨row, held, _⟩ := mem_local_ids.mp known
    rw [has, held]
    rfl
  · obtain ⟨row, _, made⟩ := List.mem_filterMap.mp queued
    obtain ⟨_, _, _, data, _, put⟩ := pending_put_some made
    cases put

theorem reconciled_other_entity {key : RowKey} (other : key.1 ≠ entity) :
    (reconciled config persisted scope entity records pending db).rows.lookup key =
      db.rows.lookup key := by
  have within : ∀ put ∈ reconcilePlan config scope entity records
      (db.list entity (inScope config entity scope)) pending, putEntity put = entity := by
    intro put planned
    rcases List.mem_append.mp planned with written | deleted
    · rcases List.mem_append.mp written with served | queued
      · obtain ⟨record, _, made⟩ := List.mem_filterMap.mp served
        obtain ⟨id, _, same⟩ := server_put_some made
        rw [same]
        split_ifs
        · rfl
        · rfl
      · obtain ⟨row, _, made⟩ := List.mem_filterMap.mp queued
        obtain ⟨_, _, _, data, _, same⟩ := pending_put_some made
        rw [same]
        rfl
    · obtain ⟨id, _, same⟩ := List.mem_map.mp deleted
      rw [← same]
      rfl
  rw [reconciled]
  generalize reconcilePlan config scope entity records
    (db.list entity (inScope config entity scope)) pending = puts at within
  induction puts generalizing db with
  | nil => rfl
  | cons put rest ih =>
    rw [List.foldl_cons, ih (fun later member => within later (List.mem_cons_of_mem put member)),
      lookup_put_row_entity]
    rw [within put List.mem_cons_self]
    exact other

theorem reconcile_children_calm (calm : state.faults = []) :
    reconcileChildren config scope entity records state =
      (.ok (), storeLocal (reconciled config state.persistence.isSome scope entity records
        (pendingFor (state.queue.getD []) scope entity) (localDb state)) state) := by
  rw [reconcileChildren, bind_of_ok (reconcile_puts_calm calm), reconciled, plan_parts,
    each_append, bind_of_ok (run_writes_calm calm plan_writes_kept plan_writes_found)]
  have deleted := @run_deletes_calm _ config (storeLocal ((planWrites config scope entity
    records (pendingFor (state.queue.getD []) scope entity) (localDb state)).foldl
      (putRow config state.persistence.isSome) (localDb state)) state) entity
    (planDeletes config scope entity records (pendingFor (state.queue.getD []) scope entity)
      (localDb state))
  simp only [local_db_store_local, store_local_faults, store_local_persisted,
    store_local_twice] at deleted
  rw [deleted calm, List.foldl_append]

variable (config) (persisted) (scope entity) (records) (pending) (db)

/-- A fetched record merges into a row that is local and otherwise is the new row. -/
def adopt (id : String) (row : Option Record) (record : Record) : Option Record :=
  if id ∈ localIds config scope entity db then
    row.map (fun held => Database.updated (cleanedRecord config scope record) held)
  else some (Database.created (cleanedRecord config scope record))

def afterServer (id : String) (row : Option Record) : Option Record :=
  if hasPending pending .delete id || hasPending pending .update id then row
  else (records.filter (fun record => recordId record = some id)).foldl
    (adopt config scope entity db id) row

/-- A queued write of a row that neither side has is created on its own. -/
def createQueued (id : String) (row : Option Record) (queued : StoredRow) : Option Record :=
  match queued.op, queued.data with
  | .delete, _ => row
  | _, none => row
  | _, some data => some ((Database.created (storedForm config persisted entity data)).insert "id" (.string id))

def afterPending (id : String) (row : Option Record) : Option Record :=
  if id ∈ serverIds records ∨ id ∈ localIds config scope entity db then row
  else (pending.filter (fun queued => queued.entityId = id)).foldl
    (createQueued config persisted entity id) row

def afterDeletes (id : String) (row : Option Record) : Option Record :=
  if id ∈ planDeletes config scope entity records pending db then none else row

/-- The queued writes that the second pass makes carry the id of their row. -/
def OwnIds : Prop :=
  ∀ queued ∈ pending, queued.op ≠ .delete → queued.entityId ∉ serverIds records →
    queued.entityId ∉ localIds config scope entity db →
      ∀ data, queued.data = some data → recordId data = some queued.entityId

variable {config persisted scope entity records pending db}

theorem put_change_server {record : Record} {id : String} (identified : recordId record = some id)
    (row : Option Record) :
    putChange config persisted id
        (if id ∈ localIds config scope entity db then
          .update entity id (cleanedRecord config scope record)
        else .create entity (cleanedRecord config scope record)) row =
      adopt config scope entity db id row record := by
  have named := @cleaned_id _ config scope record id identified
  rw [adopt]
  split_ifs
  · rw [putChange, strip_nulls_cleaned]
    apply congrArg (fun change => row.map change)
    funext held
    apply insert_of_lookup
    rw [Database.updated_lookup _ _ _ Database.id_kept, lookup_union, named, Option.some_or]
  · rw [putChange, stored_form_cleaned, insert_of_lookup]
    rw [Database.created_lookup _ _ Database.id_kept, named]

theorem pass_row {Item : Type} {items : List Item} {write : Item → Option Put}
    {rowOf : Item → Option String} {step : Option Record → Item → Option Record} {id : String}
    (target : ∀ item ∈ items, ∀ put, write item = some put →
      ∃ own, rowOf item = some own ∧ putTarget put = some (entity, own))
    (change : ∀ item ∈ items, rowOf item = some id → ∀ held,
      (write item).elim held (fun put => putChange config persisted id put held) = step held item)
    (row : Option Record) :
    ((items.filterMap write).filter (fun put => putTarget put = some (entity, id))).foldl
        (fun held put => putChange config persisted id put held) row =
      (items.filter (fun item => rowOf item = some id)).foldl step row := by
  apply foldl_selected
  intro item member held
  cases made : write item with
  | none =>
    split_ifs with here
    · rw [← change item member (of_decide_eq_true here), made]
      rfl
    · rfl
  | some put =>
    obtain ⟨own, named, about⟩ := target item member put made
    rw [Option.filter_some, about, named]
    by_cases here : own = id
    · subst here
      rw [if_pos (decide_eq_true rfl), if_pos (decide_eq_true rfl),
        ← change item member named, made]
    · rw [if_neg (by simpa using here), if_neg (by simpa using here)]
      rfl

theorem server_pass_row (id : String) (row : Option Record) :
    ((records.filterMap (serverPut config scope entity (localIds config scope entity db)
        pending)).filter (fun put => putTarget put = some (entity, id))).foldl
          (fun held put => putChange config persisted id put held) row =
      afterServer config scope entity records pending db id row := by
  have target : ∀ record ∈ records, ∀ put, serverPut config scope entity
      (localIds config scope entity db) pending record = some put →
        ∃ own, recordId record = some own ∧ putTarget put = some (entity, own) := by
    intro record _ put made
    obtain ⟨own, identified, _⟩ := server_put_some made
    exact ⟨own, identified, server_put_target identified made⟩
  unfold afterServer
  split_ifs with queued
  · refine (pass_row target ?_ row).trans (List.foldl_fixed _)
    intro record _ identified held
    rw [server_put_of_id identified, if_pos queued]
    rfl
  · apply pass_row target
    intro record _ identified held
    rw [server_put_of_id identified, if_neg queued]
    exact put_change_server identified held

theorem pending_put_target (own : OwnIds config scope entity records pending db)
    {queued : StoredRow} (member : queued ∈ pending) {put : Put}
    (made : pendingPut entity (serverIds records) (localIds config scope entity db) queued =
      some put) : putTarget put = some (entity, queued.entityId) := by
  obtain ⟨write, unlisted, unknown, data, carries, planned⟩ := pending_put_some made
  rw [planned, putTarget, own queued member write unlisted unknown data carries]
  rfl

theorem pending_pass_row (own : OwnIds config scope entity records pending db) (id : String)
    (row : Option Record) :
    ((pending.filterMap (pendingPut entity (serverIds records)
        (localIds config scope entity db))).filter
          (fun put => putTarget put = some (entity, id))).foldl
            (fun held put => putChange config persisted id put held) row =
      afterPending config persisted scope entity records pending db id row := by
  have target : ∀ queued ∈ pending, ∀ put, pendingPut entity (serverIds records)
      (localIds config scope entity db) queued = some put →
        ∃ id, some queued.entityId = some id ∧ putTarget put = some (entity, id) := by
    intro queued member put made
    exact ⟨queued.entityId, rfl, pending_put_target own member made⟩
  have selected : pending.filter (fun queued => queued.entityId = id) =
      pending.filter (fun queued => some queued.entityId = some id) := by
    simp only [Option.some.injEq]
  unfold afterPending
  rw [selected]
  split_ifs with known
  · refine (pass_row target ?_ row).trans (List.foldl_fixed _)
    intro queued _ here held
    cases here
    rw [pendingPut, if_pos (.inr known)]
    rfl
  · apply pass_row target
    intro queued _ here held
    cases here
    rw [createQueued, pendingPut]
    cases queued.op with
    | delete =>
      rfl
    | _ =>
      rw [if_neg (by simpa using known)]
      cases queued.data with
      | none | some data => rfl

theorem delete_pass_row (ids : List String) (id : String) (row : Option Record) :
    ((ids.map (fun id => Put.delete entity id)).filter
        (fun put => putTarget put = some (entity, id))).foldl
          (fun held put => putChange config persisted id put held) row =
      if id ∈ ids then none else row := by
  induction ids generalizing row with
  | nil => rfl
  | cons first rest ih =>
    by_cases here : first = id
    · subst here
      rw [List.map_cons, List.filter_cons, putTarget, if_pos (decide_eq_true rfl),
        List.foldl_cons, putChange, ih]
      simp
    · have away : decide (putTarget (.delete entity first) = some (entity, id)) = false := by
        rw [putTarget]
        simpa using here
      have same : (id ∈ first :: rest) = (id ∈ rest) := by
        simp [List.mem_cons, Ne.symm here]
      simp only [List.map_cons, List.filter_cons, away, same]
      exact ih row

theorem plan_settled (own : OwnIds config scope entity records pending db) :
    ∀ put ∈ reconcilePlan config scope entity records
      (db.list entity (inScope config entity scope)) pending,
        ∃ id, putTarget put = some (entity, id) := by
  intro put planned
  rcases List.mem_append.mp planned with written | deleted
  · rcases List.mem_append.mp written with served | queued
    · obtain ⟨record, _, made⟩ := List.mem_filterMap.mp served
      obtain ⟨id, identified, _⟩ := server_put_some made
      exact ⟨id, server_put_target identified made⟩
    · obtain ⟨row, member, made⟩ := List.mem_filterMap.mp queued
      exact ⟨row.entityId, pending_put_target own member made⟩
  · obtain ⟨id, _, made⟩ := List.mem_map.mp deleted
    rw [← made]
    exact ⟨id, rfl⟩

theorem reconciled_row (own : OwnIds config scope entity records pending db) (id : String) :
    (reconciled config persisted scope entity records pending db).rows.lookup (entity, id) =
      afterDeletes config scope entity records pending db id
        (afterPending config persisted scope entity records pending db id
          (afterServer config scope entity records pending db id
            (db.rows.lookup (entity, id)))) := by
  have settled := plan_settled own
  rw [reconciled, lookup_put_rows (fun put planned => by
    obtain ⟨target, named⟩ := settled put planned
    rw [named]
    rfl), plan_parts, planWrites, List.filter_append, List.filter_append, List.foldl_append,
    List.foldl_append, server_pass_row, pending_pass_row own, delete_pass_row]
  rfl

end

end Stitch.Client.ReconciledRows
