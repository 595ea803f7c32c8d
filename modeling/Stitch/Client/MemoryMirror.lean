import Stitch.Client.EventReplay
import Stitch.Client.ScopeReplacement

/-!
# The memory cache beside the persisted rows

A remote mutation is written to the persisted rows and then, when its payload says that it
concerns the open scope, to the memory cache. An update merges into the persisted row whatever
it carries, but reaches the cache only if it names the open scope itself.
-/

namespace Stitch.Client.MemoryMirror

open Foundation.FiniteMap Foundation.FallibleState Foundation.GuardedRuns Mutations Consolidation
open LocalRows ScopeSync EventReplay ScopeReplacement

section

variable [Database] (config : StoreConfig)

def mirrorCreated (memory : Db) (mutation : SyncMutation) (data : Record) :
    Option String → Db
  | none => memory
  | some scope => memory.put mutation.entity mutation.id (Database.created
      (memoryRow config mutation.entity scope (data.insert "id" (.string mutation.id))))

def mirrored (memory : Db) (mutation : SyncMutation) : Db :=
  match mutation.op, mutation.data with
  | .insert, some data =>
    mirrorCreated config memory mutation data (mirrorScope config mutation data (recordId data))
  | .update, some data =>
    match memory.rows.lookup mutation.key with
    | some row => memory.put mutation.entity mutation.id (Database.updated (stripNulls data) row)
    | none => mirrorCreated config memory mutation data
        (mirrorScope config mutation data (some mutation.id))
  | .delete, _ => (memory.delete mutation.entity mutation.id).getD memory
  | _, none => memory

def memoryAfter (db memory : Db) (current : Option String) (mutation : SyncMutation) : Db :=
  if wasApplied config db mutation ∧
      belongsToMemory config mutation current (memory.rows.lookup mutation.key) then
    mirrored config memory mutation
  else memory

variable {config}

theorem record_id_memory_row (entity scope : String) (data : Record) (id : String) :
    recordId (memoryRow config entity scope (data.insert "id" (.string id))) = some id :=
  memory_row_id (Finmap.lookup_insert _) entity scope

variable {state : LocalState}

theorem mirror_create_quiet (quiet : state.faults = []) (mutation : SyncMutation) (data : Record)
    (scope : Option String) :
    (mirrorCreate config mutation data scope state).2 =
      { state with memory := mirrorCreated config state.memory mutation data scope } := by
  cases scope with
  | none => rfl
  | some scope =>
    have called : dbCall state = (.ok (), state) := by rw [dbCall, quiet]
    rw [mirrorCreate, bind_attempt, memoryCreate, bind_of_ok called, change, Db.create,
      record_id_memory_row, Option.getD_some]
    rfl

theorem mirror_quiet (quiet : state.faults = []) (mutation : SyncMutation) :
    (mirrorRemoteToMemory config mutation state).2 =
      { state with memory := mirrored config state.memory mutation } := by
  have called : dbCall state = (.ok (), state) := by rw [dbCall, quiet]
  unfold mirrorRemoteToMemory mirrored
  cases mutation.op with
  | insert =>
    cases mutation.data with
    | none => rfl
    | some data => exact mirror_create_quiet quiet mutation data _
  | update =>
    cases mutation.data with
    | none => rfl
    | some data =>
      dsimp only
      rw [bind_attempt, memoryUpdate, bind_of_ok called, bind_inspect, Db.update,
        SyncMutation.key]
      cases held : state.memory.rows.lookup (mutation.entity, mutation.id) with
      | none => exact mirror_create_quiet quiet mutation data _
      | some row => rfl
  | delete =>
    dsimp only
    rw [bind_attempt, memoryDelete, bind_of_ok called, bind_of_ok called, bind_inspect]
    cases state.memory.delete mutation.entity mutation.id with
    | none | some after => rfl

theorem handle_remote_mutation_quiet {db : Db} (quiet : Quiet db state) (mutation : SyncMutation) :
    (handleRemoteMutation config mutation state).2 =
      { state with
        persistence := some (applied config db mutation)
        memory := memoryAfter config db state.memory state.currentScope mutation } := by
  rw [handleRemoteMutation, bind_attempt, apply_mutation_quiet quiet mutation, bind_inspect,
    memoryAfter]
  cases wasApplied config db mutation with
  | false => rfl
  | true =>
    change ((if belongsToMemory config mutation state.currentScope
      (state.memory.rows.lookup mutation.key) then mirrorRemoteToMemory config mutation
        else pure () : StoreM Unit) (withRows (applied config db mutation) state)).2 = _
    by_cases belongs : belongsToMemory config mutation state.currentScope
        (state.memory.rows.lookup mutation.key) = true
    · have wrote : (withRows (applied config db mutation) state).faults = [] := quiet.faults
      rw [if_pos belongs, if_pos ⟨rfl, belongs⟩]
      exact mirror_quiet wrote mutation
    · rw [if_neg belongs, if_neg (fun both => belongs both.2)]
      rfl

variable {scope : String} {db memory : Db} {mutation : SyncMutation}

/-- The cache holds exactly the persisted rows of the open scope, its root and the children that
name it, but for the fields that the database sets itself. -/
structure Mirrors (config : StoreConfig) (scope : String) (state : LocalState) : Prop where
  faults : state.faults = []
  current : state.currentScope = some scope
  rows : ∃ db, state.persistence = some db ∧ ∀ key,
    key = (config.rootEntity, scope) ∨ key.1 ∈ config.childEntities → ∀ row,
      state.memory.seen key = some row ↔ db.seen key = some row ∧ OfScope config scope key row

def CarriesAll (data row : Record) : Prop :=
  ∀ field, Ordinary field → (row.lookup field).isSome → ((stripNulls data).lookup field).isSome

/-- A row shown in the cache is always written with the open scope, an update that brings a row in
carries all of it, and the root is inserted with its id. -/
structure Located (config : StoreConfig) (scope : String) (db : Db) (mutation : SyncMutation) :
    Prop where
  shown : mutation.entity ∈ config.childEntities → ∀ data, mutation.data = some data →
    ∀ row, db.rows.lookup mutation.key = some row →
      row.lookup config.scopeField = some (.string scope) → refScope config data = some scope
  entering : mutation.entity ∈ config.childEntities → mutation.op = .update →
    ∀ data, mutation.data = some data → refScope config data = some scope →
      ∀ row, db.rows.lookup mutation.key = some row →
        row.lookup config.scopeField ≠ some (.string scope) → CarriesAll data row
  root : mutation.key = (config.rootEntity, scope) → mutation.op = .insert →
    ∀ data, mutation.data = some data → (recordId data).isSome

/-- Entities play one role each and the scope field is not the id. -/
structure Plain (config : StoreConfig) : Prop where
  separated : config.Separated
  scopeField : config.scopeField ≠ "id"

variable {key : RowKey}

theorem mirrored_other (different : key ≠ mutation.key) :
    (mirrored config memory mutation).rows.lookup key = memory.rows.lookup key := by
  have created : ∀ data scope,
      (mirrorCreated config memory mutation data scope).rows.lookup key =
        memory.rows.lookup key := by
    intro data scope
    cases scope with
    | none => rfl
    | some scope => exact Db.lookup_put_other memory _ different
  unfold mirrored
  cases mutation.op with
  | insert =>
    cases mutation.data with
    | none => rfl
    | some data => exact created data _
  | update =>
    cases mutation.data with
    | none => rfl
    | some data =>
      cases memory.rows.lookup mutation.key with
      | none => exact created data _
      | some row => exact Db.lookup_put_other memory _ different
  | delete =>
    dsimp only [Db.delete]
    cases memory.rows.lookup (mutation.entity, mutation.id) with
    | none => rfl
    | some row => exact Db.lookup_remove_other memory different

theorem memory_after_other {current : Option String} (different : key ≠ mutation.key) :
    (memoryAfter config db memory current mutation).rows.lookup key = memory.rows.lookup key := by
  unfold memoryAfter
  split_ifs
  · exact mirrored_other different
  · rfl

def insertedRow (id : String) (data : Record) : Record :=
  (Database.created (stripNulls (data.insert "id" (.string id)))).insert "id" (.string id)

def mergedRow (id : String) (data existing : Record) : Record :=
  (Database.updated (stripNulls data) existing).insert "id" (.string id)

theorem kept_merged_congr {left right : Record} (id : String) (data : Record)
    (same : kept left = kept right) :
    kept (mergedRow id data left) = kept (mergedRow id data right) := by
  apply kept_insert_congr
  rw [kept_updated, kept_updated]
  exact kept_union_congr same _

theorem applied_of_not (unapplied : wasApplied config db mutation = false) :
    applied config db mutation = db := by
  unfold wasApplied at unapplied
  unfold applied
  cases op : mutation.op with
  | insert =>
    cases carries : mutation.data with
    | none => rfl
    | some data =>
      rw [op, carries] at unapplied
      rw [Bool.not_eq_false'] at unapplied
      dsimp only [Option.map_some, Option.getD_some]
      rw [appliedInsert, if_pos unapplied]
  | update =>
    cases carries : mutation.data with
    | none => rfl
    | some data =>
      rw [op, carries] at unapplied
      dsimp only [Option.map_some, Option.getD_some] at unapplied ⊢
      rw [appliedUpdate]
      cases held : db.rows.lookup mutation.key with
      | none => rfl
      | some existing =>
        rw [held] at unapplied
        dsimp only at unapplied ⊢
        rw [Bool.not_eq_false'] at unapplied
        rw [if_pos unapplied]
  | delete =>
    rw [op] at unapplied
    cases unapplied

variable {data : Record}

theorem applied_insert_lookup (op : mutation.op = .insert) (carries : mutation.data = some data)
    (done : wasApplied config db mutation = true) :
    (applied config db mutation).rows.lookup mutation.key =
      some (insertedRow mutation.id data) := by
  have rooted : rootAbsent config db data = false := by
    unfold wasApplied at done
    rw [op, carries] at done
    simpa using done
  rw [applied, op, carries]
  dsimp only [Option.map_some, Option.getD_some]
  rw [appliedInsert, rooted, if_neg Bool.false_ne_true]
  exact Db.lookup_put_self db mutation.entity mutation.id _

theorem applied_update_lookup (op : mutation.op = .update) (carries : mutation.data = some data)
    (done : wasApplied config db mutation = true) :
    ∃ existing, db.rows.lookup mutation.key = some existing ∧
      (applied config db mutation).rows.lookup mutation.key =
        some (mergedRow mutation.id data existing) := by
  unfold wasApplied at done
  rw [op, carries] at done
  cases held : db.rows.lookup mutation.key with
  | none =>
    rw [held] at done
    cases done
  | some existing =>
    rw [held] at done
    have newer : isOlder config data existing = false := by simpa using done
    refine ⟨existing, rfl, ?_⟩
    rw [applied_update_row op, held, carries, Option.map_some]
    dsimp only
    rw [newer, if_neg Bool.false_ne_true]
    rfl

def cachedRow (config : StoreConfig) (mutation : SyncMutation) (target : String)
    (data : Record) : Record :=
  (Database.created (memoryRow config mutation.entity target
    (data.insert "id" (.string mutation.id)))).insert "id" (.string mutation.id)

theorem mirrored_insert_lookup (memory : Db) {target : String} (op : mutation.op = .insert)
    (carries : mutation.data = some data)
    (placed : mirrorScope config mutation data (recordId data) = some target) :
    (mirrored config memory mutation).rows.lookup mutation.key =
      some (cachedRow config mutation target data) := by
  rw [mirrored, op, carries]
  dsimp only
  rw [placed]
  exact Db.lookup_put_self memory mutation.entity mutation.id _

theorem mirrored_update_lookup (config : StoreConfig) (memory : Db) (op : mutation.op = .update)
    (carries : mutation.data = some data) :
    (∀ row, memory.rows.lookup mutation.key = some row →
      (mirrored config memory mutation).rows.lookup mutation.key =
        some (mergedRow mutation.id data row)) ∧
    ∀ target, memory.rows.lookup mutation.key = none →
      mirrorScope config mutation data (some mutation.id) = some target →
        (mirrored config memory mutation).rows.lookup mutation.key =
          some (cachedRow config mutation target data) := by
  rw [mirrored, op, carries]
  dsimp only
  refine ⟨?_, ?_⟩
  · intro row held
    rw [held]
    exact Db.lookup_put_self memory mutation.entity mutation.id _
  · intro target absent placed
    rw [absent, placed]
    exact Db.lookup_put_self memory mutation.entity mutation.id _

theorem mirrored_delete_lookup (op : mutation.op = .delete) :
    (mirrored config memory mutation).rows.lookup mutation.key = none := by
  rw [mirrored, op]
  dsimp only [Db.delete, SyncMutation.key]
  cases held : memory.rows.lookup (mutation.entity, mutation.id) with
  | none => exact held
  | some row => exact Db.lookup_remove_self memory mutation.entity mutation.id

variable {row existing : Record}

theorem ref_scope_iff : refScope config data = some scope ↔
    data.lookup config.scopeField = some (.string scope) := by
  unfold refScope
  cases data.lookup config.scopeField with
  | none => simp
  | some value => cases value <;> simp [Value.asStr]

variable {id : String} {view : Db} {key : RowKey}

variable (plain : Plain config)

include plain

theorem cached_row_scoped {target : String} (named : refScope config data = some scope) :
    cachedRow config mutation target data = insertedRow mutation.id data := by
  have carried : (stripNulls (data.insert "id" (.string mutation.id))).lookup config.scopeField =
      some (.string scope) := by
    apply strip_nulls_lookup _ (by simp)
    rw [Finmap.lookup_insert_of_ne _ plain.scopeField]
    exact ref_scope_iff.mp named
  unfold cachedRow memoryRow insertedRow
  rw [if_neg]
  intro missing
  rw [carried] at missing
  exact absurd missing.2 (by simp)

theorem inserted_in_scope :
    (insertedRow id data).lookup config.scopeField = some (.string scope) ↔
      refScope config data = some scope := by
  unfold insertedRow
  rw [lookup_created ⟨plain.scopeField, config.scopeKept⟩, ref_scope_iff]
  constructor
  · intro kept
    have carried := lookup_of_strip_nulls kept
    rw [Finmap.lookup_insert_of_ne _ plain.scopeField] at carried
    exact carried
  · intro carried
    apply strip_nulls_lookup _ (by simp)
    rw [Finmap.lookup_insert_of_ne _ plain.scopeField]
    exact carried

theorem merged_in_scope :
    (mergedRow id data existing).lookup config.scopeField = some (.string scope) ↔
      refScope config data = some scope ∨
        (stripNulls data).lookup config.scopeField = none ∧
          existing.lookup config.scopeField = some (.string scope) := by
  unfold mergedRow
  rw [lookup_updated ⟨plain.scopeField, config.scopeKept⟩]
  cases carried : (stripNulls data).lookup config.scopeField with
  | none =>
    have unnamed : refScope config data ≠ some scope := by
      intro named
      rw [strip_nulls_lookup (ref_scope_iff.mp named) (by simp)] at carried
      cases carried
    simp [unnamed]
  | some value =>
    have original := lookup_of_strip_nulls carried
    rw [ref_scope_iff, original]
    simp

theorem belongs_child (child : mutation.entity ∈ config.childEntities)
    (carries : mutation.data = some data) (scope : String) (cached : Option Record) :
    belongsToMemory config mutation (some scope) cached = true ↔
      refScope config data = some scope := by
  obtain ⟨notRoot, notTop⟩ := plain.separated mutation.entity child
  simp [belongsToMemory, notRoot, notTop, carries]

theorem mirror_scope_child (child : mutation.entity ∈ config.childEntities)
    (named : refScope config data = some scope) (fallback : Option String) :
    mirrorScope config mutation data fallback = some scope := by
  obtain ⟨-, notTop⟩ := plain.separated mutation.entity child
  simp [mirrorScope, notTop, named]

omit plain

theorem merged_of_carries_all (all : CarriesAll data existing) :
    kept (mergedRow id data existing) = kept (insertedRow id data) := by
  apply kept_eq_iff.mpr
  intro field given
  unfold mergedRow insertedRow
  by_cases isId : field = "id"
  · rw [isId, Finmap.lookup_insert, Finmap.lookup_insert]
  · rw [lookup_updated ⟨isId, given⟩, lookup_created ⟨isId, given⟩]
    have same : (stripNulls (data.insert "id" (.string id))).lookup field =
        (stripNulls data).lookup field := by
      rw [stripNulls, stripNulls, lookup_keepValues, lookup_keepValues,
        Finmap.lookup_insert_of_ne _ isId]
    rw [same]
    cases carried : (stripNulls data).lookup field with
    | some value => rfl
    | none =>
      cases held : existing.lookup field with
      | none => rfl
      | some value =>
        have present := all field ⟨isId, given⟩ (by rw [held]; rfl)
        rw [carried] at present
        cases present

/-- The cache shows the child row that a mutation is about if and only if it is in scope. -/
def ShownInScope (config : StoreConfig) (scope : String) (db memory : Db) (key : RowKey) : Prop :=
  ∀ row, memory.seen key = some row ↔
    db.seen key = some row ∧ row.lookup config.scopeField = some (.string scope)

theorem shown_of_same {after : Db} {cached : Record} (held : after.rows.lookup key = some row)
    (found : view.rows.lookup key = some cached) (same : kept cached = kept row)
    (inside : row.lookup config.scopeField = some (.string scope)) :
    ShownInScope config scope after view key := by
  intro other
  rw [Db.seen, Db.seen, held, found, Option.map_some, Option.map_some, same, Option.some_inj]
  refine (and_iff_left_of_imp fun shown => ?_).symm
  rw [← shown, lookup_kept row config.scopeKept]
  exact inside

theorem shown_of_absent {after : Db} (absent : view.rows.lookup key = none)
    (outside : ∀ row, after.rows.lookup key = some row →
      row.lookup config.scopeField ≠ some (.string scope)) :
    ShownInScope config scope after view key := by
  intro other
  rw [Db.seen, Db.seen, absent]
  refine ⟨fun shown => absurd shown (by simp), ?_⟩
  rintro ⟨shown, inside⟩
  obtain ⟨row, held, rfl⟩ := Option.map_eq_some_iff.mp shown
  rw [lookup_kept row config.scopeKept] at inside
  exact absurd inside (outside row held)

variable (before : ShownInScope config scope db memory key)

include before

theorem shown_row (cached : memory.rows.lookup key = some row) :
    ∃ held, db.rows.lookup key = some held ∧ kept held = kept row ∧
      held.lookup config.scopeField = some (.string scope) := by
  have shown := (before (kept row)).mp (by rw [Db.seen, cached]; rfl)
  obtain ⟨held, found, same⟩ := Option.map_eq_some_iff.mp shown.1
  rw [← same, lookup_kept held config.scopeKept] at shown
  exact ⟨held, found, same, shown.2⟩

theorem row_shown (held : db.rows.lookup key = some row)
    (inside : row.lookup config.scopeField = some (.string scope)) :
    ∃ cached, memory.rows.lookup key = some cached ∧ kept cached = kept row := by
  rw [← lookup_kept row config.scopeKept] at inside
  exact Option.map_eq_some_iff.mp ((before (kept row)).mpr ⟨by rw [Db.seen, held]; rfl, inside⟩)

theorem absent_of_outside
    (outside : ∀ row, db.rows.lookup key = some row →
      row.lookup config.scopeField ≠ some (.string scope)) : memory.rows.lookup key = none := by
  cases cached : memory.rows.lookup key with
  | none => rfl
  | some row =>
    obtain ⟨held, found, _, inside⟩ := shown_row before cached
    exact absurd inside (outside held found)

end

section

variable [Database] {config : StoreConfig} {scope : String} {db memory : Db} {mutation : SyncMutation}
  {data : Record} (plain : Plain config) (child : mutation.entity ∈ config.childEntities)
  (located : Located config scope db mutation)
  (before : ShownInScope config scope db memory mutation.key)

include plain child located before

theorem child_after_insert (op : mutation.op = .insert)
    (carries : mutation.data = some data) (done : wasApplied config db mutation = true) :
    ShownInScope config scope (applied config db mutation)
      (memoryAfter config db memory (some scope) mutation) mutation.key := by
  have written := applied_insert_lookup op carries done
  have belongs := belongs_child plain child carries scope (memory.rows.lookup mutation.key)
  unfold memoryAfter
  by_cases named : refScope config data = some scope
  · rw [if_pos ⟨done, belongs.mpr named⟩]
    have placed := mirror_scope_child plain child named (recordId data)
    have cached := mirrored_insert_lookup memory op carries placed
    rw [cached_row_scoped plain named] at cached
    exact shown_of_same written cached rfl ((inserted_in_scope plain).mpr named)
  · rw [if_neg (fun both => named (belongs.mp both.2))]
    apply shown_of_absent
    · apply absent_of_outside before
      intro row held inside
      exact named (located.shown child data carries row held inside)
    · intro row held inside
      rw [written] at held
      rw [← Option.some.inj held] at inside
      exact named ((inserted_in_scope plain).mp inside)

theorem child_after_update (op : mutation.op = .update)
    (carries : mutation.data = some data) (done : wasApplied config db mutation = true) :
    ShownInScope config scope (applied config db mutation)
      (memoryAfter config db memory (some scope) mutation) mutation.key := by
  obtain ⟨existing, held, written⟩ := applied_update_lookup op carries done
  have belongs := belongs_child plain child carries scope (memory.rows.lookup mutation.key)
  have mirrors := mirrored_update_lookup config memory op carries
  have onlyRow : ∀ row, db.rows.lookup mutation.key = some row → row = existing := by
    intro row found
    exact Option.some.inj (found.symm.trans held)
  unfold memoryAfter
  by_cases named : refScope config data = some scope
  · rw [if_pos ⟨done, belongs.mpr named⟩]
    have inside : (mergedRow mutation.id data existing).lookup config.scopeField =
        some (.string scope) := (merged_in_scope plain).mpr (Or.inl named)
    by_cases shown : existing.lookup config.scopeField = some (.string scope)
    · obtain ⟨cached, found, same⟩ := row_shown before held shown
      exact shown_of_same written (mirrors.1 cached found)
        (kept_merged_congr mutation.id data same) inside
    · -- The row enters the scope, so the cache has only the payload to create it from.
      have absent : memory.rows.lookup mutation.key = none := by
        apply absent_of_outside before
        intro row found
        rw [onlyRow row found]
        exact shown
      have cached := mirrors.2 scope absent (mirror_scope_child plain child named _)
      have all := located.entering child op data carries named existing held shown
      rw [cached_row_scoped plain named] at cached
      exact shown_of_same written cached (merged_of_carries_all all).symm inside
  · rw [if_neg (fun both => named (belongs.mp both.2))]
    have outside : ∀ row, db.rows.lookup mutation.key = some row →
        row.lookup config.scopeField ≠ some (.string scope) := by
      intro row found inside
      exact named (located.shown child data carries row found inside)
    apply shown_of_absent (absent_of_outside before outside)
    intro row found inside
    rw [written] at found
    rw [← Option.some.inj found] at inside
    rcases (merged_in_scope plain).mp inside with isNamed | ⟨-, wasInside⟩
    · exact named isNamed
    · exact outside existing held wasInside

theorem child_after_delete (op : mutation.op = .delete) :
    ShownInScope config scope (applied config db mutation)
      (memoryAfter config db memory (some scope) mutation) mutation.key := by
  have removed : (applied config db mutation).rows.lookup mutation.key = none :=
    applied_delete_row op
  apply shown_of_absent
  · unfold memoryAfter
    split_ifs with mirrors
    · exact mirrored_delete_lookup op
    · cases cached : memory.rows.lookup mutation.key with
      | none => rfl
      | some row =>
        exfalso
        obtain ⟨held, found, same, inside⟩ := shown_row before cached
        have done : wasApplied config db mutation = true := by
          unfold wasApplied
          rw [op]
        apply mirrors
        refine ⟨done, ?_⟩
        cases carries : mutation.data with
        | some data =>
          exact (belongs_child plain child carries _ _).mpr
            (located.shown child data carries held found inside)
        | none =>
          obtain ⟨notRoot, notTop⟩ := plain.separated mutation.entity child
          have named : refScope config row = some scope := by
            rw [ref_scope_iff, ← lookup_kept row config.scopeKept, ← same,
              lookup_kept held config.scopeKept]
            exact inside
          simp [belongsToMemory, notRoot, notTop, carries, op, cached, named]
  · intro row held
    rw [removed] at held
    cases held

theorem child_shown_after : ShownInScope config scope (applied config db mutation)
      (memoryAfter config db memory (some scope) mutation) mutation.key := by
  cases done : wasApplied config db mutation with
  | false =>
    rw [applied_of_not done, memoryAfter, if_neg (fun both => by simp [done] at both)]
    exact before
  | true =>
    cases op : mutation.op with
    | delete => exact child_after_delete plain child located before op
    | insert =>
      cases carries : mutation.data with
      | none => simp [wasApplied, op, carries] at done
      | some data => exact child_after_insert plain child located before op carries done
    | update =>
      cases carries : mutation.data with
      | none => simp [wasApplied, op, carries] at done
      | some data => exact child_after_update plain child located before op carries done

end

section

variable [Database] {config : StoreConfig} {scope : String} {db memory : Db} {mutation : SyncMutation}

theorem belongs_root (isRoot : mutation.key = (config.rootEntity, scope))
    (carries : mutation.data.isSome ∨
      mutation.op = .delete ∧ (memory.rows.lookup mutation.key).isSome) :
    belongsToMemory config mutation (some scope) (memory.rows.lookup mutation.key) = true := by
  have entity : mutation.entity = config.rootEntity := congrArg Prod.fst isRoot
  have id : mutation.id = scope := congrArg Prod.snd isRoot
  unfold belongsToMemory
  split
  · rfl
  · cases data : mutation.data with
    | some payload => simp [id]
    | none =>
      rcases carries with hasData | ⟨op, hasRow⟩
      · rw [data] at hasData
        cases hasData
      · obtain ⟨row, held⟩ := Option.isSome_iff_exists.mp hasRow
        simp [op, held, id]

theorem cached_row_root (entity : mutation.entity = config.rootEntity) (target : String)
    (data : Record) : cachedRow config mutation target data = insertedRow mutation.id data := by
  simp [cachedRow, insertedRow, memoryRow, isScoped, entity]

theorem mirror_scope_root {data : Record} (entity : mutation.entity = config.rootEntity)
    (named : (recordId data).isSome) :
    ∃ target, mirrorScope config mutation data (recordId data) = some target := by
  obtain ⟨own, carried⟩ := Option.isSome_iff_exists.mp named
  unfold mirrorScope
  rw [carried, if_pos entity]
  split_ifs with isTop
  · exact ⟨"", rfl⟩
  · cases refScope config data with
    | none => exact ⟨own, rfl⟩
    | some target => exact ⟨target, rfl⟩

theorem root_same_after (isRoot : mutation.key = (config.rootEntity, scope))
    (located : Located config scope db mutation)
    (before : memory.seen mutation.key = db.seen mutation.key) :
    (memoryAfter config db memory (some scope) mutation).seen mutation.key =
      (applied config db mutation).seen mutation.key := by
  have entity : mutation.entity = config.rootEntity := congrArg Prod.fst isRoot
  cases done : wasApplied config db mutation with
  | false =>
    rw [applied_of_not done, memoryAfter, if_neg (fun both => by simp [done] at both)]
    exact before
  | true =>
    unfold memoryAfter
    cases op : mutation.op with
    | delete =>
      rw [Db.seen, Db.seen, applied_delete_row op]
      split_ifs with mirrors
      · rw [mirrored_delete_lookup op]
      · cases cached : memory.rows.lookup mutation.key with
        | none => rfl
        | some row =>
          have belongs := belongs_root isRoot (Or.inr ⟨op, by rw [cached]; rfl⟩)
          exact absurd ⟨done, belongs⟩ mirrors
    | insert =>
      cases carries : mutation.data with
      | none => simp [wasApplied, op, carries] at done
      | some data =>
        rw [if_pos ⟨done, belongs_root isRoot (Or.inl (by rw [carries]; rfl))⟩, Db.seen, Db.seen,
          applied_insert_lookup op carries done]
        obtain ⟨target, placed⟩ :=
          mirror_scope_root entity (located.root isRoot op data carries)
        rw [mirrored_insert_lookup memory op carries placed, cached_row_root entity]
    | update =>
      cases carries : mutation.data with
      | none => simp [wasApplied, op, carries] at done
      | some data =>
        obtain ⟨existing, held, written⟩ := applied_update_lookup op carries done
        have shown : memory.seen mutation.key = some (kept existing) := by
          rw [before, Db.seen, held]
          rfl
        obtain ⟨cached, found, same⟩ := Option.map_eq_some_iff.mp shown
        rw [if_pos ⟨done, belongs_root isRoot (Or.inl (by rw [carries]; rfl))⟩, Db.seen, Db.seen,
          written, (mirrored_update_lookup config memory op carries).1 cached found,
          Option.map_some, Option.map_some, kept_merged_congr mutation.id data same]

variable {state after first : LocalState}

/-- A payload is judged against the rows that are persisted when it arrives. -/
def LocatedIn (config : StoreConfig) (scope : String) (state : LocalState)
    (mutation : SyncMutation) : Prop :=
  ∀ db, state.persistence = some db → Located config scope db mutation

theorem mirrors_step (plain : Plain config) (mirrors : Mirrors config scope state)
    {mutation : SyncMutation} (located : LocatedIn config scope state mutation) :
    Mirrors config scope (handleRemoteMutation config mutation state).2 := by
  obtain ⟨db, persisted, rows⟩ := mirrors.rows
  have told := located db persisted
  rw [handle_remote_mutation_quiet ⟨mirrors.faults, persisted⟩ mutation, mirrors.current]
  refine ⟨mirrors.faults, rfl, applied config db mutation, rfl, ?_⟩
  intro key ours
  by_cases here : key = mutation.key
  · rw [here] at ours ⊢
    rcases ours with isRoot | child
    · have before : state.memory.seen mutation.key = db.seen mutation.key := by
        apply Option.ext
        intro row
        exact (rows mutation.key (Or.inl isRoot) row).trans
          (and_iff_left (Or.inl isRoot))
      intro row
      rw [root_same_after isRoot told before]
      exact (and_iff_left (Or.inl isRoot)).symm
    · have ofScope : ∀ row, OfScope config scope mutation.key row ↔
          row.lookup config.scopeField = some (.string scope) := by
        intro row
        have notRoot : mutation.key ≠ (config.rootEntity, scope) := by
          intro isRoot
          exact (plain.separated mutation.entity child).1 (congrArg Prod.fst isRoot)
        simp [OfScope, notRoot, child]
      simp only [ofScope]
      apply child_shown_after plain child told
      intro row
      rw [rows mutation.key (Or.inr child) row, ofScope]
  · intro row
    rw [Db.seen, Db.seen, memory_after_other here, applied_other here]
    exact rows key ours row

/-- Over any sequence of remote mutations whose payloads say where their rows are, the
cache stays equal to the persisted rows of the open scope. -/
theorem memory_mirrors_persistence (plain : Plain config)
    (start : Mirrors config scope first)
    (run : Reaches (fun before mutation =>
        some (handleRemoteMutation config mutation before).2)
      (LocatedIn config scope) first state) : Mirrors config scope state := by
  apply reaches_invariant (Mirrors config scope) start _ run
  intro before mutation after mirrors located taken
  rw [← Option.some.inj taken]
  exact mirrors_step plain mirrors located

end

section

def boardDb : Db := (Db.empty.create "board" boardRow).create "task" taskRow

def openedBoard : LocalState :=
  { startState (some boardDb) with memory := boardDb, currentScope := some "b1" }

def updateTask (fields : List (String × Value)) : SyncMutation where
  op := .update
  entity := "task"
  id := "t1"
  data := some (record fields)

def handled (mutation : SyncMutation) : LocalState :=
  (handleRemoteMutation boards mutation openedBoard).2

theorem opened_board_mirrors : Mirrors boards "b1" openedBoard where
  faults := rfl
  current := rfl
  rows := by
    refine ⟨boardDb, rfl, ?_⟩
    have all : ∀ entry ∈ boardDb.rows.entries, OfScope boards "b1" entry.1 entry.2 := by
      unfold OfScope
      decide
    intro key _ row
    refine (and_iff_left_of_imp fun shown => ?_).symm
    obtain ⟨held, found, rfl⟩ := Option.map_eq_some_iff.mp shown
    exact (of_scope_kept held).mpr (all _ (AList.mem_lookup_iff.mp found))

theorem boards_plain : Plain boards := ⟨by decide, by decide⟩

/-- An update of the task that names its board is seen in the cache. -/
theorem named_update_is_mirrored :
    let update := updateTask [("done", .number 1), ("boardId", .string "b1")]
    Mirrors boards "b1" (handled update) ∧
      ((handled update).memory.rows.lookup ("task", "t1")).bind (·.lookup "done") =
        some (.number 1) := by
  intro update
  refine ⟨?_, by decide⟩
  apply memory_mirrors_persistence boards_plain opened_board_mirrors
  refine .next update .start ?_ rfl
  intro db persisted
  cases persisted
  constructor
  · intro _ data carries row held inside
    cases carries
    rfl
  · intro _ _ data carries named row held outside
    cases held
    exact absurd rfl outside
  · intro isRoot
    exact absurd isRoot (by decide)

def finishedTask : LocalState := handled (updateTask [("done", .number 1)])

def movedTask : LocalState := handled (updateTask [("boardId", .string "b2")])

/-- A partial update without the scope field changes the persisted row only, and an update
that moves the task to another board leaves it in the cache of the board it left. -/
theorem unnamed_update_is_not_mirrored :
    Mirrors boards "b1" openedBoard ∧
    (finishedTask.memory.seen ("task", "t1") = some taskRow ∧
      (finishedTask.persistence.bind (·.rows.lookup ("task", "t1"))).bind (·.lookup "done") =
        some (.number 1) ∧ ¬ Mirrors boards "b1" finishedTask) ∧
    (movedTask.memory.seen ("task", "t1") = some taskRow ∧
      (movedTask.persistence.bind (·.rows.lookup ("task", "t1"))).bind (·.lookup "boardId") =
        some (.string "b2") ∧ ¬ Mirrors boards "b1" movedTask) := by
  have stale : ∀ state : LocalState,
      state.memory.seen ("task", "t1") = some taskRow →
      state.persistence.bind (·.seen ("task", "t1")) ≠ some taskRow →
        ¬ Mirrors boards "b1" state := by
    intro state cached changed mirrors
    obtain ⟨db, persisted, rows⟩ := mirrors.rows
    have held := (rows ("task", "t1") (Or.inr (by decide)) taskRow).mp cached
    rw [persisted, Option.bind_some] at changed
    exact changed held.1
  exact ⟨opened_board_mirrors, ⟨by decide, by decide, stale _ (by decide) (by decide)⟩,
    ⟨by decide, by decide, stale _ (by decide) (by decide)⟩⟩

end

end Stitch.Client.MemoryMirror
