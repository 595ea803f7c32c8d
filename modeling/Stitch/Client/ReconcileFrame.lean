import Stitch.Client.ReconciledRows
import Stitch.Client.ScopeReplacement

/-!
# Which rows a reconcile leaves in a scope

After `reconcile_children` the rows of the scope are those the server lists, apart from the rows
with queued mutations; rows of other entities and of other scopes stay as they were.
-/

namespace Stitch.Client.ReconcileFrame

open Foundation.FiniteMap Mutations Consolidation LocalRows ScopeSync EventReplay ReconciledRows
open ScopeReplacement (boards record startState)

section

variable [Database] (config : StoreConfig) (scope entity : String) (records : List Record)
  (pending : List StoredRow)

def InScope (row : Option Record) : Prop :=
  ∃ held, row = some held ∧ held.lookup config.scopeField = some (.string scope)

def Elsewhere (row : Option Record) : Prop :=
  ∃ held other, row = some held ∧ held.lookup config.scopeField = some (.string other) ∧
    other ≠ scope

/-- The only queued mutation of its row, an insert whose data carries the id. -/
def LoneInsert (queued : StoredRow) : Prop :=
  queued.op = .insert ∧
    pending.filter (fun other => other.entityId = queued.entityId) = [queued] ∧
    ∃ data, queued.data = some data ∧ recordId data = some queued.entityId

/-- Queued ids are local, listed or inserted once, and what the server lists belongs to the scope.
-/
structure Presented (db : Db) : Prop where
  filtered : isScoped config entity = true
  queued : ∀ queued ∈ pending, queued.entityId ∈ localIds config scope entity db ∨
    queued.entityId ∈ serverIds records ∨ LoneInsert pending queued
  named : ∀ record ∈ records, (stripNulls record).lookup config.scopeField = none ∨
    (stripNulls record).lookup config.scopeField = some (.string scope)
  held : ∀ id ∈ serverIds records, ¬ Elsewhere config scope (db.rows.lookup (entity, id))

/-- What `create` stores of a queued write of a row that neither side has names no other scope, and
no local row of another scope has its id. -/
def QueuedInScope (persisted : Bool) (db : Db) : Prop :=
  ∀ queued ∈ pending, queued.entityId ∉ localIds config scope entity db →
    queued.entityId ∉ serverIds records →
      ¬ Elsewhere config scope (db.rows.lookup (entity, queued.entityId)) ∧
        ∀ data, queued.data = some data →
          ¬ Elsewhere config scope (some (storedForm config persisted entity data))

structure Reconciles (before after : Db) : Prop where
  /-- A row without queued mutations is in the scope exactly when the server lists it. -/
  presence : ∀ id, (∀ queued ∈ pending, queued.entityId ≠ id) →
    (InScope config scope (after.rows.lookup (entity, id)) ↔ id ∈ serverIds records)
  /-- A row with a queued update or delete is as before. -/
  edited : ∀ queued ∈ pending, queued.op ≠ .insert →
    after.rows.lookup (entity, queued.entityId) = before.rows.lookup (entity, queued.entityId)
  /-- No row with a queued mutation is deleted. -/
  spared : ∀ queued ∈ pending, has before (entity, queued.entityId) = true →
    has after (entity, queued.entityId) = true
  /-- Rows of other entities and of other scopes are as before. -/
  frame : ∀ key row, key.1 ≠ entity ∨ Elsewhere config scope (some row) →
    (after.rows.lookup key = some row ↔ before.rows.lookup key = some row)

variable {config} {persisted : Bool} {scope entity} {records} {pending} {db : Db}
  {row : Option Record} {id : String} {record : Record} {served : List Record}

theorem not_elsewhere_of_in_scope (inside : InScope config scope row) :
    ¬ Elsewhere config scope row := by
  intro elsewhere
  obtain ⟨held, found, named⟩ := inside
  obtain ⟨other, another, same, naming, different⟩ := elsewhere
  rw [found] at same
  cases same
  rw [named] at naming
  cases naming
  exact different rfl

theorem elsewhere_created {data : Record} :
    Elsewhere config scope (some (Database.created data)) ↔ Elsewhere config scope (some data) := by
  simp only [Elsewhere, Option.some.injEq, exists_and_left, exists_eq_left',
    Database.created_lookup data _ config.scopeKept]

theorem mem_local_iff_in_scope (filtered : isScoped config entity = true) :
    id ∈ localIds config scope entity db ↔
      InScope config scope (db.rows.lookup (entity, id)) := by
  rw [mem_local_ids]
  constructor
  · intro listed
    obtain ⟨row, held, inside⟩ := listed
    rw [inScope, filtered] at inside
    exact ⟨row, held, by simpa using inside⟩
  · intro inside
    obtain ⟨row, held, named⟩ := inside
    refine ⟨row, held, ?_⟩
    rw [inScope, filtered, named]
    simp

theorem Presented.own (presented : Presented config scope entity records pending db) :
    OwnIds config scope entity records pending db := by
  intro queued member _ unlisted unknown data carries
  rcases presented.queued queued member with known | listed | lone
  · exact absurd known unknown
  · exact absurd listed unlisted
  · obtain ⟨_, _, other, carried, named⟩ := lone
    rw [carries] at carried
    cases carried
    exact named

variable
  (named : (stripNulls record).lookup config.scopeField = none ∨ (stripNulls record).lookup config.scopeField = some (.string scope))

include named

theorem cleaned_names :
    (cleanedRecord config scope record).lookup config.scopeField = some (.string scope) := by
  rw [cleaned_lookup, if_pos rfl]
  rcases named with unset | set
  · rw [unset, Option.none_or]
  · rw [set, Option.some_or]

theorem adopt_in_scope (inside : id ∈ localIds config scope entity db → InScope config scope row) :
    InScope config scope (adopt config scope entity db id row record) := by
  have names := cleaned_names named
  rw [adopt]
  split_ifs with known
  · obtain ⟨held, found, _⟩ := inside known
    rw [found, Option.map_some]
    refine ⟨_, rfl, ?_⟩
    rw [Database.updated_lookup _ _ _ config.scopeKept, lookup_union, names, Option.some_or]
  · refine ⟨_, rfl, ?_⟩
    rw [Database.created_lookup _ _ config.scopeKept, names]

omit named

theorem adopt_all_in_scope
    (named : ∀ record ∈ served, (stripNulls record).lookup config.scopeField = none ∨
      (stripNulls record).lookup config.scopeField = some (.string scope))
    (inside : id ∈ localIds config scope entity db → InScope config scope row)
    (nonempty : served ≠ []) :
    InScope config scope (served.foldl (adopt config scope entity db id) row) := by
  -- once the first record is adopted the row is in the scope and stays there
  have stays : ∀ (later : List Record) (held : Option Record), (∀ record ∈ later, record ∈ served) →
      InScope config scope held →
        InScope config scope (later.foldl (adopt config scope entity db id) held) := by
    intro later
    induction later with
    | nil =>
      intro held _ holds
      exact holds
    | cons record rest ih =>
      intro held within holds
      apply ih _ (fun other member => within other (List.mem_cons_of_mem record member))
      exact adopt_in_scope (named record (within record List.mem_cons_self)) (fun _ => holds)
  cases served with
  | nil => exact absurd rfl nonempty
  | cons record rest =>
    apply stays rest _ (fun other member => List.mem_cons_of_mem record member)
    exact adopt_in_scope (named record List.mem_cons_self) inside

theorem adopt_all_present (present : row.isSome = true) :
    (served.foldl (adopt config scope entity db id) row).isSome = true := by
  induction served generalizing row with
  | nil => exact present
  | cons record rest ih =>
    apply ih
    rw [adopt]
    split_ifs
    · rw [Option.isSome_map]
      exact present
    · rfl

theorem create_all_present {rows : List StoredRow} (present : row.isSome = true) :
    (rows.foldl (createQueued config persisted entity id) row).isSome = true := by
  induction rows generalizing row with
  | nil => exact present
  | cons queued rest ih =>
    apply ih
    unfold createQueued
    split
    · exact present
    · exact present
    · rfl

theorem not_deleted_of_queued {queued : StoredRow} (member : queued ∈ pending)
    (row : Option Record) :
    afterDeletes config scope entity records pending db queued.entityId row = row := by
  rw [afterDeletes, if_neg]
  intro deleted
  have free := of_decide_eq_true (List.mem_filter.mp deleted).2
  exact free.2 queued member rfl

theorem not_deleted_of_listed (listed : id ∈ serverIds records) (row : Option Record) :
    afterDeletes config scope entity records pending db id row = row := by
  rw [afterDeletes, if_neg]
  intro deleted
  exact (of_decide_eq_true (List.mem_filter.mp deleted).2).1 listed

omit [Database] in
theorem has_pending_iff {op : Operation} :
    hasPending pending op id = true ↔ ∃ queued ∈ pending, queued.entityId = id ∧ queued.op = op := by
  rw [hasPending, List.any_eq_true]
  simp

theorem server_pass_unlisted (unlisted : id ∉ serverIds records) (row : Option Record) :
    afterServer config scope entity records pending db id row = row := by
  have none : records.filter (fun record => recordId record = some id) = [] := by
    rw [List.filter_eq_nil_iff]
    intro record member named
    exact unlisted (mem_server_ids.mpr ⟨record, member, of_decide_eq_true named⟩)
  rw [afterServer, none]
  split_ifs
  · rfl
  · rfl

end

section

variable [Database] {config : StoreConfig} {persisted : Bool} {scope entity : String}
  {records : List Record} {pending : List StoredRow} {db : Db}
variable {queued : StoredRow} {id : String} {row : Record}

section

variable (presented : Presented config scope entity records pending db)

include presented

theorem reconciled_edited (member : queued ∈ pending) (edits : queued.op ≠ .insert) :
    (reconciled config persisted scope entity records pending db).rows.lookup
        (entity, queued.entityId) =
      db.rows.lookup (entity, queued.entityId) := by
  have known : queued.entityId ∈ serverIds records ∨
      queued.entityId ∈ localIds config scope entity db := by
    rcases presented.queued queued member with known | listed | lone
    · exact .inr known
    · exact .inl listed
    · exact absurd lone.1 edits
  have skipped : (hasPending pending .delete queued.entityId ||
      hasPending pending .update queued.entityId) = true := by
    rw [Bool.or_eq_true, has_pending_iff, has_pending_iff]
    cases op : queued.op with
    | insert => exact absurd op edits
    | update => exact .inr ⟨queued, member, rfl, op⟩
    | delete => exact .inl ⟨queued, member, rfl, op⟩
  rw [reconciled_row presented.own, not_deleted_of_queued member, afterPending, if_pos known,
    afterServer, if_pos skipped]

theorem reconciled_listed (listed : id ∈ serverIds records)
    (unedited : ∀ queued ∈ pending, queued.entityId = id → queued.op = .insert) :
    InScope config scope ((reconciled config persisted scope entity records pending
      db).rows.lookup (entity, id)) := by
  have free : ¬ (hasPending pending .delete id || hasPending pending .update id) = true := by
    rw [Bool.or_eq_true, has_pending_iff, has_pending_iff]
    intro edited
    rcases edited with ⟨queued, member, here, op⟩ | ⟨queued, member, here, op⟩
    · rw [unedited queued member here] at op
      cases op
    · rw [unedited queued member here] at op
      cases op
  rw [reconciled_row presented.own, not_deleted_of_listed listed, afterPending,
    if_pos (Or.inl listed), afterServer, if_neg free]
  apply adopt_all_in_scope
  · intro record member
    exact presented.named record (List.mem_of_mem_filter member)
  · intro known
    exact (mem_local_iff_in_scope presented.filtered).mp known
  · obtain ⟨record, member, identified⟩ := mem_server_ids.mp listed
    exact List.ne_nil_of_mem (List.mem_filter.mpr ⟨member, decide_eq_true identified⟩)

theorem reconciled_unlisted
    (unlisted : id ∉ serverIds records) (free : ∀ queued ∈ pending, queued.entityId ≠ id) :
    (reconciled config persisted scope entity records pending db).rows.lookup (entity, id) =
      if id ∈ localIds config scope entity db then none else db.rows.lookup (entity, id) := by
  have nothing : pending.filter (fun queued => queued.entityId = id) = [] := by
    rw [List.filter_eq_nil_iff]
    intro queued member named
    exact free queued member (of_decide_eq_true named)
  have passed : ∀ row, afterPending config persisted scope entity records pending db id row =
      row := by
    intro row
    rw [afterPending, nothing]
    split_ifs
    · rfl
    · rfl
  rw [reconciled_row presented.own, server_pass_unlisted unlisted, passed, afterDeletes]
  have deleted : id ∈ planDeletes config scope entity records pending db ↔
      id ∈ localIds config scope entity db := by
    rw [planDeletes, List.mem_filter, decide_eq_true_eq]
    exact ⟨fun both => both.1, fun known => ⟨known, unlisted, free⟩⟩
  simp only [deleted]

theorem reconciled_queued_unlisted
    (member : queued ∈ pending) (unlisted : queued.entityId ∉ serverIds records) :
    (queued.entityId ∈ localIds config scope entity db ∧
      (reconciled config persisted scope entity records pending db).rows.lookup
          (entity, queued.entityId) = db.rows.lookup (entity, queued.entityId)) ∨
    (queued.entityId ∉ localIds config scope entity db ∧ ∃ data, queued.data = some data ∧
      (reconciled config persisted scope entity records pending db).rows.lookup
          (entity, queued.entityId) =
        some (Database.created (storedForm config persisted entity data))) := by
  rw [reconciled_row presented.own, not_deleted_of_queued member, server_pass_unlisted unlisted,
    afterPending]
  by_cases known : queued.entityId ∈ localIds config scope entity db
  · exact .inl ⟨known, by rw [if_pos (Or.inr known)]⟩
  · right
    rcases presented.queued queued member with here | listed | lone
    · exact absurd here known
    · exact absurd listed unlisted
    · obtain ⟨inserts, only, data, carries, named⟩ := lone
      refine ⟨known, data, carries, ?_⟩
      rw [if_neg (by simp [unlisted, known]), only, List.foldl_cons, List.foldl_nil, createQueued,
        inserts, carries]
      apply congrArg some
      apply insert_of_lookup
      rw [Database.created_lookup _ _ Database.id_kept]
      exact lookup_record_id (stored_form_id named)

theorem reconciled_spared
    (member : queued ∈ pending) (present : has db (entity, queued.entityId) = true) :
    has (reconciled config persisted scope entity records pending db)
      (entity, queued.entityId) = true := by
  rw [has, reconciled_row presented.own, not_deleted_of_queued member]
  have served : (afterServer config scope entity records pending db queued.entityId
      (db.rows.lookup (entity, queued.entityId))).isSome = true := by
    rw [afterServer]
    split_ifs
    · exact present
    · exact adopt_all_present present
  rw [afterPending]
  split_ifs
  · exact served
  · exact create_all_present served

omit presented in
theorem same_elsewhere_of_not {left right : Option Record}
    (elsewhere : Elsewhere config scope (some row)) (notLeft : ¬ Elsewhere config scope left)
    (notRight : ¬ Elsewhere config scope right) : left = some row ↔ right = some row := by
  apply iff_of_false
  · intro same
    rw [same] at notLeft
    exact notLeft elsewhere
  · intro same
    rw [same] at notRight
    exact notRight elsewhere

variable (inside : QueuedInScope config scope entity records pending persisted db)

include inside

/-- A row of another scope is there after the reconcile exactly when it was before. -/
theorem reconciled_elsewhere (elsewhere : Elsewhere config scope (some row)) :
    (reconciled config persisted scope entity records pending db).rows.lookup (entity, id) =
        some row ↔ db.rows.lookup (entity, id) = some row := by
  by_cases edited : ∃ queued ∈ pending, queued.entityId = id ∧ queued.op ≠ .insert
  · obtain ⟨queued, member, same, edits⟩ := edited
    subst same
    rw [reconciled_edited presented member edits]
  · by_cases listed : id ∈ serverIds records
    · apply same_elsewhere_of_not elsewhere _ (presented.held id listed)
      apply not_elsewhere_of_in_scope
      apply reconciled_listed presented listed
      intro queued member same
      by_contra edits
      exact edited ⟨queued, member, same, edits⟩
    · by_cases waits : ∃ queued ∈ pending, queued.entityId = id
      · obtain ⟨queued, member, same⟩ := waits
        subst same
        rcases reconciled_queued_unlisted presented member listed with
          ⟨_, kept⟩ | ⟨unknown, data, carries, inserted⟩
        · rw [kept]
        · obtain ⟨notHeld, notStored⟩ := inside queued member unknown listed
          rw [inserted]
          apply same_elsewhere_of_not elsewhere _ notHeld
          rw [elsewhere_created]
          exact notStored data carries
      · push Not at waits
        rw [reconciled_unlisted presented listed waits]
        by_cases known : id ∈ localIds config scope entity db
        · rw [if_pos known]
          apply same_elsewhere_of_not elsewhere
          · intro impossible
            obtain ⟨_, _, found, _⟩ := impossible
            cases found
          · exact not_elsewhere_of_in_scope
              ((mem_local_iff_in_scope presented.filtered).mp known)
        · rw [if_neg known]

theorem reconciled_reconciles :
    Reconciles config scope entity records pending db
      (reconciled config persisted scope entity records pending db) where
  presence := by
    intro id free
    by_cases listed : id ∈ serverIds records
    · apply iff_of_true _ listed
      exact reconciled_listed presented listed (fun queued member here =>
        absurd here (free queued member))
    · apply iff_of_false _ listed
      rw [reconciled_unlisted presented listed free]
      split_ifs with known
      · intro held
        obtain ⟨row, found, _⟩ := held
        cases found
      · rw [mem_local_iff_in_scope presented.filtered] at known
        exact known
  edited := by
    intro queued member edits
    exact reconciled_edited presented member edits
  spared := by
    intro queued member present
    exact reconciled_spared presented member present
  frame := by
    intro key row outside
    obtain ⟨other, id⟩ := key
    by_cases here : other = entity
    · subst here
      apply reconciled_elsewhere presented inside
      exact outside.resolve_left (fun different => different rfl)
    · rw [reconciled_other_entity here]

end

/-- A reconcile over rows that no failure disturbs succeeds, puts exactly the listed rows in the
scope, keeps the rows with queued mutations and leaves everything else alone. -/
theorem reconcile_presence_and_frame (config : StoreConfig)
    (scope entity : String) (records : List Record) (state : LocalState)
    (calm : state.faults = [])
    (presented : Presented config scope entity records
      (pendingFor (state.queue.getD []) scope entity) (localDb state))
    (inside : QueuedInScope config scope entity records
      (pendingFor (state.queue.getD []) scope entity) state.persistence.isSome (localDb state)) :
    (reconcileChildren config scope entity records state).1 = .ok () ∧
      Reconciles config scope entity records (pendingFor (state.queue.getD []) scope entity)
        (localDb state) (localDb (reconcileChildren config scope entity records state).2) := by
  rw [reconcile_children_calm calm]
  refine ⟨rfl, ?_⟩
  dsimp only
  rw [local_db_store_local]
  exact reconciled_reconciles presented inside

end

section

def taskIn (id board title : String) : Record :=
  record [("id", .string id), ("boardId", .string board), ("title", .string title)]

def insertOf (id scope : String) (data : Record) : StoredRow :=
  ⟨"q", .insert, "task", id, scope, some data, 1⟩

def storeWith (tasks : List (String × Record)) (queue : List StoredRow) : LocalState :=
  { startState (some (createRows tasks)) with queue := some queue }

def boardStore : LocalState :=
  storeWith [("task", taskIn "t1" "b1" "old"), ("task", taskIn "t2" "b1" "gone")]
    [insertOf "t3" "b1" (taskIn "t3" "b1" "mine")]

/-- The server lists the first of the two tasks. -/
theorem board_reconciles :
    Reconciles boards "b1" "task" [taskIn "t1" "b1" "new"]
      (pendingFor (boardStore.queue.getD []) "b1" "task") (localDb boardStore)
      (localDb (reconcileChildren boards "b1" "task" [taskIn "t1" "b1" "new"]
        boardStore).2) := by
  have queue : pendingFor (boardStore.queue.getD []) "b1" "task" =
      [insertOf "t3" "b1" (taskIn "t3" "b1" "mine")] := by decide
  apply (reconcile_presence_and_frame boards "b1" "task"
    [taskIn "t1" "b1" "new"] boardStore rfl ?_ ?_).2
  · rw [queue]
    refine ⟨by decide, ?_, ?_, ?_⟩
    · intro queued member
      rw [List.mem_singleton] at member
      subst member
      exact .inr (.inr ⟨rfl, by decide, _, rfl, by decide⟩)
    · intro server member
      rw [List.mem_singleton] at member
      subst member
      exact .inr (by decide)
    · intro id listed
      have same : id = "t1" := by
        rw [show serverIds [taskIn "t1" "b1" "new"] = ["t1"] by decide] at listed
        exact List.mem_singleton.mp listed
      subst same
      apply not_elsewhere_of_in_scope
      exact ⟨_, rfl, by decide⟩
  · rw [queue]
    intro queued member _ _
    rw [List.mem_singleton] at member
    subst member
    constructor
    · intro elsewhere
      obtain ⟨held, _, found, _⟩ := elsewhere
      have absent : (localDb boardStore).rows.lookup ("task", "t3") = none := by decide
      cases absent.symm.trans found
    · intro data carries
      cases carries
      apply not_elsewhere_of_in_scope
      exact ⟨_, rfl, by decide⟩

def strayStore : LocalState :=
  storeWith [("task", taskIn "t1" "b2" "edited")] [insertOf "t1" "b1" (taskIn "t1" "b2" "first")]

/-- Reconciling the one board replaces the row of the other by what the insert carries. -/
theorem queued_insert_replaces_row_elsewhere :
    Presented boards "b1" "task" [] (pendingFor (strayStore.queue.getD []) "b1" "task")
        (localDb strayStore) ∧
      (localDb strayStore).seen ("task", "t1") = some (taskIn "t1" "b2" "edited") ∧
      (localDb (reconcileChildren boards "b1" "task" [] strayStore).2).seen ("task", "t1") =
        some (taskIn "t1" "b2" "first") ∧
      ¬ Reconciles boards "b1" "task" [] (pendingFor (strayStore.queue.getD []) "b1" "task")
        (localDb strayStore)
        (localDb (reconcileChildren boards "b1" "task" [] strayStore).2) := by
  have queue : pendingFor (strayStore.queue.getD []) "b1" "task" =
      [insertOf "t1" "b1" (taskIn "t1" "b2" "first")] := by decide
  have after : (localDb (reconcileChildren boards "b1" "task" [] strayStore).2).seen
      ("task", "t1") = some (taskIn "t1" "b2" "first") := by decide
  refine ⟨⟨by decide, ?_, ?_, ?_⟩, by decide, after, ?_⟩
  · rw [queue]
    intro queued member
    rw [List.mem_singleton] at member
    subst member
    exact .inr (.inr ⟨rfl, by decide, _, rfl, by decide⟩)
  · intro server member
    cases member
  · intro id listed
    cases listed
  · intro reconciles
    have before : (localDb strayStore).rows.lookup ("task", "t1") =
        some (Database.created (taskIn "t1" "b2" "edited")) := by decide
    have kept := (reconciles.frame ("task", "t1") _
      (.inr ⟨_, "b2", rfl, by decide, by decide⟩)).mpr before
    rw [Db.seen, kept] at after
    exact absurd after (by decide)

end

end Stitch.Client.ReconcileFrame
