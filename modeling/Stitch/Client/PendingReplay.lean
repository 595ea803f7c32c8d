import Stitch.Client.ReconcileFrame

/-!
# Queued mutations of rows that neither side has

When neither the server nor the local rows have a row, `reconcile_children` turns every queued
insert and update of it into a create of its own. The queue asks for its mutations to be applied
to the absent row one after the other.
-/

namespace Stitch.Client.PendingReplay

open Foundation.FiniteMap Mutations Consolidation LocalRows ScopeSync EventReplay ReconciledRows
open ReconcileFrame (server_pass_unlisted taskIn storeWith)
open ScopeReplacement (boards record)

section

variable [Database] (config : StoreConfig) (persisted : Bool) (scope entity : String)
  (records : List Record) (pending : List StoredRow)

def setQueued (id : String) (data : Record) : Record :=
  kept ((storedForm config persisted entity data).insert "id" (.string id))

def mergeQueued (id : String) (data held : Record) : Record :=
  kept ((stripNulls data ∪ held).insert "id" (.string id))

/-- What a queued mutation makes of its row, as far as the fields are given: an insert sets it, an
update merges into a row that is there, a delete removes it. -/
def replayQueued (id : String) (row : Option Record) (queued : StoredRow) : Option Record :=
  match queued.op, queued.data with
  | .delete, _ => none
  | _, none => row
  | .insert, some data => some (setQueued config persisted entity id data)
  | .update, some data => row.map (mergeQueued id data)

def queuedOf (id : String) : List StoredRow := pending.filter (fun queued => queued.entityId = id)

structure ReplaysQueue (before after : Db) : Prop where
  /-- A row that neither side had is what its queued mutations make of an absent row. -/
  rows : ∀ id, before.rows.lookup (entity, id) = none → id ∉ serverIds records →
    after.seen (entity, id) =
      (queuedOf pending id).foldl (replayQueued config persisted entity id) none
  /-- Every new row is listed by the server or has a queued mutation. -/
  known : ∀ id, has after (entity, id) = true → has before (entity, id) = true ∨
    id ∈ serverIds records ∨ ∃ queued ∈ pending, queued.entityId = id

def Writes (queued : StoredRow) : Prop := queued.op ≠ .delete ∧ queued.data.isSome = true

/-- The last write of the history is not taken back, and it sets the row: it is an insert, or
an update that merged into the row before it leaves what it would leave on its own. -/
def LastWriteSets (id : String) (history : List StoredRow) : Prop :=
  (∀ queued ∈ history, ¬ Writes queued) ∨
    ∃ earlier last later, history = earlier ++ last :: later ∧
      (∀ queued ∈ later, ¬ Writes queued ∧ queued.op ≠ .delete) ∧
      ∃ data, last.data = some data ∧
        (last.op = .insert ∨ last.op = .update ∧
          ∃ held, earlier.foldl (replayQueued config persisted entity id) none = some held ∧
            mergeQueued id data held = setQueued config persisted entity id data)

/-- Queued data names its own row or none. -/
def NamesOwnRow : Prop :=
  ∀ queued ∈ pending, ∀ data, queued.data = some data →
    recordId data = none ∨ recordId data = some queued.entityId

/-- An id the database generates is held by no row and known to neither side. -/
def GeneratesFresh : Prop :=
  ∀ rows : Db, rows.rows.lookup (entity, Database.newId rows) = none ∧
    Database.newId rows ∉ serverIds records ∧
    ∀ queued ∈ pending, queued.entityId ≠ Database.newId rows

variable {config} {persisted} {entity} {id : String} {queued : StoredRow} {data : Record}
  {later : List StoredRow}

theorem create_queued_of_not_writes (silent : ¬ Writes queued) (row : Option Record) :
    createQueued config persisted entity id row queued = row := by
  unfold createQueued
  cases op : queued.op with
  | delete => rfl
  | _ =>
    cases carries : queued.data with
    | none => rfl
    | some data => exact absurd ⟨by rw [op]; decide, by rw [carries]; rfl⟩ silent

theorem create_queued_of_writes (written : queued.op ≠ .delete)
    (carries : queued.data = some data) (row : Option Record) :
    (createQueued config persisted entity id row queued).map kept =
      some (setQueued config persisted entity id data) := by
  unfold createQueued
  cases op : queued.op with
  | delete => exact absurd op written
  | _ =>
    rw [carries]
    exact congrArg some (kept_insert_congr (kept_created _) "id" _)

theorem replay_queued_insert (op : queued.op = .insert) (carries : queued.data = some data)
    (row : Option Record) :
    replayQueued config persisted entity id row queued =
      some (setQueued config persisted entity id data) := by
  unfold replayQueued
  rw [op, carries]

theorem replay_queued_update (op : queued.op = .update) (carries : queued.data = some data)
    (row : Option Record) :
    replayQueued config persisted entity id row queued =
      row.map (mergeQueued id data) := by
  unfold replayQueued
  rw [op, carries]

theorem create_all_of_not_writes (silent : ∀ queued ∈ later, ¬ Writes queued) (row : Option Record)
    :
    later.foldl (createQueued config persisted entity id) row = row := by
  induction later generalizing row with
  | nil => rfl
  | cons queued rest ih =>
    rw [List.foldl_cons, create_queued_of_not_writes (silent queued List.mem_cons_self)]
    exact ih (fun other member => silent other (List.mem_cons_of_mem queued member)) row

theorem replay_all_of_not_writes (silent : ∀ queued ∈ later, ¬ Writes queued) (row : Option Record)
    :
    later.foldl (replayQueued config persisted entity id) row =
      if ∃ queued ∈ later, queued.op = .delete then none else row := by
  induction later generalizing row with
  | nil => simp
  | cons queued rest ih =>
    have quiet := silent queued List.mem_cons_self
    rw [List.foldl_cons, ih (fun other member => silent other (List.mem_cons_of_mem queued member))]
    cases op : queued.op with
    | delete => simp [replayQueued, op]
    | insert | update =>
      have bare : queued.data = none := by
        by_contra carries
        exact quiet ⟨by rw [op]; decide, Option.isSome_iff_ne_none.mpr carries⟩
      simp [replayQueued, op, bare]

omit [Database] in
theorem last_write_cases (history : List StoredRow) :
    (∀ queued ∈ history, ¬ Writes queued) ∨
      ∃ earlier last later data, history = earlier ++ last :: later ∧ last.op ≠ .delete ∧
        last.data = some data ∧ ∀ queued ∈ later, ¬ Writes queued := by
  induction history with
  | nil => exact .inl (by simp)
  | cons first rest ih =>
    rcases ih with silent | ⟨earlier, last, later, data, split, kept, carries, silent⟩
    · by_cases writes : Writes first
      · obtain ⟨data, carries⟩ := Option.isSome_iff_exists.mp writes.2
        exact .inr ⟨[], first, rest, data, rfl, writes.1, carries, silent⟩
      · left
        intro queued member
        rcases List.mem_cons.mp member with here | later
        · rw [here]
          exact writes
        · exact silent queued later
    · exact .inr ⟨first :: earlier, last, later, data, by rw [split]; rfl, kept, carries, silent⟩

/-- Creating every queued write on its own gives what the queue asks for exactly when the last
write sets the row. -/
theorem create_eq_replay_iff (history : List StoredRow) :
    (history.foldl (createQueued config persisted entity id) none).map kept =
        history.foldl (replayQueued config persisted entity id) none ↔
      LastWriteSets config persisted entity id history := by
  constructor
  · intro agree
    rcases last_write_cases history with
      silent | ⟨earlier, last, later, data, split, kept, carries, silent⟩
    · exact .inl silent
    · rw [split, List.foldl_append, List.foldl_append, List.foldl_cons, List.foldl_cons,
        create_all_of_not_writes silent, create_queued_of_writes kept carries,
        replay_all_of_not_writes silent] at agree
      have lasting : ¬ ∃ queued ∈ later, queued.op = .delete := by
        intro deleted
        rw [if_pos deleted] at agree
        cases agree
      rw [if_neg lasting] at agree
      refine .inr ⟨earlier, last, later, split, ?_, data, carries, ?_⟩
      · intro queued member
        exact ⟨silent queued member, fun removed => lasting ⟨queued, member, removed⟩⟩
      · cases op : last.op with
        | insert => exact .inl rfl
        | delete => exact absurd op kept
        | update =>
          right
          refine ⟨rfl, ?_⟩
          rw [replay_queued_update op carries] at agree
          obtain ⟨held, before, merged⟩ := Option.map_eq_some_iff.mp agree.symm
          exact ⟨held, before, merged⟩
  · intro sets
    rcases sets with silent | ⟨earlier, last, later, split, silent, data, carries, sets⟩
    · rw [create_all_of_not_writes silent, replay_all_of_not_writes silent]
      split_ifs
      · rfl
      · rfl
    · have kept : last.op ≠ .delete := by
        rcases sets with insert | ⟨update, _⟩
        · rw [insert]
          decide
        · rw [update]
          decide
      have unwritten : ∀ queued ∈ later, ¬ Writes queued :=
        fun queued member => (silent queued member).1
      have lasting : ¬ ∃ queued ∈ later, queued.op = .delete := by
        intro deleted
        obtain ⟨queued, member, removed⟩ := deleted
        exact (silent queued member).2 removed
      rw [split, List.foldl_append, List.foldl_append, List.foldl_cons, List.foldl_cons,
        create_all_of_not_writes unwritten, create_queued_of_writes kept carries,
        replay_all_of_not_writes unwritten, if_neg lasting]
      rcases sets with insert | ⟨update, held, before, merged⟩
      · rw [replay_queued_insert insert carries]
      · rw [replay_queued_update update carries, before, Option.map_some, merged]

variable {scope} {records} {pending} {db : Db}

theorem reconciled_absent (own : OwnIds config scope entity records pending db) {id : String}
    (absent : db.rows.lookup (entity, id) = none) (unlisted : id ∉ serverIds records) :
    (reconciled config persisted scope entity records pending db).rows.lookup (entity, id) =
      (queuedOf pending id).foldl (createQueued config persisted entity id) none := by
  have unknown : id ∉ localIds config scope entity db := by
    rw [mem_local_ids, absent]
    simp
  have kept : id ∉ planDeletes config scope entity records pending db := by
    intro deleted
    exact unknown (List.mem_of_mem_filter deleted)
  rw [reconciled_row own, server_pass_unlisted unlisted, absent, afterPending,
    if_neg (by simp [unlisted, unknown]), afterDeletes, if_neg kept, queuedOf]

variable {rows : Db} {key : RowKey} {data : Record}

theorem has_put_rows {writes : List Put}
    (kept : ∀ put ∈ writes, ∀ entity id, put ≠ .delete entity id) (present : has rows key = true) :
    has (writes.foldl (putRow config persisted) rows) key = true := by
  induction writes generalizing rows with
  | nil => exact present
  | cons put rest ih =>
    apply ih (fun other member => kept other (List.mem_cons_of_mem put member))
    exact has_put_row present (kept put List.mem_cons_self)

theorem has_delete_rows {ids : List String} (spared : ∀ id ∈ ids, key ≠ (entity, id))
    (present : has rows key = true) :
    has ((ids.map (fun id => Put.delete entity id)).foldl (putRow config persisted) rows)
      key = true := by
  induction ids generalizing rows with
  | nil => exact present
  | cons id rest ih =>
    apply ih (fun other member => spared other (List.mem_cons_of_mem id member))
    rw [has, lookup_put_row rfl, if_neg (spared id List.mem_cons_self)]
    exact present

theorem stored_form_without_id (named : config.scopeField ≠ "id") (bare : recordId data = none) :
    recordId (storedForm config persisted entity data) = none := by
  have stripped : recordId (stripNulls data) = none := by
    rw [recordId, stripNulls, lookup_keepValues]
    cases held : data.lookup "id" with
    | none => rfl
    | some value =>
      rw [recordId, held, Option.bind_some] at bare
      rw [Option.filter_some]
      split_ifs
      · exact bare
      · rfl
  unfold storedForm
  cases persisted with
  | true => exact stripped
  | false =>
    rw [if_neg Bool.false_ne_true, memoryRow]
    split_ifs
    · rw [recordId, Finmap.lookup_insert_of_ne _ (Ne.symm named)]
      exact stripped
    · exact stripped

theorem reconciled_stray (named : config.scopeField ≠ "id")
    (fresh : GeneratesFresh entity records pending) {queued : StoredRow}
    (member : queued ∈ pending) (kept : queued.op ≠ .delete)
    (unlisted : queued.entityId ∉ serverIds records)
    (unknown : queued.entityId ∉ localIds config scope entity db)
    (carries : queued.data = some data) (bare : recordId data = none) :
    ∃ id, has (reconciled config persisted scope entity records pending db) (entity, id) =
        true ∧
      has db (entity, id) = false ∧ id ∉ serverIds records ∧
      ∀ other ∈ pending, other.entityId ≠ id := by
  have planned : Put.tryCreate entity data ∈
      planWrites config scope entity records pending db := by
    apply List.mem_append_right
    refine List.mem_filterMap.mpr ⟨queued, member, ?_⟩
    rw [pendingPut, if_neg (by simp [kept, unlisted, unknown]), carries]
    rfl
  have writes : ∀ put ∈ planWrites config scope entity records pending db, ∀ other id,
      put ≠ .delete other id := plan_writes_kept
  obtain ⟨before, after, split⟩ := List.append_of_mem planned
  rw [split] at writes
  -- the rows the create finds still have everything that was there at the start
  let rows := before.foldl (putRow config persisted) db
  obtain ⟨unheld, unserved, unqueued⟩ := fresh rows
  have grown : has db (entity, Database.newId rows) = false := by
    cases held : has db (entity, Database.newId rows) with
    | false => rfl
    | true =>
      have still : has rows (entity, Database.newId rows) = true :=
        has_put_rows (fun put earlier => writes put (List.mem_append_left _ earlier)) held
      rw [has, unheld] at still
      cases still
  refine ⟨Database.newId rows, ?_, grown, unserved, unqueued⟩
  have created : has (putRow config persisted rows (.tryCreate entity data))
      (entity, Database.newId rows) = true := by
    rw [putRow, Db.create, stored_form_without_id named bare, Option.getD_none, has,
      Db.lookup_put_self]
    rfl
  rw [reconciled, plan_parts, List.foldl_append, split, List.foldl_append, List.foldl_cons]
  apply has_delete_rows
  · intro id deleted same
    cases same
    obtain ⟨row, held, _⟩ := mem_local_ids.mp (List.mem_of_mem_filter deleted)
    rw [has, held] at grown
    cases grown
  · exact has_put_rows (fun put later => writes put
      (List.mem_append_right _ (List.mem_cons_of_mem _ later))) created

/-- A reconcile is faithful exactly when every queued write of a row that neither side has carries
the row's id, and the last one sets the row. -/
theorem reconciled_replays_iff (named : config.scopeField ≠ "id")
    (fresh : GeneratesFresh entity records pending) (ownRow : NamesOwnRow pending) :
    ReplaysQueue config persisted entity records pending db
        (reconciled config persisted scope entity records pending db) ↔
      OwnIds config scope entity records pending db ∧
        ∀ id, db.rows.lookup (entity, id) = none → id ∉ serverIds records →
          LastWriteSets config persisted entity id (queuedOf pending id) := by
  constructor
  · intro replays
    have own : OwnIds config scope entity records pending db := by
      intro queued member kept unlisted unknown data carries
      rcases ownRow queued member data carries with bare | identified
      · obtain ⟨id, present, absent, unserved, unqueued⟩ :=
          reconciled_stray named fresh member kept unlisted unknown carries bare
        rcases replays.known id present with held | listed | ⟨other, waits, same⟩
        · rw [held] at absent
          cases absent
        · exact absurd listed unserved
        · exact absurd same (unqueued other waits)
      · exact identified
    refine ⟨own, ?_⟩
    intro id absent unlisted
    rw [← create_eq_replay_iff, ← reconciled_absent own absent unlisted, ← Db.seen]
    exact replays.rows id absent unlisted
  · intro condition
    obtain ⟨own, sets⟩ := condition
    have rows : ∀ id, db.rows.lookup (entity, id) = none → id ∉ serverIds records →
        (reconciled config persisted scope entity records pending db).seen (entity, id) =
          (queuedOf pending id).foldl (replayQueued config persisted entity id) none := by
      intro id absent unlisted
      rw [Db.seen, reconciled_absent own absent unlisted, create_eq_replay_iff]
      exact sets id absent unlisted
    refine ⟨rows, ?_⟩
    intro id present
    by_contra unasked
    push Not at unasked
    obtain ⟨absent, unlisted, unqueued⟩ := unasked
    have nothing : queuedOf pending id = [] := by
      rw [queuedOf, List.filter_eq_nil_iff]
      intro queued member here
      exact unqueued queued member (of_decide_eq_true here)
    have gone := rows id (not_has_iff.mp (Bool.eq_false_of_not_eq_true absent)) unlisted
    rw [nothing, List.foldl_nil, Db.seen, Option.map_eq_none_iff] at gone
    rw [has, gone] at present
    cases present

/-- Over rows that no failure disturbs, `reconcile_children` applies the queued mutations of the
rows that neither side has in order, and creates no other rows, if and only if every queued
write of such a row carries its id and the last one sets the row. -/
theorem reconcile_replays_queue_iff (config : StoreConfig)
    (scope entity : String) (records : List Record) (state : LocalState)
    (calm : state.faults = []) (named : config.scopeField ≠ "id")
    (fresh : GeneratesFresh entity records (pendingFor (state.queue.getD []) scope entity))
    (ownRow : NamesOwnRow (pendingFor (state.queue.getD []) scope entity)) :
    ReplaysQueue config state.persistence.isSome entity records
        (pendingFor (state.queue.getD []) scope entity) (localDb state)
        (localDb (reconcileChildren config scope entity records state).2) ↔
      OwnIds config scope entity records (pendingFor (state.queue.getD []) scope entity)
          (localDb state) ∧
        ∀ id, (localDb state).rows.lookup (entity, id) = none → id ∉ serverIds records →
          LastWriteSets config state.persistence.isSome entity id
            (queuedOf (pendingFor (state.queue.getD []) scope entity) id) := by
  rw [reconcile_children_calm calm]
  dsimp only
  rw [local_db_store_local]
  exact reconciled_replays_iff named fresh ownRow

end

section

theorem length_long_id (ids : List String) :
    9 ≤ (ids.foldr (fun id joined => id ++ joined) "generated").length ∧
      ∀ id ∈ ids, id.length < (ids.foldr (fun id joined => id ++ joined) "generated").length := by
  induction ids with
  | nil => exact ⟨by decide, by simp⟩
  | cons first rest ih =>
    rw [List.foldr_cons, String.length_append]
    refine ⟨by omega, ?_⟩
    intro id member
    rcases List.mem_cons.mp member with here | later
    · rw [here]
      omega
    · have shorter := ih.2 id later
      omega

theorem long_id_fresh {entity : String} {records : List Record} {pending : List StoredRow}
    (listed : ∀ id ∈ serverIds records, id.length < 9)
    (queued : ∀ queued ∈ pending, queued.entityId.length < 9) :
    GeneratesFresh entity records pending := by
  intro rows
  have long := length_long_id (rows.rows.entries.map (fun entry => entry.1.2))
  refine ⟨?_, ?_, ?_⟩
  · cases held : rows.rows.lookup (entity, longId rows) with
    | none => rfl
    | some row =>
      have member := AList.mem_lookup_iff.mp held
      have shorter := long.2 (longId rows) (List.mem_map.mpr ⟨_, member, rfl⟩)
      exact absurd shorter (Nat.lt_irrefl _)
  · intro member
    have shorter := listed _ member
    exact absurd (long.1.trans_lt shorter) (Nat.lt_irrefl _)
  · intro row member same
    have shorter := queued row member
    rw [same] at shorter
    exact absurd (long.1.trans_lt shorter) (Nat.lt_irrefl _)

def queuedTask (op : Operation) (id : String) (data : Option Record) : StoredRow :=
  ⟨"q", op, "task", id, "b1", data, 1⟩

def insertedTwice : List StoredRow :=
  [queuedTask .insert "t1" (some (taskIn "t1" "b1" "draft")),
    queuedTask .insert "t1" (some (taskIn "t1" "b1" "final"))]

theorem inserted_twice_replays :
    ReplaysQueue boards true "task" [] insertedTwice (localDb (storeWith [] insertedTwice))
      (localDb (reconcileChildren boards "b1" "task" [] (storeWith [] insertedTwice)).2) := by
  have queue : pendingFor ((storeWith [] insertedTwice).queue.getD []) "b1" "task" =
      insertedTwice := by decide
  have replays := reconcile_replays_queue_iff boards "b1" "task" [] (storeWith []
    insertedTwice) rfl (by decide)
  rw [queue] at replays
  have carried : ∀ queued ∈ insertedTwice, queued.entityId = "t1" ∧
      queued.data.bind recordId = some "t1" := by decide
  have identified : ∀ queued ∈ insertedTwice, ∀ data, queued.data = some data →
      recordId data = some queued.entityId := by
    intro queued member data carries
    have both := carried queued member
    rw [carries, Option.bind_some] at both
    rw [both.1, both.2]
  apply (replays (long_id_fresh (by decide) (by decide)) ?_).mpr ⟨?_, ?_⟩
  · intro queued member data carries
    exact .inr (identified queued member data carries)
  · intro queued member _ _ _ data carries
    exact identified queued member data carries
  · intro id _ _
    by_cases here : id = "t1"
    · subst here
      exact .inr ⟨[queuedTask .insert "t1" (some (taskIn "t1" "b1" "draft"))],
        queuedTask .insert "t1" (some (taskIn "t1" "b1" "final")), [], by decide, by simp,
        taskIn "t1" "b1" "final", rfl, .inl rfl⟩
    · left
      intro queued member
      obtain ⟨held, same⟩ := List.mem_filter.mp member
      exact absurd ((of_decide_eq_true same).symm.trans (carried queued held).1) here

def editedAndDeleted : List StoredRow :=
  [queuedTask .insert "t1" (some (taskIn "t1" "b1" "draft")),
    queuedTask .update "t1" (some (record [("title", .string "final")])),
    queuedTask .insert "t2" (some (taskIn "t2" "b1" "gone")),
    queuedTask .delete "t2" none]

def replayedBoard : Db :=
  localDb (reconcileChildren boards "b1" "task" [] (storeWith [] editedAndDeleted)).2

/-- The edit ends up in a row of its own and the deleted task is back. -/
theorem edited_and_deleted_not_replayed :
    GeneratesFresh "task" [] editedAndDeleted ∧
      replayedBoard.seen ("task", "t1") = some (taskIn "t1" "b1" "draft") ∧
      (replayedBoard.rows.lookup ("task", "t1generated")).bind (fun row => row.lookup "title") =
        some (.string "final") ∧
      replayedBoard.seen ("task", "t2") = some (taskIn "t2" "b1" "gone") ∧
      ¬ ReplaysQueue boards true "task" [] editedAndDeleted
        (localDb (storeWith [] editedAndDeleted)) replayedBoard := by
  have restored : replayedBoard.seen ("task", "t2") = some (taskIn "t2" "b1" "gone") := by
    decide
  refine ⟨long_id_fresh (by decide) (by decide), ?_, ?_, restored, ?_⟩
  · decide
  · decide
  · intro replays
    have gone := replays.rows "t2" (by decide) (by decide)
    rw [restored] at gone
    exact absurd gone (by decide)

end

end Stitch.Client.PendingReplay
