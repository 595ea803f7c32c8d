import Stitch.Client.RefusedEdits

/-!
# A refused update beside an accepted one

Two updates of one row run at the same time and the broker denies the first. Its pre-image is
the whole row as it was read, so what the second update writes between that read and the
rollback is lost. While the first one runs in one piece nothing is lost.
-/

namespace Stitch.Client.ConcurrentUpdates

open Foundation.FiniteMap Foundation.Interleaving Mutations Consolidation
open LocalRows EventReplay SyncRequests StoreEdits EditRollback RefusedEdits
open ScopeReplacement (boards record taskRow)
open RefusedMutations (taskStored)

section

variable {id : String} {fields row : Record}

def updatedRow (id : String) (fields row : Record) : Record :=
  (stripNulls fields ∪ row).insert "id" (.string id)

theorem updated_row_carries : (updatedRow id fields row).lookup "id" = some (.string id) :=
  Finmap.lookup_insert _

theorem updated_row_lookup {field : String} (other : field ≠ "id") :
    (updatedRow id fields row).lookup field =
      ((stripNulls fields).lookup field).or (row.lookup field) := by
  rw [updatedRow, Finmap.lookup_insert_of_ne _ other, lookup_union]

theorem updated_row_again :
    updatedRow id fields (updatedRow id fields row) = updatedRow id fields row := by
  apply Finmap.ext_lookup
  intro field
  by_cases here : field = "id"
  · rw [here, updated_row_carries, updated_row_carries]
  · rw [updated_row_lookup here, updated_row_lookup here]
    cases (stripNulls fields).lookup field with
    | none | some value => rfl

theorem strip_nulls_same_iff :
    stripNulls row = row ↔ ∀ field value, row.lookup field = some value → value ≠ .null := by
  constructor
  · intro same field value held
    rw [← same, stripNulls, lookup_keepValues, Option.filter_eq_some_iff] at held
    simpa using held.2
  · intro nonNull
    apply Finmap.ext_lookup
    intro field
    cases held : row.lookup field with
    | none => rw [stripNulls, lookup_keepValues, held, Option.filter_none]
    | some value => exact strip_nulls_lookup held (nonNull field value held)

theorem updated_row_non_null (nonNull : stripNulls row = row) :
    stripNulls (updatedRow id fields row) = updatedRow id fields row := by
  rw [strip_nulls_same_iff] at nonNull ⊢
  intro field value held
  by_cases here : field = "id"
  · rw [here, updated_row_carries] at held
    rw [← Option.some.inj held]
    simp
  · rw [updated_row_lookup here, Option.or_eq_some_iff] at held
    obtain own | ⟨_, kept⟩ := held
    · rw [stripNulls, lookup_keepValues, Option.filter_eq_some_iff] at own
      simpa using own.2
    · exact nonNull field value kept

variable [Database] {held : Record}

theorem kept_updated_row (id : String) (fields : Record) (same : kept held = kept row) :
    kept ((Database.updated (stripNulls fields) held).insert "id" (.string id)) =
      kept (updatedRow id fields row) :=
  kept_insert_congr ((kept_updated _ held).trans (kept_union_congr same _)) _ _

theorem kept_created_again (nonNull : stripNulls row = row) (same : kept held = kept row) :
    kept (Database.created (stripNulls held)) = kept row := by
  rw [kept_created, ← nonNull, kept_eq_iff]
  intro field given
  rw [stripNulls, stripNulls, lookup_keepValues, lookup_keepValues, kept_eq_iff.mp same field given]

theorem named_of_kept {config : StoreConfig} {entity : String} (same : kept held = kept row)
    (named : (scopeFromRow config entity row).isSome) :
    ∃ scope, scopeFromRow config entity held = some scope := by
  rw [← Option.isSome_iff_exists, scopeFromRow, recordId, refScope,
    kept_eq_iff.mp same _ Database.id_kept, kept_eq_iff.mp same _ config.scopeKept]
  exact named

end

/-- A store holds the row, up to the fields that the database sets itself. -/
def HeldAs [Database] (row : Record) (held : Option Record) : Prop :=
  held.map kept = some (kept row)

/-- No database call fails, memory holds the row, and what persistence holds is as described. -/
structure Held [Database] (configured : Bool) (key : RowKey) (row : Record)
    (Stored : Option Record → Prop) (state : LocalState) : Prop where
  calm : state.faults = []
  configured : state.persistence.isSome = configured
  cached : HeldAs row (cachedAt key state)
  stored : ∀ stored ∈ storedAt key state, Stored stored

abbrev InStores [Database] (configured : Bool) (key : RowKey) (row : Record) :
    LocalState → Prop :=
  Held configured key row (HeldAs row)

section

variable [Database] {config : StoreConfig} {entity id scope : String} {fields row found : Record}
  {issue : Issue} {edit : Edit} {err : Error} {state : LocalState} {configured : Bool}
  {Stored Later : Option Record → Prop}

theorem held_as_some {held : Option Record} (as : HeldAs row held) :
    ∃ found, held = some found ∧ kept found = kept row :=
  Option.map_eq_some_iff.mp as

theorem memory_update_held (fields : Record)
    (held : Held configured (entity, id) row Stored state) :
    ∃ after, memoryUpdate entity id fields state = (.ok (), after) ∧
      Held configured (entity, id) (updatedRow id fields row) Stored after := by
  obtain ⟨now, present, same⟩ := held_as_some held.cached
  have updated : state.memory.update entity id (stripNulls fields) =
      some (state.memory.put entity id (Database.updated (stripNulls fields) now)) := by
    rw [cachedAt] at present
    rw [Db.update, present]
    rfl
  rw [memory_update_calm held.calm, updated]
  refine ⟨_, rfl, held.calm, held.configured, ?_, held.stored⟩
  change HeldAs _ ((state.memory.put entity id _).rows.lookup (entity, id))
  rw [Db.lookup_put_self]
  exact congrArg some (kept_updated_row id fields same)

theorem stored_update_held (held : Held true (entity, id) row Stored state)
    (absent : Stored none → Later none)
    (updated : ∀ found, Stored (some found) →
      Later (some ((Database.updated (stripNulls fields) found).insert "id" (.string id)))) :
    Held true (entity, id) row Later (accessorUpdate entity id fields state).2 := by
  obtain ⟨db, persisted⟩ := Option.isSome_iff_exists.mp held.configured
  have quiet : Quiet db state := ⟨held.calm, persisted⟩
  have before : Stored (db.rows.lookup (entity, id)) := by
    apply held.stored
    rw [storedAt, persisted]
    rfl
  rw [accessor_update_quiet quiet, Db.update]
  cases lookup : db.rows.lookup (entity, id) with
  | none =>
    rw [lookup] at before
    refine ⟨held.calm, held.configured, held.cached, ?_⟩
    intro stored present
    rw [Option.map_none, storedAt, persisted, Option.map_some, lookup] at present
    rw [← Option.some.inj present]
    exact absent before
  | some found =>
    rw [lookup] at before
    refine ⟨held.calm, rfl, held.cached, ?_⟩
    intro stored present
    rw [← Option.some.inj present]
    change Later ((db.put entity id _).rows.lookup (entity, id))
    rw [Db.lookup_put_self]
    exact updated found before

/-- What is left of an accepted edit once it has written both stores. -/
theorem submit_accepted_keeps (answers : ∀ scope, issue.answer scope = .ok ())
    (preImage : Option Record) :
    Maintains (Held configured (entity, id) row Stored)
      (submit config edit issue scope preImage) := by
  have queued : ∀ state queue, Held configured (entity, id) row Stored state →
      Held configured (entity, id) row Stored { state with queue := queue } :=
    fun _ _ held => ⟨held.calm, held.configured, held.cached, held.stored⟩
  apply maintains_bind
  · apply maintains_atomic
    intro state held
    rw [enqueue_calm held.calm]
    exact queued state _ held
  intro _
  split_ifs
  · intro state held
    refine ⟨held, ?_⟩
    rw [answers scope]
    change Maintains _ (editAnswered config edit scope preImage (.ok ()))
    refine maintains_bind (maintains_tried (maintains_atomic ?_)) (fun _ => trivial)
    intro state held
    rw [remove_queued_calm held.calm]
    exact queued state _ held
  · trivial

theorem edit_found_named (issue : Issue)
    (named : scopeFromRow config edit.entity row = some scope) :
    editFound config edit issue (some row) =
      (edit.cached >>= fun _ => editLocated config edit issue (some row)) := by
  rw [editFound, Option.bind_some, named]
  rfl

theorem edit_located_named (issue : Issue)
    (named : scopeFromRow config entity found = some scope) :
    editLocated config (updateEdit entity id fields) issue (some found) =
      (persistent >>= fun configured => do
        if configured then let _ ← tried (atomic (accessorUpdate entity id fields))
        submit config (updateEdit entity id fields) issue scope (some found)) := by
  have names : scopeFromRow config (updateEdit entity id fields).entity found = some scope := named
  rw [editLocated, locate, Option.bind_some, names]
  refine congrArg (Steps.step _) (funext fun state => ?_)
  change followedBy (if state.persistence.isSome then _ else _) _ =
    if state.persistence.isSome then _ else _
  cases state.persistence.isSome with
  | false | true => rfl

theorem unpersisted_held (held : Held false (entity, id) row Stored state) :
    Held false (entity, id) row Later state := by
  refine ⟨held.calm, held.configured, held.cached, ?_⟩
  intro stored present
  have missing := stored_at_is_some (entity, id) state
  rw [present, held.configured] at missing
  cases missing

theorem stored_updated
    (held : Held true (entity, id) (updatedRow id fields row) (HeldAs row) state) :
    InStores true (entity, id) (updatedRow id fields row)
      (accessorUpdate entity id fields state).2 := by
  apply stored_update_held held
  · intro absent
    cases absent
  · intro found same
    exact congrArg some (kept_updated_row id fields (Option.some.inj same))

theorem updated_again_held (fields row found : Record)
    (held : HeldAs (updatedRow id fields row) (some found)) :
    HeldAs (updatedRow id fields row)
      (some ((Database.updated (stripNulls fields) found).insert "id" (.string id))) := by
  have again := kept_updated_row id fields (Option.some.inj held)
  rw [updated_row_again] at again
  exact congrArg some again

section

variable (named : scopeFromRow config entity found = some scope)
  (answers : ∀ scope, issue.answer scope = .ok ())

include named answers

/-- An accepted update that has written memory keeps what its later writes do not change. -/
theorem located_accepted_keeps (again : ∀ found, Stored (some found) →
      Stored (some ((Database.updated (stripNulls fields) found).insert "id" (.string id)))) :
    Maintains (Held configured (entity, id) row Stored)
      (editLocated config (updateEdit entity id fields) issue (some found)) := by
  rw [edit_located_named issue named]
  intro state held
  refine ⟨held, ?_⟩
  change Maintains _ (if state.persistence.isSome then _ else _)
  rw [held.configured]
  cases configured with
  | false => exact submit_accepted_keeps answers (some found)
  | true =>
    intro writing held
    exact ⟨stored_update_held held (fun absent => absent) again,
      submit_accepted_keeps answers (some found)⟩

variable (held : Held configured (entity, id) (updatedRow id fields row) (HeldAs row) state)

include held

theorem located_accepted_alone :
    InStores configured (entity, id) (updatedRow id fields row)
      (alone (editLocated config (updateEdit entity id fields) issue (some found)) state).2 := by
  rw [edit_located_named issue named]
  change InStores _ _ _ (alone (if state.persistence.isSome then _ else _) state).2
  rw [held.configured]
  cases configured with
  | false => exact alone_keeps (submit_accepted_keeps answers _) (unpersisted_held held)
  | true =>
    rw [if_pos rfl, alone_tried_bind]
    exact alone_keeps (submit_accepted_keeps answers _) (stored_updated held)

/-- Wherever it is after that, it keeps a row that both stores hold. -/
theorem located_accepted_advances (turns : Nat) :
    Maintains (InStores configured (entity, id) (updatedRow id fields row))
      (advances turns state
        (editLocated config (updateEdit entity id fields) issue (some found))).2 := by
  cases turns with
  | zero => exact located_accepted_keeps named answers (updated_again_held fields row)
  | succ turns =>
    rw [edit_located_named issue named]
    change Maintains _ (advances turns state (if state.persistence.isSome then _ else _)).2
    rw [held.configured]
    cases configured with
    | false =>
      exact (advances_keeps (submit_accepted_keeps answers _) (unpersisted_held held)).2
    | true =>
      cases turns with
      | zero =>
        intro writing later
        exact ⟨stored_update_held later (fun absent => absent) (updated_again_held fields row),
          submit_accepted_keeps answers _⟩
      | succ turns =>
        exact (advances_keeps (submit_accepted_keeps answers _) (stored_updated held)).2

omit held

theorem found_accepted_alone (held : InStores configured (entity, id) row state) :
    InStores configured (entity, id) (updatedRow id fields row)
      (alone (editFound config (updateEdit entity id fields) issue (some found)) state).2 := by
  obtain ⟨written, ran, later⟩ : ∃ written, memoryUpdate entity id fields state = _ ∧ _ :=
    memory_update_held fields held
  have located : editFound config (updateEdit entity id fields) issue (some found) = _ :=
    edit_found_named issue named
  rw [located]
  change InStores _ _ _ (alone (atomic (memoryUpdate entity id fields) >>= _) state).2
  rw [alone_atomic_bind ran]
  exact located_accepted_alone named answers later

end

/-- A refused update that runs alone leaves the row that memory held in both stores. -/
theorem refused_restores (cached : HeldAs row (cachedAt (entity, id) state))
    (nonNull : stripNulls row = row) (named : (scopeFromRow config entity row).isSome)
    (answers : ∀ scope, issue.answer scope = .error err) (denied : Denied err)
    (calm : state.faults = []) {after : LocalState}
    (ran : alone (update config entity id fields issue) state = (.error err, after)) :
    InStores state.persistence.isSome (entity, id) row after := by
  have returned : (alone (editRow config (updateEdit entity id fields) issue) state).1 =
      .error err := congrArg Prod.fst ran
  obtain ⟨scope, seen, chosen, back, aside⟩ :=
    refused_edit_left (update_confined entity id fields) calm answers denied returned
  have left : (alone (editRow config (updateEdit entity id fields) issue) state).2 = after :=
    congrArg Prod.snd ran
  rw [left] at back aside
  obtain ⟨now, present, same⟩ := held_as_some cached
  obtain ⟨other, names⟩ := named_of_kept same named
  have carried := state.memory.keyed (entity, id) now present
  change located config entity (cachedAt (entity, id) state) _ = _ at chosen
  rw [present, located_named _ names] at chosen
  cases chosen
  change WrittenBack config entity id scope seen after at back
  have again := kept_created_again nonNull same
  refine ⟨aside.calm, aside.configured, ?_, ?_⟩
  · rw [back.cached, cached_again_eq carried names]
    exact congrArg some again
  · intro stored held
    rw [back.stored stored held, stored_again_eq carried]
    exact congrArg some again

/-- Every field the second update sets has its value, the others have the original one; fields
that the database sets itself are not compared. -/
def KeepsSecond (row secondFields final : Record) : Prop :=
  ∀ field, Ordinary field →
    (∀ value, secondFields.lookup field = some value → value ≠ .null →
      final.lookup field = some value) ∧
    (secondFields.lookup field = none → final.lookup field = row.lookup field)

theorem updated_row_keeps_second (id : String) (row secondFields : Record) :
    KeepsSecond row secondFields (updatedRow id secondFields row) := by
  intro field ordinary
  constructor
  · intro value held set
    rw [updated_row_lookup ordinary.1, strip_nulls_lookup held set, Option.some_or]
  · intro unset
    rw [updated_row_lookup ordinary.1, stripNulls, lookup_keepValues, unset, Option.filter_none,
      Option.none_or]

theorem update_reads (calm : state.faults = []) (cached : cachedAt (entity, id) state = some row) :
    advance state (update config entity id fields issue) =
      (state, editFound config (updateEdit entity id fields) issue (some row)) := by
  have read := memory_read_calm calm entity id
  rw [cached] at read
  change ((memoryRead entity id state).2, resume _ (memoryRead entity id state).1) = _
  rw [read]
  rfl

theorem found_writes (named : scopeFromRow config entity row = some scope) {written : LocalState}
    (ran : memoryUpdate entity id fields state = (.ok (), written)) :
    advance state (editFound config (updateEdit entity id fields) issue (some row)) =
      (written, editLocated config (updateEdit entity id fields) issue (some row)) := by
  have located : editFound config (updateEdit entity id fields) issue (some row) = _ :=
    edit_found_named issue named
  rw [located]
  change ((memoryUpdate entity id fields state).2, resume _ (memoryUpdate entity id fields state).1)
    = _
  rw [ran]
  rfl

section

variable {firstFields secondFields : Record} {first second : Issue} {middle after : LocalState}
  {secondOutcome : Except Error Unit}
  (nonNull : stripNulls row = row) (named : (scopeFromRow config entity row).isSome)
  (refuses : ∀ scope, first.answer scope = .error err) (denied : Denied err)
  (accepts : ∀ scope, second.answer scope = .ok ())

include nonNull named refuses denied accepts

/-- The second update has at most read its row when the first one runs. -/
theorem second_goes_on {program : StoreSteps Unit}
    (held : InStores configured (entity, id) row state)
    (begun : program = update config entity id secondFields second ∨
      ∃ found, kept found = kept row ∧
        program = editFound config (updateEdit entity id secondFields) second (some found))
    (firstRan : alone (update config entity id firstFields first) state = (.error err, middle))
    (secondRan : alone program middle = (secondOutcome, after)) :
    InStores configured (entity, id) (updatedRow id secondFields row) after := by
  have restored := refused_restores held.cached nonNull named refuses denied held.calm firstRan
  rw [held.configured] at restored
  obtain ⟨now, present, same⟩ := held_as_some restored.cached
  have left : (alone program middle).2 = after := congrArg Prod.snd secondRan
  rw [← left]
  rcases begun with rfl | ⟨found, as, rfl⟩
  · have read := memory_read_calm restored.calm entity id
    rw [present] at read
    change InStores _ _ _ (alone (atomic (memoryRead entity id) >>= _) middle).2
    rw [alone_atomic_bind read]
    obtain ⟨scope, names⟩ := named_of_kept same named
    exact found_accepted_alone names accepts restored
  · obtain ⟨scope, names⟩ := named_of_kept as named
    exact found_accepted_alone names accepts restored

/-- The second update has written memory when the first one reads it. -/
theorem second_written_first {found : Record} {turns : Nat}
    (renamed : (scopeFromRow config entity (updatedRow id secondFields row)).isSome)
    (same : kept found = kept row) {written : LocalState}
    (cached : Held configured (entity, id) (updatedRow id secondFields row) (HeldAs row) written)
    (firstRan : alone (update config entity id firstFields first)
      (advances turns written
        (editLocated config (updateEdit entity id secondFields) second (some found))).1 =
      (.error err, middle))
    (secondRan : alone (advances turns written
        (editLocated config (updateEdit entity id secondFields) second (some found))).2 middle =
      (secondOutcome, after)) :
    InStores configured (entity, id) (updatedRow id secondFields row) after := by
  obtain ⟨scope, names⟩ := named_of_kept same named
  have keeps : Maintains
      (Held configured (entity, id) (updatedRow id secondFields row) (fun _ => True))
      (editLocated config (updateEdit entity id secondFields) second (some found)) :=
    located_accepted_keeps names accepts (fun _ _ => trivial)
  have now : Held _ _ _ _ (advances turns written _).1 := (advances_keeps keeps
    ⟨cached.calm, cached.configured, cached.cached, fun _ _ => trivial⟩).1
  have restored := refused_restores now.cached (updated_row_non_null nonNull) renamed refuses
    denied now.calm firstRan
  rw [now.configured] at restored
  have left := alone_keeps (located_accepted_advances names accepts cached turns) restored
  rw [secondRan] at left
  exact left

end

end

def acceptedIssue : Issue where
  rowId := "q3"
  nowMs := 9
  connected := true
  answer := fun _ => .ok ()

def finish : StoreSteps Unit :=
  update boards "task" "t1" (record [("done", .number 1)]) deniedIssue

def rename : StoreSteps Unit :=
  update boards "task" "t1" (record [("name", .string "ship")]) acceptedIssue

def both (schedule : List Turn) : LocalState × StoreSteps Unit × StoreSteps Unit :=
  interleave schedule taskStored finish rename

/-- The second update reads, the first one runs to its end, the second one goes on. -/
def renamedLast : List Turn :=
  List.replicate 1 .right ++ (List.replicate 20 .left ++ List.replicate 10 .right)

def renamedBetween : List Turn :=
  List.replicate 2 .left ++ (List.replicate 10 .right ++ List.replicate 20 .left)

end Stitch.Client.ConcurrentUpdates
