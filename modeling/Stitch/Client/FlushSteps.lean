import Stitch.Foundation.Interleaving
import Stitch.Client.PersistentQueue

/-!
# A flush while others queue rows

Transcription of the flushes of both offline queues as sequences of atomic steps, between
which other calls queue rows. The persistent queue deletes the rows of a mutation before it
sends the next one; the in-memory queue collects their record ids and drops the rows at the end.
-/

namespace Stitch.Client.FlushSteps

open Foundation.FiniteMap Foundation.FallibleState Foundation.Interleaving Mutations Consolidation
open WritePath PersistentQueue

/-- The rows of a queue and the state of its flush. -/
structure Table (Row : Type) where
  rows : List Row
  flushing : Bool
  /-- The record ids the in-memory queue takes out at the end. -/
  removeSet : List String
  /-- For specification: the rows when the flush took its snapshot, the snapshot, and the
  rows queued since. -/
  before : List Row
  snapshot : List StoredRow
  since : List Row

/-- What a flush meets: how the sender and the database answer, and the orders in which the
database lists rows and a hash map is iterated. -/
structure FlushAround where
  rootEntity : String
  answers : ConsolidatedMutation → FlushAnswers
  order : List StoredRow → List RowKey
  visits : ∀ rows, Visits (order rows) (groupRows rows)
  deletes : String → Bool
  listed : Except Error Unit
  scan : List QueuedRow → List QueuedRow
  scans : ∀ rows, (scan rows).Perm rows

def FlushAround.outcome (around : FlushAround) (mutation : ConsolidatedMutation) : FlushOutcome :=
  flushOutcome around.rootEntity mutation (around.answers mutation)

def FlushAround.consolidated (around : FlushAround) (rows : List StoredRow) :
    List ConsolidatedMutation :=
  consolidate (around.order rows) rows

def emptySummary : FlushSummary := ⟨0, []⟩

def addOutcome (later : FlushSummary) (mutation : ConsolidatedMutation) :
    FlushOutcome → FlushSummary
  | .drop => later
  | .dropRejected =>
    { later with rejectedInserts :=
        ⟨mutation.entity, mutation.id, mutation.scopeId⟩ :: later.rejectedInserts }
  | .keep => { later with retained := later.retained + 1 }

section

variable {Row : Type}

abbrev TableM (Row : Type) := Fallible (Table Row) Error

abbrev FlushM (Row : Type) := Steps (Table Row) Error

def Table.begin (table : Table Row) : Table Row :=
  { table with before := table.rows, snapshot := [], since := [] }

def tryAcquire : TableM Row Bool := do
  if ← inspect Table.flushing then do
    change Table.begin
    pure false
  else do
    change (fun table => { table.begin with flushing := true })
    pure true

def release : TableM Row Unit := change (fun table => { table with flushing := false })

def guarded (flush : FlushM Row FlushSummary) : FlushM Row FlushSummary := do
  if ← atomic tryAcquire then do
    let outcome ← tried flush
    atomic release
    .done outcome
  else pure emptySummary

def Table.snap (list : List Row → List StoredRow) (table : Table Row) : Table Row :=
  { table with
    removeSet := []
    before := table.rows
    snapshot := list table.rows
    since := [] }

def takeSnapshot (list : List Row → List StoredRow) : TableM Row (List StoredRow) := do
  change (Table.snap list)
  inspect Table.snapshot

variable (around : FlushAround)

def sendOut (mutation : ConsolidatedMutation) : FlushM Row FlushOutcome :=
  atomic (pure (around.outcome mutation))

def flushConsolidated (removeRecords : List String → FlushM Row Unit) :
    List ConsolidatedMutation → FlushM Row FlushSummary
  | [] => pure emptySummary
  | mutation :: rest => do
    let outcome ← sendOut around mutation
    if outcome ≠ .keep then removeRecords mutation.recordIds
    let later ← flushConsolidated removeRecords rest
    pure (addOutcome later mutation outcome)

/-- The removal of the persistent queue; a failed delete is ignored. -/
def deleteRecords : List String → FlushM QueuedRow Unit
  | [] => pure ()
  | recordId :: rest => do
    atomic (if around.deletes recordId then
        change (fun table =>
          { table with rows := table.rows.filter (fun row => row.recordId ≠ recordId) })
      else pure ())
    deleteRecords rest

def ownRows (user : String) (rows : List QueuedRow) : List StoredRow :=
  (around.scan (rows.filter (ownFilter user))).map QueuedRow.stored

def listOwn (user : String) : TableM QueuedRow (List StoredRow) := do
  settle around.listed
  takeSnapshot (ownRows around user)

/-- `PersistentOfflineQueue::do_flush`. -/
def doFlush (user : Option String) : FlushM QueuedRow FlushSummary :=
  match user with
  | none => pure emptySummary
  | some name => do
    let rows ← atomic (listOwn around name)
    if rows = [] then pure emptySummary
    else flushConsolidated around (deleteRecords around) (around.consolidated rows)

/-- `PersistentOfflineQueue::flush` for the user that is set. -/
def persistentFlush (user : Option String) : FlushM QueuedRow FlushSummary :=
  guarded (doFlush around user)

def collectRecords (recordIds : List String) : FlushM StoredRow Unit :=
  atomic (change (fun table => { table with removeSet := table.removeSet ++ recordIds }))

/-- `InMemoryOfflineQueue::flush`. -/
def inMemoryFlush : FlushM StoredRow FlushSummary :=
  guarded (do
    let rows ← atomic (takeSnapshot id)
    if rows = [] then pure emptySummary
    else do
      let summary ← flushConsolidated around collectRecords (around.consolidated rows)
      atomic (change (fun table =>
        { table with
          rows := table.rows.filter (fun row => row.recordId ∉ table.removeSet) }))
      pure summary)

def summaryOf : List ConsolidatedMutation → FlushSummary
  | [] => emptySummary
  | mutation :: rest => addOutcome (summaryOf rest) mutation (around.outcome mutation)

def droppedIds (mutations : List ConsolidatedMutation) : List String :=
  (mutations.filter (fun mutation => around.outcome mutation ≠ .keep)).flatMap
    ConsolidatedMutation.recordIds

variable {mutation : ConsolidatedMutation}

theorem dropped_kept (rest : List ConsolidatedMutation) (kept : around.outcome mutation = .keep) :
    droppedIds around (mutation :: rest) = droppedIds around rest := by
  rw [droppedIds, List.filter_cons_of_neg]
  · rfl
  · simp [kept]

theorem dropped_taken (rest : List ConsolidatedMutation) (taken : around.outcome mutation ≠ .keep) :
    droppedIds around (mutation :: rest) = mutation.recordIds ++ droppedIds around rest := by
  rw [droppedIds, List.filter_cons_of_pos]
  · rfl
  · simp [taken]

variable {around} {table : Table QueuedRow} (stored : Row → StoredRow)

def idOf (row : Row) : String := (stored row).recordId

/-- Other calls queue rows under new record ids. -/
structure Queues (table after : Table Row) (queued : List Row) : Prop where
  result : after =
    { table with
      rows := table.rows ++ queued
      since := table.since ++ queued }
  distinct : (queued.map (idOf stored)).Nodup
  fresh : ∀ row ∈ queued, idOf stored row ∉ table.rows.map (idOf stored) ∧
    idOf stored row ∉ (table.before ++ table.since).map (idOf stored)

def QueuesSome (table after : Table Row) : Prop := ∃ queued, Queues stored table after queued

variable {stored}

theorem queues_none (table : Table Row) : QueuesSome stored table table := by
  refine ⟨[], ?_, List.nodup_nil, ?_⟩
  · rw [List.append_nil, List.append_nil]
  · intro row member
    cases member

/-- The rows of the snapshot are known, record ids are distinct, and only those of its table are
taken out. -/
structure Known (stored : Row → StoredRow) (held : List Row) (listing : List StoredRow)
    (taken : List String) (table : Table Row) : Prop where
  before : table.before = held
  snapshot : table.snapshot = listing
  distinct : ((held ++ table.since).map (idOf stored)).Nodup
  taken : ∀ recordId ∈ taken, recordId ∈ held.map (idOf stored)

variable {held : List Row} {listing : List StoredRow} {taken : List String}
  {table after : Table Row}
variable {queued : List Row}

theorem queued_not_taken (known : Known stored held listing taken table)
    (queues : Queues stored table after queued) {row : Row} (member : row ∈ queued) :
    idOf stored row ∉ taken := by
  intro removed
  apply (queues.fresh row member).2
  rw [known.before, List.map_append]
  exact List.mem_append_left _ (known.taken _ removed)

theorem known_stable (known : Known stored held listing taken table)
    (queues : QueuesSome stored table after) : Known stored held listing taken after := by
  obtain ⟨queued, queues⟩ := queues
  have fresh := queues.fresh
  rw [queues.result]
  refine ⟨known.before, known.snapshot, ?_, known.taken⟩
  rw [← List.append_assoc, List.map_append]
  refine known.distinct.append queues.distinct ?_
  intro recordId old new
  obtain ⟨row, member, named⟩ := List.mem_map.mp new
  apply (fresh row member).2
  rw [known.before, named]
  exact old

def without (stored : Row → StoredRow) (taken : List String) (rows : List Row) : List Row :=
  rows.filter (fun row => idOf stored row ∉ taken)

structure Deleting (stored : Row → StoredRow) (held : List Row) (listing : List StoredRow)
    (taken : List String) (table : Table Row) : Prop where
  known : Known stored held listing taken table
  rows : table.rows = without stored taken (held ++ table.since)

theorem without_queued (known : Known stored held listing taken table)
    (queues : Queues stored table after queued) : without stored taken queued = queued := by
  rw [without, List.filter_eq_self]
  intro row member
  exact decide_eq_true (queued_not_taken known queues member)

theorem deleting_stable (table after : Table Row) (moved : QueuesSome stored table after)
    (deleting : Deleting stored held listing taken table) :
    Deleting stored held listing taken after := by
  refine ⟨known_stable deleting.known moved, ?_⟩
  obtain ⟨queued, queues⟩ := moved
  have kept := without_queued deleting.known queues
  rw [queues.result]
  rw [← List.append_assoc, without, List.filter_append, deleting.rows]
  exact congrArg (fun rows => without stored taken (held ++ table.since) ++ rows) kept.symm

structure Collecting (stored : Row → StoredRow) (held : List Row) (listing : List StoredRow)
    (taken : List String) (table : Table Row) : Prop where
  known : Known stored held listing taken table
  rows : table.rows = held ++ table.since
  removeSet : table.removeSet = taken

theorem collecting_stable (table after : Table Row) (moved : QueuesSome stored table after)
    (collecting : Collecting stored held listing taken table) :
    Collecting stored held listing taken after := by
  refine ⟨known_stable collecting.known moved, ?_, ?_⟩
  · obtain ⟨queued, queues⟩ := moved
    rw [queues.result]
    rw [← List.append_assoc, collecting.rows]
  · obtain ⟨queued, queues⟩ := moved
    rw [queues.result]
    exact collecting.removeSet

variable {Inv : List String → Table Row → Prop}

/-- The loop takes out the record ids of the mutations that are not kept. -/
theorem flush_consolidated_ensures {removeRecords : List String → FlushM Row Unit}
    {known : List String}
    (stable : ∀ taken table after, QueuesSome stored table after → Inv taken table →
      Inv taken after)
    (removes : ∀ recordIds taken table, (∀ recordId ∈ recordIds, recordId ∈ known) →
      Inv taken table →
      Ensures (QueuesSome stored) (fun outcome after => outcome = .ok () ∧
        Inv (taken ++ recordIds) after) (removeRecords recordIds) table)
    (mutations : List ConsolidatedMutation)
    (covered : ∀ mutation ∈ mutations, ∀ recordId ∈ mutation.recordIds, recordId ∈ known)
    {table : Table Row} (holds : Inv taken table) :
    Ensures (QueuesSome stored) (fun outcome after =>
        outcome = .ok (summaryOf around mutations) ∧
          Inv (taken ++ droppedIds around mutations) after)
      (flushConsolidated around removeRecords mutations) table := by
  induction mutations generalizing taken table with
  | nil =>
    intro after moved
    refine ⟨rfl, ?_⟩
    have kept := stable taken table after moved holds
    rw [droppedIds, List.filter_nil, List.flatMap_nil, List.append_nil]
    exact kept
  | cons mutation rest ih =>
    have later : ∀ other ∈ rest, ∀ recordId ∈ other.recordIds, recordId ∈ known :=
      fun other member => covered other (List.mem_cons_of_mem _ member)
    -- What follows once the mutation's own rows are dealt with.
    have tail : ∀ (taken : List String) (table : Table Row), Inv taken table →
        Ensures (QueuesSome stored) (fun outcome after =>
            outcome = .ok (summaryOf around (mutation :: rest)) ∧
              Inv (taken ++ droppedIds around rest) after)
          (flushConsolidated around removeRecords rest >>= fun later =>
            pure (addOutcome later mutation (around.outcome mutation))) table := by
      intro taken table holds
      apply ensures_bind queues_none
      refine ensures_weaken ?_ (ih later holds)
      intro outcome ended done
      rw [done.1]
      intro final moved
      exact ⟨rfl, stable _ ended final moved done.2⟩
    apply ensures_bind queues_none
    apply ensures_atomic
    intro sending moved sent after
    have sentHolds := stable taken sending sent after (stable taken table sending moved holds)
    change Ensures _ _ (if around.outcome mutation ≠ .keep then _ else _) sent
    split_ifs with dropped
    · rw [dropped_taken around rest dropped, ← List.append_assoc]
      apply ensures_bind queues_none
      refine ensures_weaken ?_ (removes mutation.recordIds taken sent
        (covered mutation List.mem_cons_self) sentHolds)
      intro outcome removed done
      rw [done.1]
      exact tail _ removed done.2
    · rw [dropped_kept around rest (not_not.mp dropped)]
      exact tail taken sent sentHolds

variable {recordIds : List String}

theorem known_more {Row : Type} {stored : Row → StoredRow} {held : List Row} {table : Table Row}
    (known : Known stored held listing taken table)
    (covered : ∀ recordId ∈ recordIds, recordId ∈ held.map (idOf stored)) :
    Known stored held listing (taken ++ recordIds) table := by
  refine ⟨known.before, known.snapshot, known.distinct, ?_⟩
  intro recordId member
  obtain old | new := List.mem_append.mp member
  · exact known.taken recordId old
  · exact covered recordId new

theorem collect_ensures {stored : StoredRow → StoredRow} {held listing : List StoredRow}
    {table : Table StoredRow} (covered : ∀ recordId ∈ recordIds, recordId ∈ held.map (idOf stored))
    (collecting : Collecting stored held listing taken table) :
    Ensures (QueuesSome stored) (fun outcome after => outcome = .ok () ∧
        Collecting stored held listing (taken ++ recordIds) after)
      (collectRecords recordIds) table := by
  apply ensures_atomic
  intro middle moved after later
  have collecting := collecting_stable table middle moved collecting
  have more : Collecting stored held listing (taken ++ recordIds)
      { middle with removeSet := middle.removeSet ++ recordIds } := by
    have known := known_more collecting.known covered
    refine ⟨⟨known.before, known.snapshot, known.distinct, known.taken⟩, collecting.rows, ?_⟩
    rw [← collecting.removeSet]
  exact ⟨rfl, collecting_stable _ after later more⟩

variable {held : List QueuedRow} {table : Table QueuedRow}

theorem deleted_one {recordId : String} (known : recordId ∈ held.map (idOf QueuedRow.stored))
    (deleting : Deleting QueuedRow.stored held listing taken table) :
    Deleting QueuedRow.stored held listing (taken ++ [recordId])
      { table with rows := table.rows.filter (fun row => row.recordId ≠ recordId) } := by
  have more : Known QueuedRow.stored held listing (taken ++ [recordId]) table :=
    known_more deleting.known (by simpa using known)
  refine ⟨⟨more.before, more.snapshot, more.distinct, more.taken⟩, ?_⟩
  rw [deleting.rows, without, without, List.filter_filter]
  apply List.filter_congr
  intro row _
  have split : idOf QueuedRow.stored row ∉ taken ++ [recordId] ↔
      row.recordId ≠ recordId ∧ idOf QueuedRow.stored row ∉ taken := by
    rw [List.mem_append, List.mem_singleton, not_or, and_comm]
    rfl
  rw [← Bool.decide_and]
  exact decide_eq_decide.mpr split.symm

theorem delete_ensures (deletes : ∀ recordId, around.deletes recordId = true)
    (covered : ∀ recordId ∈ recordIds, recordId ∈ held.map (idOf QueuedRow.stored))
    (deleting : Deleting QueuedRow.stored held listing taken table) :
    Ensures (QueuesSome QueuedRow.stored) (fun outcome after => outcome = .ok () ∧
        Deleting QueuedRow.stored held listing (taken ++ recordIds) after)
      (deleteRecords around recordIds) table := by
  induction recordIds generalizing taken table with
  | nil =>
    intro after moved
    rw [List.append_nil]
    exact ⟨rfl, deleting_stable table after moved deleting⟩
  | cons recordId rest ih =>
    apply ensures_bind queues_none
    apply ensures_atomic
    intro middle moved after later
    have deleting := deleting_stable table middle moved deleting
    have one := deleted_one (covered recordId List.mem_cons_self) deleting
    rw [if_pos (deletes recordId)] at later ⊢
    have split : taken ++ recordId :: rest = (taken ++ [recordId]) ++ rest := by
      rw [List.append_assoc, List.singleton_append]
    rw [split]
    exact ih (fun other member => covered other (List.mem_cons_of_mem _ member))
      (deleting_stable _ after later one)

variable {answer : Except Error Unit}

/-- The snapshot lists rows of the table, each once. -/
structure Listed (stored : Row → StoredRow) (held : List Row) (listing : List StoredRow) : Prop where
  held : ∀ row ∈ listing, row ∈ held.map stored
  distinct : (listing.map StoredRow.recordId).Nodup

/-- The summary of the snapshot's mutations, or the error of a listing that failed. -/
def Returned (around : FlushAround) (listed : Except Error Unit) (listing : List StoredRow)
    (outcome : Except Error FlushSummary) : Prop :=
  outcome = .ok (summaryOf around (around.consolidated listing)) ∨
    ∃ err, listed = .error err ∧ outcome = .error err ∧ listing = []

/-- The rows of the snapshot's table and those queued since, without the rows of the mutations it
did not keep. -/
structure FlushEnds (stored : Row → StoredRow) (around : FlushAround) (answer : Except Error Unit)
    (outcome : Except Error FlushSummary) (table : Table Row) : Prop where
  deleting : Deleting stored table.before table.snapshot
    (droppedIds around (around.consolidated table.snapshot)) table
  listed : Listed stored table.before table.snapshot
  returned : Returned around answer table.snapshot outcome

variable {outcome : Except Error FlushSummary}

theorem flush_ends_stable (table after : Table Row) (moved : QueuesSome stored table after)
    (ends : FlushEnds stored around answer outcome table) :
    FlushEnds stored around answer outcome after := by
  have same : after.before = table.before ∧ after.snapshot = table.snapshot := by
    obtain ⟨queued, queues⟩ := moved
    rw [queues.result]
    exact ⟨rfl, rfl⟩
  have deleting := deleting_stable table after moved ends.deleting
  refine ⟨?_, ?_, ?_⟩
  · rw [same.1, same.2]
    exact deleting
  · rw [same.1, same.2]
    exact ends.listed
  · rw [same.2]
    exact ends.returned

theorem consolidated_nil (around : FlushAround) : around.consolidated [] = [] := by
  have none : ∀ key, consolidateGroup (getOr (groupRows []) key []) = none := by
    intro key
    rfl
  rw [FlushAround.consolidated, consolidate]
  simp [none]

variable {held : List Row} {listing : List StoredRow} {table : Table Row}

theorem ends_of_deleting (listed : Listed stored held listing)
    (deleting : Deleting stored held listing (droppedIds around (around.consolidated listing))
      table)
    (returned : Returned around answer listing outcome) :
    FlushEnds stored around answer outcome table := by
  have before := deleting.known.before
  have snapshot := deleting.known.snapshot
  refine ⟨?_, ?_, ?_⟩
  · rw [before, snapshot]
    exact deleting
  · rw [before, snapshot]
    exact listed
  · rw [snapshot]
    exact returned

theorem ends_without_snapshot (resting : Deleting stored held [] [] table)
    (returned : Returned around answer [] outcome) :
    FlushEnds stored around answer outcome table := by
  have empty : Listed stored held [] :=
    ⟨fun row member => absurd member List.not_mem_nil, List.nodup_nil⟩
  refine ends_of_deleting empty ?_ returned
  rw [consolidated_nil]
  exact resting

theorem empty_returned (around : FlushAround) (answer : Except Error Unit) :
    Returned around answer [] (.ok emptySummary) := by
  left
  rw [consolidated_nil]
  rfl

theorem covered_by_table (listed : Listed stored held listing) {mutation : ConsolidatedMutation}
    (member : mutation ∈ around.consolidated listing) {recordId : String}
    (included : recordId ∈ mutation.recordIds) : recordId ∈ held.map (idOf stored) := by
  obtain ⟨key, made⟩ := mem_consolidate member
  obtain ⟨row, grouped, named⟩ := consolidate_group_rows made recordId included
  obtain ⟨original, present, same⟩ :=
    List.mem_map.mp (listed.held row (List.mem_of_mem_filter grouped))
  refine List.mem_map.mpr ⟨original, present, ?_⟩
  rw [idOf, same, named]

theorem distinct_stable {table after : Table Row}
    (distinct : (table.rows.map (idOf stored)).Nodup) (moved : QueuesSome stored table after) :
    (after.rows.map (idOf stored)).Nodup := by
  obtain ⟨queued, queues⟩ := moved
  have fresh := queues.fresh
  rw [queues.result]
  rw [List.map_append]
  refine distinct.append queues.distinct ?_
  intro recordId old new
  obtain ⟨row, member, named⟩ := List.mem_map.mp new
  apply (fresh row member).1
  rw [named]
  exact old

theorem deleting_noted (distinct : (table.rows.map (idOf stored)).Nodup) (listing : List StoredRow)
    (noted : Table Row) (rows : noted.rows = table.rows) (before : noted.before = table.rows)
    (snapshot : noted.snapshot = listing) (since : noted.since = []) :
    Deleting stored table.rows listing [] noted := by
  refine ⟨⟨before, snapshot, ?_, ?_⟩, ?_⟩
  · rw [since, List.append_nil]
    exact distinct
  · intro recordId member
    cases member
  · rw [rows, since, List.append_nil, without, List.filter_eq_self.mpr]
    intro row _
    exact decide_eq_true List.not_mem_nil

theorem guarded_ensures {flush : FlushM Row FlushSummary}
    (ensured : ∀ held table, Deleting stored held [] [] table → Ensures (QueuesSome stored)
      (FlushEnds stored around answer) flush table)
    (distinct : (table.rows.map (idOf stored)).Nodup) :
    Ensures (QueuesSome stored) (FlushEnds stored around answer) (guarded flush) table := by
  apply ensures_bind queues_none
  apply ensures_atomic
  intro middle moved begun later
  have distinct := distinct_stable distinct moved
  cases busy : middle.flushing with
  | true =>
    have ran : tryAcquire middle = (.ok false, middle.begin) := by
      rw [tryAcquire, bind_inspect, busy]
      rfl
    rw [ran] at later ⊢
    intro final last
    exact ends_without_snapshot (deleting_stable _ final last
      (deleting_stable _ begun later (deleting_noted distinct [] _ rfl rfl rfl rfl)))
      (empty_returned around answer)
  | false =>
    have ran : tryAcquire middle = (.ok true, { middle.begin with flushing := true }) := by
      rw [tryAcquire, bind_inspect, busy]
      rfl
    rw [ran] at later ⊢
    apply ensures_bind queues_none
    apply ensures_tried
    refine ensures_weaken ?_ (ensured middle.rows begun
      (deleting_stable _ begun later (deleting_noted distinct [] _ rfl rfl rfl rfl)))
    intro outcome flushed ends
    apply ensures_bind queues_none
    apply ensures_atomic
    intro releasing moved released later final last
    have ends := flush_ends_stable flushed releasing moved ends
    have freed : FlushEnds stored around answer outcome { releasing with flushing := false } := by
      have known := ends.deleting.known
      exact ⟨⟨⟨known.before, known.snapshot, known.distinct, known.taken⟩, ends.deleting.rows⟩,
        ends.listed, ends.returned⟩
    exact flush_ends_stable released final last (flush_ends_stable _ released later freed)

theorem resting_distinct (resting : Deleting stored held [] [] table) :
    (table.rows.map (idOf stored)).Nodup := by
  rw [resting.rows]
  exact resting.known.distinct.sublist (List.filter_sublist.map _)

theorem own_rows_listed (around : FlushAround) (user : String) {rows : List QueuedRow}
    (distinct : (rows.map (idOf QueuedRow.stored)).Nodup) :
    Listed QueuedRow.stored rows (ownRows around user rows) where
  held := by
    intro row member
    obtain ⟨original, listed, same⟩ := List.mem_map.mp member
    have own := (around.scans (rows.filter (ownFilter user))).mem_iff.mp listed
    exact List.mem_map.mpr ⟨original, List.mem_of_mem_filter own, same⟩
  distinct := by
    rw [ownRows, List.map_map]
    have permuted := (around.scans (rows.filter (ownFilter user))).map (idOf QueuedRow.stored)
    exact permuted.nodup_iff.mpr (distinct.sublist (List.filter_sublist.map _))

variable {table : Table QueuedRow}

theorem deleted_flush_ensures (deletes : ∀ recordId, around.deletes recordId = true)
    {held : List QueuedRow} {listing : List StoredRow} {answer : Except Error Unit}
    (listed : Listed QueuedRow.stored held listing)
    (noted : Deleting QueuedRow.stored held listing [] table) :
    Ensures (QueuesSome QueuedRow.stored) (FlushEnds QueuedRow.stored around answer)
      (flushConsolidated around (deleteRecords around) (around.consolidated listing)) table := by
  have stable : ∀ taken table after, QueuesSome QueuedRow.stored table after →
      Deleting QueuedRow.stored held listing taken table →
      Deleting QueuedRow.stored held listing taken after :=
    fun _ table after moved => deleting_stable table after moved
  have removes : ∀ recordIds taken table,
      (∀ recordId ∈ recordIds, recordId ∈ held.map (idOf QueuedRow.stored)) →
      Deleting QueuedRow.stored held listing taken table →
      Ensures (QueuesSome QueuedRow.stored) (fun outcome after => outcome = .ok () ∧
        Deleting QueuedRow.stored held listing (taken ++ recordIds) after)
        (deleteRecords around recordIds) table :=
    fun _ _ _ covered deleting => delete_ensures deletes covered deleting
  have flushed : Ensures _ _ (flushConsolidated around (deleteRecords around)
      (around.consolidated listing)) table :=
    flush_consolidated_ensures stable removes (around.consolidated listing)
      (fun _ member _ => covered_by_table listed member) noted
  refine ensures_weaken ?_ flushed
  intro outcome after ended
  exact ends_of_deleting listed ended.2 (.inl ended.1)

/-- However others queue rows, a flush of the persistent queue ends as its answers say. -/
theorem persistent_flush_ensures (deletes : ∀ recordId, around.deletes recordId = true)
    (user : Option String) (distinct : (table.rows.map (idOf QueuedRow.stored)).Nodup) :
    Ensures (QueuesSome QueuedRow.stored) (FlushEnds QueuedRow.stored around around.listed)
      (persistentFlush around user) table := by
  refine guarded_ensures ?_ distinct
  intro held table resting
  cases user with
  | none =>
    intro final moved
    exact ends_without_snapshot (deleting_stable table final moved resting)
      (empty_returned around around.listed)
  | some name =>
    apply ensures_bind queues_none
    apply ensures_atomic
    intro listing moved read later
    have resting := deleting_stable table listing moved resting
    have distinct := resting_distinct resting
    cases answer : around.listed with
    | error err =>
      have ran : listOwn around name listing = (.error err, listing) := by
        rw [listOwn, answer]
        rfl
      rw [ran] at later ⊢
      intro final last
      exact ends_without_snapshot (deleting_stable read final last
        (deleting_stable listing read later resting)) (.inr ⟨err, rfl, rfl, rfl⟩)
    | ok _ =>
      have ran : listOwn around name listing =
          (.ok (ownRows around name listing.rows), listing.snap (ownRows around name)) := by
        rw [listOwn, answer]
        rfl
      rw [ran] at later ⊢
      have noted := deleting_stable _ read later
        (deleting_noted distinct (ownRows around name listing.rows) _ rfl rfl rfl rfl)
      change Ensures _ _ (if ownRows around name listing.rows = [] then _ else _) read
      split_ifs with nothing
      · rw [nothing] at noted
        intro final last
        exact ends_without_snapshot (deleting_stable read final last noted)
          (empty_returned around _)
      · exact deleted_flush_ensures deletes (own_rows_listed around name distinct) noted

variable {table : Table StoredRow}

theorem collecting_noted (distinct : (table.rows.map (idOf id)).Nodup) :
    Collecting id table.rows table.rows [] (table.snap id) := by
  have noted := deleting_noted distinct table.rows (table.snap id) rfl rfl rfl rfl
  exact ⟨noted.known, (List.append_nil table.rows).symm, rfl⟩

theorem all_rows_listed {rows : List StoredRow} (distinct : (rows.map (idOf id)).Nodup) :
    Listed id rows rows where
  held := by
    intro row member
    rw [List.map_id]
    exact member
  distinct := distinct

variable {held listing : List StoredRow}

theorem collected_flush_ensures (listed : Listed id held listing)
    (noted : Collecting id held listing [] table) :
    Ensures (QueuesSome id) (fun outcome after =>
        outcome = .ok (summaryOf around (around.consolidated listing)) ∧
          Collecting id held listing (droppedIds around (around.consolidated listing)) after)
      (flushConsolidated around collectRecords (around.consolidated listing)) table := by
  have stable : ∀ taken table after, QueuesSome id table after →
      Collecting id held listing taken table → Collecting id held listing taken after :=
    fun _ table after moved => collecting_stable table after moved
  have removes : ∀ recordIds taken table,
      (∀ recordId ∈ recordIds, recordId ∈ held.map (idOf id)) →
      Collecting id held listing taken table →
      Ensures (QueuesSome id) (fun outcome after => outcome = .ok () ∧
        Collecting id held listing (taken ++ recordIds) after)
        (collectRecords recordIds) table :=
    fun _ _ _ covered collecting => collect_ensures covered collecting
  exact flush_consolidated_ensures stable removes (around.consolidated listing)
    (fun _ member _ => covered_by_table listed member) noted

theorem deleting_of_collecting {taken : List String}
    (collecting : Collecting id held listing taken table) :
    Deleting id held listing taken
      { table with rows := table.rows.filter (fun row => row.recordId ∉ table.removeSet) } := by
  have known := collecting.known
  refine ⟨⟨known.before, known.snapshot, known.distinct, known.taken⟩, ?_⟩
  rw [collecting.rows, collecting.removeSet]
  rfl

/-- However others queue rows, a flush of the in-memory queue ends as its answers say. -/
theorem in_memory_flush_ensures (distinct : (table.rows.map (idOf id)).Nodup) :
    Ensures (QueuesSome id) (FlushEnds id around (.ok ())) (inMemoryFlush around) table := by
  refine guarded_ensures ?_ distinct
  intro held table resting
  apply ensures_bind queues_none
  apply ensures_atomic
  intro listing moved read later
  have distinct := resting_distinct (deleting_stable table listing moved resting)
  have noted := collecting_stable _ read later (collecting_noted distinct)
  change Ensures _ _ (if listing.rows = [] then _ else _) read
  split_ifs with nothing
  · have noted := deleting_stable _ read later
      (deleting_noted distinct listing.rows _ rfl rfl rfl rfl)
    rw [nothing] at noted
    intro final last
    exact ends_without_snapshot (deleting_stable read final last noted)
      (empty_returned around (.ok ()))
  · apply ensures_bind queues_none
    refine ensures_weaken ?_ (collected_flush_ensures (all_rows_listed distinct) noted)
    intro outcome flushed ended
    rw [ended.1]
    apply ensures_bind queues_none
    apply ensures_atomic
    intro dropping moved dropped later final last
    have collecting := collecting_stable flushed dropping moved ended.2
    have deleting := deleting_stable _ dropped later (deleting_of_collecting collecting)
    exact ends_of_deleting (all_rows_listed distinct) (deleting_stable dropped final last deleting)
      (.inl rfl)

end

end Stitch.Client.FlushSteps
