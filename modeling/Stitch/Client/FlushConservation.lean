import Stitch.Client.FlushSteps

/-!
# What a flush keeps and what it takes out

Whatever the sender answers and whatever others queue in the meantime, the rows behind a mutation
stay or go together, the rows queued since the snapshot stay, and the summary counts what stayed.
-/

namespace Stitch.Client.FlushConservation

open Foundation.FiniteMap Foundation.Interleaving Mutations Consolidation
open WritePath PersistentQueue FlushSteps

section

variable {root : String} {mutation : ConsolidatedMutation} {answers : FlushAnswers}

theorem outcome_of_transient {err : Error} (sent : sends mutation = true)
    (attempt : answers.attempt = .error err) (transient : err.isTransient = true) :
    flushOutcome root mutation answers = .keep := by
  rw [flushOutcome, if_pos sent, attempt]
  exact if_pos transient

theorem outcome_of_success (attempt : answers.attempt = .ok ()) :
    flushOutcome root mutation answers = .drop := by
  by_cases sent : sends mutation = true
  · rw [flushOutcome, if_pos sent, attempt]
  · rw [flushOutcome, if_neg sent]

theorem resent_not_rejected (answer : Answer) : resentOutcome answer ≠ .dropRejected := by
  unfold resentOutcome
  split
  · decide
  · split_ifs
    · decide
    · decide

theorem recreate_not_rejected (answers : FlushAnswers) :
    recreateMissing answers ≠ .dropRejected := by
  unfold recreateMissing
  split
  · exact resent_not_rejected answers.resent
  · decide
  · split_ifs
    · decide
    · decide

theorem insert_of_rejected (rejected : flushOutcome root mutation answers = .dropRejected) :
    mutation.op = .insert := by
  by_contra other
  have notInsert : (mutation.op == .insert) = false := by simpa using other
  by_cases sent : sends mutation = true
  · rw [flushOutcome, if_pos sent] at rejected
    cases attempt : answers.attempt with
    | ok _ =>
      rw [attempt] at rejected
      cases rejected
    | error err =>
      rw [attempt] at rejected
      simp only [notInsert, Bool.and_false, Bool.false_eq_true, if_false] at rejected
      split_ifs at rejected
      exact recreate_not_rejected answers rejected
  · rw [flushOutcome, if_neg sent] at rejected
    cases rejected

end

section

variable (around : FlushAround)

def rejectedInsert (mutation : ConsolidatedMutation) : RejectedInsert :=
  ⟨mutation.entity, mutation.id, mutation.scopeId⟩

theorem retained_eq (mutations : List ConsolidatedMutation) :
    (summaryOf around mutations).retained =
      (mutations.filter (fun mutation => around.outcome mutation = .keep)).length := by
  induction mutations with
  | nil => rfl
  | cons mutation rest ih =>
    rw [summaryOf]
    cases outcome : around.outcome mutation with
    | drop | dropRejected =>
      rw [List.filter_cons_of_neg (by rw [outcome]; decide)]
      exact ih
    | keep =>
      rw [List.filter_cons_of_pos (by rw [outcome]; decide), List.length_cons, ← ih]
      rfl

theorem rejected_inserts_eq (mutations : List ConsolidatedMutation) :
    (summaryOf around mutations).rejectedInserts =
      (mutations.filter (fun mutation => around.outcome mutation = .dropRejected)).map
        rejectedInsert := by
  induction mutations with
  | nil => rfl
  | cons mutation rest ih =>
    rw [summaryOf]
    cases outcome : around.outcome mutation with
    | drop | keep =>
      rw [List.filter_cons_of_neg (by rw [outcome]; decide)]
      exact ih
    | dropRejected =>
      rw [List.filter_cons_of_pos (by rw [outcome]; decide), List.map_cons, ← ih]
      rfl

end

theorem same_of_key {around : FlushAround} {rows : List StoredRow}
    {mutation other : ConsolidatedMutation} (member : mutation ∈ around.consolidated rows)
    (otherMember : other ∈ around.consolidated rows) (same : mutation.key = other.key) :
    mutation = other :=
  List.inj_on_of_nodup_map (consolidate_keys_nodup (around.visits rows)) member otherMember same

section

variable {Row : Type} {stored : Row → StoredRow} {around : FlushAround}
  {answer : Except Error Unit} {outcome : Except Error FlushSummary} {table : Table Row}
  {mutation : ConsolidatedMutation}

def sentOf (around : FlushAround) (table : Table Row) : List ConsolidatedMutation :=
  around.consolidated table.snapshot

def groupOf (table : Table Row) (mutation : ConsolidatedMutation) : List StoredRow :=
  table.snapshot.filter (fun row => row.key = mutation.key)

def StillQueued (stored : Row → StoredRow) (table : Table Row)
    (mutation : ConsolidatedMutation) : Prop :=
  ∀ row ∈ groupOf table mutation, row ∈ table.rows.map stored

def TakenOut (stored : Row → StoredRow) (table : Table Row)
    (mutation : ConsolidatedMutation) : Prop :=
  ∀ row ∈ groupOf table mutation, row ∉ table.rows.map stored

instance (stored : Row → StoredRow) (table : Table Row) (mutation : ConsolidatedMutation) :
    Decidable (StillQueued stored table mutation) :=
  inferInstanceAs (Decidable (∀ row ∈ groupOf table mutation, row ∈ table.rows.map stored))

theorem group_ids (member : mutation ∈ sentOf around table) :
    mutation.recordIds.Perm ((groupOf table mutation).map StoredRow.recordId) :=
  consolidate_group_ids (consolidate_own_group member)

theorem group_nonempty (member : mutation ∈ sentOf around table) : groupOf table mutation ≠ [] := by
  intro empty
  have made := consolidate_own_group member
  change consolidateGroup (groupOf table mutation) = some mutation at made
  rw [empty] at made
  cases made

theorem sent_keys_nodup (around : FlushAround) (table : Table Row) :
    ((sentOf around table).map ConsolidatedMutation.key).Nodup :=
  consolidate_keys_nodup (around.visits table.snapshot)

variable {row : StoredRow}

theorem row_in_group (member : row ∈ table.snapshot) :
    ∃ mutation ∈ sentOf around table, row ∈ groupOf table mutation := by
  obtain ⟨mutation, sent, named⟩ := consolidate_has_key (around.visits table.snapshot) member
  exact ⟨mutation, sent, List.mem_filter.mpr ⟨member, decide_eq_true named.symm⟩⟩

variable (ends : FlushEnds stored around answer outcome table)

include ends

theorem snapshot_row_queued_iff (member : row ∈ table.snapshot) :
    row ∈ table.rows.map stored ↔ row.recordId ∉ droppedIds around (sentOf around table) := by
  rw [ends.deleting.rows]
  constructor
  · intro queued
    obtain ⟨held, kept, same⟩ := List.mem_map.mp queued
    have untaken := of_decide_eq_true (List.mem_filter.mp kept).2
    rw [idOf, same] at untaken
    exact untaken
  · intro untaken
    obtain ⟨held, present, same⟩ := List.mem_map.mp (ends.listed.held row member)
    refine List.mem_map.mpr ⟨held, List.mem_filter.mpr ⟨List.mem_append_left _ present, ?_⟩, same⟩
    rw [idOf, same]
    exact decide_eq_true untaken

variable (member : mutation ∈ sentOf around table)

include member

theorem dropped_iff (grouped : row ∈ groupOf table mutation) :
    row.recordId ∈ droppedIds around (sentOf around table) ↔ around.outcome mutation ≠ .keep := by
  obtain ⟨present, named⟩ := List.mem_filter.mp grouped
  constructor
  · intro dropped
    obtain ⟨other, selected, included⟩ := List.mem_flatMap.mp dropped
    obtain ⟨otherMember, taken⟩ := List.mem_filter.mp selected
    obtain ⟨twin, twinGrouped, sameId⟩ :=
      List.mem_map.mp ((group_ids otherMember).mem_iff.mp included)
    obtain ⟨twinPresent, twinNamed⟩ := List.mem_filter.mp twinGrouped
    have same : twin = row := List.inj_on_of_nodup_map ends.listed.distinct twinPresent present sameId
    rw [same] at twinNamed
    have sameKey : mutation.key = other.key :=
      (of_decide_eq_true named).symm.trans (of_decide_eq_true twinNamed)
    rw [same_of_key member otherMember sameKey]
    exact of_decide_eq_true taken
  · intro taken
    refine List.mem_flatMap.mpr ⟨mutation, List.mem_filter.mpr ⟨member, decide_eq_true taken⟩, ?_⟩
    exact (group_ids member).mem_iff.mpr (List.mem_map_of_mem grouped)

theorem group_row_queued_iff (grouped : row ∈ groupOf table mutation) :
    row ∈ table.rows.map stored ↔ around.outcome mutation = .keep := by
  rw [snapshot_row_queued_iff ends (List.mem_of_mem_filter grouped),
    dropped_iff ends member grouped, not_not]

theorem still_queued_iff :
    StillQueued stored table mutation ↔ around.outcome mutation = .keep := by
  constructor
  · intro queued
    obtain ⟨row, grouped⟩ := List.exists_mem_of_ne_nil _ (group_nonempty member)
    exact (group_row_queued_iff ends member grouped).mp (queued row grouped)
  · intro kept row grouped
    exact (group_row_queued_iff ends member grouped).mpr kept

theorem taken_out_iff :
    TakenOut stored table mutation ↔ around.outcome mutation ≠ .keep := by
  constructor
  · intro taken kept
    obtain ⟨row, grouped⟩ := List.exists_mem_of_ne_nil _ (group_nonempty member)
    exact taken row grouped ((group_row_queued_iff ends member grouped).mpr kept)
  · intro dropped row grouped queued
    exact dropped ((group_row_queued_iff ends member grouped).mp queued)

end

section

variable {Row : Type} {stored : Row → StoredRow} {around : FlushAround}
  {answer : Except Error Unit} {outcome : Except Error FlushSummary} {table : Table Row}

structure Conserved (stored : Row → StoredRow) (around : FlushAround) (summary : FlushSummary)
    (table : Table Row) : Prop where
  oneGroup : ((sentOf around table).map ConsolidatedMutation.key).Nodup
  covered : ∀ row ∈ table.snapshot, ∃ mutation ∈ sentOf around table, row ∈ groupOf table mutation
  group : ∀ mutation ∈ sentOf around table, groupOf table mutation ≠ [] ∧
    mutation.recordIds.Perm ((groupOf table mutation).map StoredRow.recordId)
  together : ∀ mutation ∈ sentOf around table,
    TakenOut stored table mutation ∨ StillQueued stored table mutation
  since : ∀ row ∈ table.since, row ∈ table.rows
  retained : summary.retained =
    ((sentOf around table).filter (fun mutation => StillQueued stored table mutation)).length
  transient : ∀ mutation ∈ sentOf around table, sends mutation = true →
    ∀ err, (around.answers mutation).attempt = .error err → err.isTransient = true →
      StillQueued stored table mutation
  succeeded : ∀ mutation ∈ sentOf around table, (around.answers mutation).attempt = .ok () →
    TakenOut stored table mutation
  rejectedOnce : (summary.rejectedInserts.map (fun entry => (entry.entity, entry.id))).Nodup
  rejected : ∀ entry ∈ summary.rejectedInserts, ∃ mutation ∈ sentOf around table,
    entry = rejectedInsert mutation ∧ mutation.op = .insert ∧ TakenOut stored table mutation

theorem since_kept (ends : FlushEnds stored around answer outcome table) :
    ∀ row ∈ table.since, row ∈ table.rows := by
  intro row member
  rw [ends.deleting.rows]
  refine List.mem_filter.mpr ⟨List.mem_append_right _ member, decide_eq_true ?_⟩
  intro taken
  -- A record id that was taken out belongs to a row of the snapshot's table.
  have old := ends.deleting.known.taken _ taken
  have distinct := ends.deleting.known.distinct
  rw [List.map_append] at distinct
  exact List.disjoint_of_nodup_append distinct old (List.mem_map_of_mem member)

theorem conserved_of_ends (ends : FlushEnds stored around answer outcome table) :
    Conserved stored around (summaryOf around (sentOf around table)) table where
  oneGroup := sent_keys_nodup around table
  covered _ member := row_in_group member
  group _ member := ⟨group_nonempty member, group_ids member⟩
  together := by
    intro mutation member
    by_cases kept : around.outcome mutation = .keep
    · exact .inr ((still_queued_iff ends member).mpr kept)
    · exact .inl ((taken_out_iff ends member).mpr kept)
  since := since_kept ends
  retained := by
    rw [retained_eq]
    apply congrArg List.length
    apply List.filter_congr
    intro mutation member
    exact decide_eq_decide.mpr (still_queued_iff ends member).symm
  transient := by
    intro mutation member sent err attempt transient
    exact (still_queued_iff ends member).mpr (outcome_of_transient sent attempt transient)
  succeeded := by
    intro mutation member attempt
    rw [taken_out_iff ends member, FlushAround.outcome, outcome_of_success attempt]
    simp
  rejectedOnce := by
    rw [rejected_inserts_eq, List.map_map]
    exact (sent_keys_nodup around table).sublist (List.filter_sublist.map _)
  rejected := by
    intro entry listed
    rw [rejected_inserts_eq] at listed
    obtain ⟨mutation, selected, same⟩ := List.mem_map.mp listed
    obtain ⟨member, rejected⟩ := List.mem_filter.mp selected
    have rejected : around.outcome mutation = .dropRejected := of_decide_eq_true rejected
    refine ⟨mutation, member, same.symm, insert_of_rejected rejected, ?_⟩
    rw [taken_out_iff ends member, rejected]
    simp

/-- A flush ends and conserves the rows, whether it returns its summary or the error of a failed
listing. -/
def Conserves (stored : Row → StoredRow) (around : FlushAround) (listed : Except Error Unit)
    (outcome : Except Error FlushSummary) (table : Table Row) : Prop :=
  ∃ summary, Conserved stored around summary table ∧
    (outcome = .ok summary ∨
      ∃ err, listed = .error err ∧ outcome = .error err ∧ table.snapshot = [])

theorem conserves_of_ends (outcome : Except Error FlushSummary) (table : Table Row)
    (ends : FlushEnds stored around answer outcome table) :
    Conserves stored around answer outcome table :=
  ⟨_, conserved_of_ends ends, ends.returned⟩

def groupOrder (rows : List StoredRow) : List RowKey := (rows.map StoredRow.key).dedup

theorem group_order_visits (rows : List StoredRow) :
    Visits (groupOrder rows) (groupRows rows) := by
  refine ⟨List.nodup_dedup _, ?_⟩
  intro key
  rw [groupOrder, List.mem_dedup, List.mem_map, (lookup_group_rows rows key).2]

def queuedRow (recordId entity id : String) (op : Operation) (fields : Option Record) :
    StoredRow where
  recordId := recordId
  op := op
  entity := entity
  entityId := id
  scopeId := "b1"
  data := fields
  createdAt := 7

def queuedTasks : List StoredRow :=
  [queuedRow "q1" "task" "t1" .insert (some ∅),
    queuedRow "q2" "task" "t1" .update (some (Finmap.singleton "name" (.string "ship"))),
    queuedRow "q3" "task" "t2" .delete none]

def tableOf (rows : List StoredRow) : Table StoredRow where
  rows := rows
  flushing := false
  removeSet := []
  before := []
  snapshot := []
  since := []

/-- A flush with the sender's answers, over a database that does not fail. -/
def facing (answers : ConsolidatedMutation → FlushAnswers) : FlushAround where
  rootEntity := "board"
  answers := answers
  order := groupOrder
  visits := group_order_visits
  deletes := fun _ => true
  listed := .ok ()
  scan := id
  scans := List.Perm.refl

def losingCreates : FlushAround :=
  facing (fun mutation =>
    ⟨if mutation.op = .insert then .error .connectionClosed else .ok (), .ok none, .ok ()⟩)

end

end Stitch.Client.FlushConservation
