import Stitch.Client.Consolidation

/-!
# The order in which a flush replays its mutations

The server accepts a row only when the rows it refers to exist, and gives a row up only when
nothing refers to it. A flush sends the groups of `consolidate` by the creation time of their
first operation, then by kind; groups that agree in both stay in the order of the hash map.
-/

namespace Stitch.Client.ReplayOrder

open Foundation.FiniteMap Foundation.StableSort Mutations Consolidation

/-- A queue in order of creation whose inserts come parent first and whose deletes come child first.
-/
structure QueuedInOrder (refersTo : RowKey → RowKey → Prop) (rows : List StoredRow) : Prop where
  created : rows.Pairwise CreatedBefore
  inserts : ∀ child parent, refersTo child parent → rows.Pairwise (fun earlier later =>
    ¬ ((earlier.key = child ∧ earlier.op = .insert) ∧ later.key = parent ∧ later.op = .insert))
  deletes : ∀ child parent, refersTo child parent → rows.Pairwise (fun earlier later =>
    ¬ ((earlier.key = parent ∧ earlier.op = .delete) ∧ later.key = child ∧ later.op = .delete))

def RespectsReferences (refersTo : RowKey → RowKey → Prop)
    (sent : List ConsolidatedMutation) : Prop :=
  ∀ parent ∈ sent, ∀ child ∈ sent, refersTo child.key parent.key →
    (parent.op = .insert → child.op = .insert → Precedes parent child sent) ∧
      (child.op = .delete → parent.op = .delete → Precedes child parent sent)

def Inserts (rows : List StoredRow) (key : RowKey) : Prop :=
  (∃ row ∈ rows, row.key = key ∧ row.op = .insert) ∧
    ∀ row ∈ rows, row.key = key → row.op ≠ .delete

def Deletes (rows : List StoredRow) (key : RowKey) : Prop :=
  ∃ row ∈ rows, row.key = key ∧ row.op = .delete

def firstQueued (rows : List StoredRow) (key : RowKey) : Option Nat :=
  (rows.find? (fun row => row.key = key)).map StoredRow.createdAt

def StartsBefore (rows : List StoredRow) (first second : RowKey) : Prop :=
  ∀ early late, firstQueued rows first = some early → firstQueued rows second = some late →
    early < late

/-- The mutation a key's rows are sent as, whatever the iteration order. -/
def SentAs (rows : List StoredRow) (mutation : ConsolidatedMutation) : Prop :=
  consolidateGroup (rows.filter (fun row => row.key = mutation.key)) = some mutation

theorem consolidated_op_delete_iff (entries : List StoredRow) :
    (consolidatedChange entries).1 = .delete ↔ ∃ entry ∈ entries, entry.op = .delete := by
  constructor
  · intro deleted
    by_contra none
    have kept : entries.any (fun entry => entry.op == .delete) = false := by simpa using none
    unfold consolidatedChange at deleted
    simp only [kept, Bool.and_false, Bool.false_eq_true, if_false] at deleted
    split_ifs at deleted
  · intro deletes
    rw [consolidated_delete deletes]

theorem consolidated_op_insert_iff (entries : List StoredRow) :
    (consolidatedChange entries).1 = .insert ↔
      (∃ entry ∈ entries, entry.op = .insert) ∧ ∀ entry ∈ entries, entry.op ≠ .delete := by
  have deletes : entries.any (fun entry => entry.op == .delete) = false ↔
      ∀ entry ∈ entries, entry.op ≠ .delete := by simp
  have inserts : entries.any (fun entry => entry.op == .insert) = true ↔
      ∃ entry ∈ entries, entry.op = .insert := by simp
  rw [← deletes, ← inserts]
  unfold consolidatedChange
  cases entries.any (fun entry => entry.op == .insert) with
  | true | false =>
    cases entries.any (fun entry => entry.op == .delete) with
    | true | false => simp

section

variable {rows : List StoredRow} {mutation : ConsolidatedMutation}

variable (created : rows.Pairwise CreatedBefore)

include created

theorem group_is_sorted (key : RowKey) :
    (rows.filter (fun row => row.key = key)).insertionSort CreatedBefore =
      rows.filter (fun row => row.key = key) :=
  (created.filter _).insertionSort_eq

theorem sent_as_spec (sent : SentAs rows mutation) :
    mutation.op =
        (consolidatedChange (rows.filter (fun row => row.key = mutation.key))).1 ∧
      firstQueued rows mutation.key = some mutation.minCreatedAt := by
  unfold SentAs consolidateGroup at sent
  rw [group_is_sorted created] at sent
  have first : (rows.filter (fun row => row.key = mutation.key)).head? =
      rows.find? (fun row => row.key = mutation.key) := List.head?_filter
  cases group : rows.filter (fun row => row.key = mutation.key) with
  | nil =>
    rw [group] at sent
    cases sent
  | cons head rest =>
    rw [group] at sent first
    have made := Option.some.inj sent
    constructor
    · rw [← made]
    · rw [firstQueued, ← first, ← made]
      rfl

theorem sent_as_insert_iff (sent : SentAs rows mutation) :
    mutation.op = .insert ↔ Inserts rows mutation.key := by
  rw [(sent_as_spec created sent).1, consolidated_op_insert_iff]
  simp only [Inserts, List.mem_filter, decide_eq_true_eq]
  grind

theorem sent_as_delete_iff (sent : SentAs rows mutation) :
    mutation.op = .delete ↔ Deletes rows mutation.key := by
  rw [(sent_as_spec created sent).1, consolidated_op_delete_iff]
  simp only [Deletes, List.mem_filter, decide_eq_true_eq]
  grind

omit created

theorem mem_consolidate_iff {order : List RowKey} (visits : Visits order (groupRows rows)) :
    mutation ∈ consolidate order rows ↔ SentAs rows mutation := by
  constructor
  · intro member
    exact consolidate_own_group member
  · intro sent
    have selected : mutation ∈
        (consolidate order rows).filter (fun other => other.key = mutation.key) := by
      rw [consolidate_at_key visits mutation.key, sent]
      exact List.mem_singleton.mpr rfl
    exact List.mem_of_mem_filter selected

theorem sent_as_of_row {row : StoredRow} (member : row ∈ rows) :
    ∃ mutation, SentAs rows mutation ∧ mutation.key = row.key := by
  obtain ⟨order, visits⟩ := exists_visits (groupRows rows)
  obtain ⟨mutation, sent, named⟩ := consolidate_has_key visits member
  exact ⟨mutation, (mem_consolidate_iff visits).mp sent, named⟩

variable {key : RowKey}

theorem sent_as_of_inserts (created : rows.Pairwise CreatedBefore) (inserts : Inserts rows key) :
    ∃ mutation, SentAs rows mutation ∧ mutation.key = key ∧ mutation.op = .insert := by
  obtain ⟨row, member, named, _⟩ := inserts.1
  obtain ⟨mutation, sent, same⟩ := sent_as_of_row member
  rw [named] at same
  refine ⟨mutation, sent, same, (sent_as_insert_iff created sent).mpr ?_⟩
  rw [same]
  exact inserts

theorem sent_as_of_deletes (created : rows.Pairwise CreatedBefore) (deletes : Deletes rows key) :
    ∃ mutation, SentAs rows mutation ∧ mutation.key = key ∧ mutation.op = .delete := by
  obtain ⟨row, member, named, removed⟩ := deletes
  obtain ⟨mutation, sent, same⟩ := sent_as_of_row member
  rw [named] at same
  refine ⟨mutation, sent, same, (sent_as_delete_iff created sent).mpr ?_⟩
  rw [same]
  exact ⟨row, member, named, removed⟩

end

section

variable {rows : List StoredRow} {first second : ConsolidatedMutation}

/-- Some iteration order of the hash map keeps two groups that the sort does not turn round
in the order given. -/
theorem precedes_in_some_order (sentFirst : SentAs rows first) (sentSecond : SentAs rows second)
    (apart : first.key ≠ second.key) (below : SentBefore first second) :
    ∃ order, Visits order (groupRows rows) ∧ Precedes first second (consolidate order rows) := by
  obtain ⟨order, visits⟩ := exists_visits (groupRows rows)
  have visited : ∀ {mutation : ConsolidatedMutation}, SentAs rows mutation →
      mutation.key ∈ order := by
    intro mutation sent
    rw [visits.2, (lookup_group_rows rows mutation.key).2]
    by_contra none
    have empty : rows.filter (fun row => row.key = mutation.key) = [] := by
      rw [List.filter_eq_nil_iff]
      intro row member named
      exact none ⟨row, member, of_decide_eq_true named⟩
    rw [SentAs, empty] at sent
    cases sent
  -- the first group is moved to the front of an iteration order
  have permuted := List.perm_cons_erase (visited sentFirst)
  have reordered : Visits (first.key :: order.erase first.key) (groupRows rows) :=
    ⟨permuted.nodup_iff.mp visits.1, fun key => by rw [← permuted.mem_iff, visits.2]⟩
  have later : second.key ∈ order.erase first.key := by
    rw [visits.1.mem_erase_iff]
    exact ⟨Ne.symm apart, visited sentSecond⟩
  have made : ∀ {mutation : ConsolidatedMutation}, SentAs rows mutation →
      consolidateGroup (getOr (groupRows rows) mutation.key []) = some mutation := by
    intro mutation sent
    rw [(lookup_group_rows rows mutation.key).1]
    exact sent
  refine ⟨first.key :: order.erase first.key, reordered, ?_⟩
  apply List.sublist_insertionSort (List.pairwise_pair.mpr below)
  rw [List.filterMap_cons, made sentFirst]
  apply List.cons_sublist_cons.mpr
  rw [List.singleton_sublist, List.mem_filterMap]
  exact ⟨second.key, later, made sentSecond⟩

/-- Two groups of one kind keep their order in every iteration order exactly when the first
operation of the one is older. -/
theorem precedes_in_every_order_iff (created : rows.Pairwise CreatedBefore)
    (sentFirst : SentAs rows first) (sentSecond : SentAs rows second)
    (sameKind : first.op = second.op) :
    (∀ order, Visits order (groupRows rows) → Precedes first second (consolidate order rows)) ↔
      StartsBefore rows first.key second.key := by
  have timeFirst := (sent_as_spec created sentFirst).2
  have timeSecond := (sent_as_spec created sentSecond).2
  have compared : StartsBefore rows first.key second.key ↔
      first.minCreatedAt < second.minCreatedAt := by
    unfold StartsBefore
    rw [timeFirst, timeSecond]
    constructor
    · intro older
      exact older first.minCreatedAt second.minCreatedAt rfl rfl
    · intro older early late isEarly isLate
      rw [← Option.some.inj isEarly, ← Option.some.inj isLate]
      exact older
  rw [compared]
  constructor
  · intro always
    by_contra notOlder
    have below : SentBefore second first := by
      unfold SentBefore
      rw [sameKind]
      omega
    by_cases same : second.key = first.key
    · -- one group cannot stand before itself
      have equal : second = first := by
        rw [SentAs, same] at sentSecond
        exact Option.some.inj (sentSecond.symm.trans sentFirst)
      obtain ⟨order, visits⟩ := exists_visits (groupRows rows)
      have twice := always order visits
      rw [equal] at twice
      exact precedes_asymm (consolidate_keys_nodup visits).of_map twice twice
    · obtain ⟨order, visits, reversed⟩ :=
        precedes_in_some_order sentSecond sentFirst same below
      exact precedes_asymm (consolidate_keys_nodup visits).of_map reversed (always order visits)
  · intro older order visits
    have apart : ¬ SentBefore second first := by
      unfold SentBefore
      omega
    exact precedes_of_not_below (List.pairwise_insertionSort SentBefore _)
      ((mem_consolidate_iff visits).mpr sentFirst) ((mem_consolidate_iff visits).mpr sentSecond)
      apart

end

/-- Whatever the iteration order, a queue in dependency order is replayed in dependency order
if and only if, of a row and one that refers to it, the one to be sent first is also the one
whose first queued operation is older. -/
theorem replay_respects_references_iff (refersTo : RowKey → RowKey → Prop)
    (rows : List StoredRow) (queued : QueuedInOrder refersTo rows) :
    (∀ order, Visits order (groupRows rows) →
        RespectsReferences refersTo (consolidate order rows)) ↔
      ∀ child parent, refersTo child parent →
        (Inserts rows parent → Inserts rows child → StartsBefore rows parent child) ∧
          (Deletes rows child → Deletes rows parent → StartsBefore rows child parent) := by
  have created := queued.created
  constructor
  · intro respects child parent refers
    constructor
    · intro parentInserted childInserted
      obtain ⟨a, sentA, namedA, insertA⟩ := sent_as_of_inserts created parentInserted
      obtain ⟨b, sentB, namedB, insertB⟩ := sent_as_of_inserts created childInserted
      rw [← namedA, ← namedB] at refers ⊢
      apply (precedes_in_every_order_iff created sentA sentB (insertA.trans insertB.symm)).mp
      intro order visits
      exact (respects order visits a ((mem_consolidate_iff visits).mpr sentA) b
        ((mem_consolidate_iff visits).mpr sentB) refers).1 insertA insertB
    · intro childDeleted parentDeleted
      obtain ⟨b, sentB, namedB, deleteB⟩ := sent_as_of_deletes created childDeleted
      obtain ⟨a, sentA, namedA, deleteA⟩ := sent_as_of_deletes created parentDeleted
      rw [← namedA, ← namedB] at refers ⊢
      apply (precedes_in_every_order_iff created sentB sentA (deleteB.trans deleteA.symm)).mp
      intro order visits
      exact (respects order visits a ((mem_consolidate_iff visits).mpr sentA) b
        ((mem_consolidate_iff visits).mpr sentB) refers).2 deleteB deleteA
  · intro older order visits parent heldParent child heldChild refers
    have sentParent := (mem_consolidate_iff visits).mp heldParent
    have sentChild := (mem_consolidate_iff visits).mp heldChild
    obtain ⟨insertsOlder, deletesOlder⟩ := older child.key parent.key refers
    constructor
    · intro insertParent insertChild
      apply (precedes_in_every_order_iff created sentParent sentChild
        (insertParent.trans insertChild.symm)).mpr _ order visits
      exact insertsOlder ((sent_as_insert_iff created sentParent).mp insertParent)
        ((sent_as_insert_iff created sentChild).mp insertChild)
    · intro deleteChild deleteParent
      apply (precedes_in_every_order_iff created sentChild sentParent
        (deleteChild.trans deleteParent.symm)).mpr _ order visits
      exact deletesOlder ((sent_as_delete_iff created sentChild).mp deleteChild)
        ((sent_as_delete_iff created sentParent).mp deleteParent)

section

def taskOfList (child parent : RowKey) : Prop := child = ("task", "t1") ∧ parent = ("list", "l1")

instance : DecidableRel taskOfList := fun child parent =>
  inferInstanceAs (Decidable (child = ("task", "t1") ∧ parent = ("list", "l1")))

theorem queued_in_order_of_list {rows : List StoredRow} (created : rows.Pairwise CreatedBefore)
    (inserts : rows.Pairwise (fun earlier later => ¬ ((earlier.key = ("task", "t1") ∧
      earlier.op = .insert) ∧ later.key = ("list", "l1") ∧ later.op = .insert)))
    (deletes : rows.Pairwise (fun earlier later => ¬ ((earlier.key = ("list", "l1") ∧
      earlier.op = .delete) ∧ later.key = ("task", "t1") ∧ later.op = .delete))) :
    QueuedInOrder taskOfList rows where
  created := created
  inserts := by
    intro child parent refers
    rw [refers.1, refers.2]
    exact inserts
  deletes := by
    intro child parent refers
    rw [refers.1, refers.2]
    exact deletes

def queuedRow (recordId : String) (op : Operation) (key : RowKey) (createdAt : Nat) : StoredRow :=
  ⟨recordId, op, key.1, key.2, "b1", if op = .delete then none else
    some (Finmap.singleton "id" (.string key.2)), createdAt⟩

def separateInserts : List StoredRow :=
  [queuedRow "a" .insert ("list", "l1") 1, queuedRow "b" .insert ("task", "t1") 2]

theorem separate_inserts_respect_references :
    QueuedInOrder taskOfList separateInserts ∧
      ∀ order, Visits order (groupRows separateInserts) →
        RespectsReferences taskOfList (consolidate order separateInserts) := by
  have queued : QueuedInOrder taskOfList separateInserts :=
    queued_in_order_of_list (by decide) (by decide) (by decide)
  refine ⟨queued, (replay_respects_references_iff taskOfList separateInserts queued).mpr ?_⟩
  intro child parent refers
  rw [refers.1, refers.2]
  constructor
  · intro _ _ early late isEarly isLate
    rw [← Option.some.inj isEarly, ← Option.some.inj isLate]
    decide
  · intro deleted
    exact absurd deleted (by unfold Deletes; decide)

def tiedInserts : List StoredRow :=
  [queuedRow "a" .insert ("list", "l1") 5, queuedRow "b" .insert ("task", "t1") 5]

def editedThenDeleted : List StoredRow :=
  [queuedRow "a" .update ("list", "l1") 1, queuedRow "b" .delete ("task", "t1") 2,
    queuedRow "c" .delete ("list", "l1") 3]

/-- The task is inserted before its list when the two share a creation time, and the list is
deleted before its task when an edit of the list was queued first. -/
theorem tied_inserts_and_early_edit_break_references :
    (QueuedInOrder taskOfList tiedInserts ∧
      Visits [("task", "t1"), ("list", "l1")] (groupRows tiedInserts) ∧
      (consolidate [("task", "t1"), ("list", "l1")] tiedInserts).map
          (fun mutation => (mutation.key, mutation.op)) =
        [(("task", "t1"), .insert), (("list", "l1"), .insert)] ∧
      ¬ RespectsReferences taskOfList
        (consolidate [("task", "t1"), ("list", "l1")] tiedInserts)) ∧
    QueuedInOrder taskOfList editedThenDeleted ∧
      Visits [("task", "t1"), ("list", "l1")] (groupRows editedThenDeleted) ∧
      (consolidate [("task", "t1"), ("list", "l1")] editedThenDeleted).map
          (fun mutation => (mutation.key, mutation.op)) =
        [(("list", "l1"), .delete), (("task", "t1"), .delete)] ∧
      ¬ RespectsReferences taskOfList
        (consolidate [("task", "t1"), ("list", "l1")] editedThenDeleted) := by
  refine ⟨⟨queued_in_order_of_list (by decide) (by decide) (by decide),
    visits_of_keys (by decide) (by decide), by decide, ?_⟩,
    queued_in_order_of_list (by decide) (by decide) (by decide),
    visits_of_keys (by decide) (by decide), by decide, ?_⟩
  · unfold RespectsReferences
    decide
  · unfold RespectsReferences
    decide

end

end Stitch.Client.ReplayOrder
