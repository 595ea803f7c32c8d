import Stitch.Foundation.StableSort
import Stitch.Client.Mutations

/-!
# Consolidation of queued mutations

`consolidate` groups the queued rows by entity and id and turns each group into one mutation,
chosen by which kinds of operation occur in the group.
-/

namespace Stitch.Client.Consolidation

open Foundation.FiniteMap Foundation.StableSort Mutations

abbrev RowKey := String × String

structure StoredRow where
  recordId : String
  op : Operation
  entity : String
  entityId : String
  scopeId : String
  data : Option Record
  createdAt : Nat
  deriving DecidableEq

def StoredRow.key (row : StoredRow) : RowKey := (row.entity, row.entityId)

structure ConsolidatedMutation where
  op : Operation
  entity : String
  id : String
  scopeId : String
  data : Option Record
  recordIds : List String
  minCreatedAt : Nat
  deriving DecidableEq

def ConsolidatedMutation.key (mutation : ConsolidatedMutation) : RowKey :=
  (mutation.entity, mutation.id)

/-- The key of the stable sort inside a group. -/
def CreatedBefore (left right : StoredRow) : Prop := left.createdAt ≤ right.createdAt

instance : DecidableRel CreatedBefore := fun left right =>
  inferInstanceAs (Decidable (left.createdAt ≤ right.createdAt))

instance : IsTrans StoredRow CreatedBefore := ⟨fun _ _ _ => Nat.le_trans⟩

instance : Std.Total CreatedBefore := ⟨fun left right => Nat.le_total left.createdAt right.createdAt⟩

def SentBefore (left right : ConsolidatedMutation) : Prop :=
  left.minCreatedAt < right.minCreatedAt ∨
    left.minCreatedAt = right.minCreatedAt ∧ left.op.priority ≤ right.op.priority

instance : DecidableRel SentBefore := fun left right =>
  inferInstanceAs (Decidable (left.minCreatedAt < right.minCreatedAt ∨
    left.minCreatedAt = right.minCreatedAt ∧ left.op.priority ≤ right.op.priority))

instance : IsTrans ConsolidatedMutation SentBefore := ⟨fun left middle right => by
  unfold SentBefore
  omega⟩

instance : Std.Total SentBefore := ⟨fun left right => by
  unfold SentBefore
  omega⟩

def groupRows (rows : List StoredRow) : HashMap RowKey (List StoredRow) :=
  rows.foldl (fun groups row => groups.insert row.key (getOr groups row.key [] ++ [row])) ∅

def mergeData (merged : Record) (entry : StoredRow) : Record :=
  match entry.data with
  | some data => data ∪ merged
  | none => merged

/-- The operation and data a group is sent as, by the kinds of operation in it. -/
def consolidatedChange (entries : List StoredRow) : Operation × Option Record :=
  let hasInsert := entries.any (fun entry => entry.op == .insert)
  let hasDelete := entries.any (fun entry => entry.op == .delete)
  if hasInsert && hasDelete then
    (.delete, none)
  else if hasInsert then
    let inserted := ((entries.find? (fun entry => entry.op == .insert)).bind
      StoredRow.data).getD ∅
    (.insert, some (entries.foldl
      (fun merged entry => if entry.op = .insert then merged else mergeData merged entry)
      inserted))
  else if hasDelete then
    (.delete, none)
  else
    let merged := entries.foldl mergeData ∅
    (.update, if merged = ∅ then none else some merged)

def consolidateGroup (group : List StoredRow) : Option ConsolidatedMutation :=
  match group.insertionSort CreatedBefore with
  | [] => none
  | first :: rest =>
    some
      { op := (consolidatedChange (first :: rest)).1
        entity := first.entity
        id := first.entityId
        scopeId := first.scopeId
        data := (consolidatedChange (first :: rest)).2
        recordIds := (first :: rest).map StoredRow.recordId
        minCreatedAt := first.createdAt }

def consolidate (order : List RowKey) (rows : List StoredRow) : List ConsolidatedMutation :=
  (order.filterMap (fun key => consolidateGroup (getOr (groupRows rows) key []))).insertionSort
    SentBefore

abbrev Table := HashMap RowKey Record

/-- What an operation makes of the row it names. -/
def applyOp (op : Operation) (data : Option Record) (row : Option Record) : Option Record :=
  match op with
  | .insert => some (data.getD ∅)
  | .update => row.map (fun fields => data.getD ∅ ∪ fields)
  | .delete => none

def applyRow (table : Table) (row : StoredRow) : Table :=
  alter table row.key (applyOp row.op row.data)

def applyMutation (table : Table) (mutation : ConsolidatedMutation) : Table :=
  alter table mutation.key (applyOp mutation.op mutation.data)

def history (rows : List StoredRow) (key : RowKey) : List StoredRow :=
  (rows.filter (fun row => row.key = key)).insertionSort CreatedBefore

/-- Every insert meets an absent row, every update and delete a present one. -/
def ValidHistory : Bool → List StoredRow → Prop
  | _, [] => True
  | present, row :: rest =>
    match row.op with
    | .insert => present = false ∧ ValidHistory true rest
    | .update => present = true ∧ ValidHistory true rest
    | .delete => present = true ∧ ValidHistory false rest

instance decidableValidHistory : ∀ (present : Bool) (entries : List StoredRow),
    Decidable (ValidHistory present entries)
  | _, [] => inferInstanceAs (Decidable True)
  | present, row :: rest =>
    have := decidableValidHistory true rest
    have := decidableValidHistory false rest
    match op : row.op with
    | .insert => decidable_of_iff (present = false ∧ ValidHistory true rest) (by
        simp [ValidHistory, op])
    | .update => decidable_of_iff (present = true ∧ ValidHistory true rest) (by
        simp [ValidHistory, op])
    | .delete => decidable_of_iff (present = true ∧ ValidHistory false rest) (by
        simp [ValidHistory, op])

def EndsDeleted (entries : List StoredRow) : Prop :=
  (∃ entry ∈ entries, entry.op = .delete) →
    entries.getLast?.map StoredRow.op = some .delete

instance (entries : List StoredRow) : Decidable (EndsDeleted entries) :=
  inferInstanceAs (Decidable ((∃ entry ∈ entries, entry.op = .delete) →
    entries.getLast?.map StoredRow.op = some .delete))

def applyEntry (row : Option Record) (entry : StoredRow) : Option Record :=
  applyOp entry.op entry.data row

theorem lookup_group_rows (rows : List StoredRow) (key : RowKey) :
    getOr (groupRows rows) key [] = rows.filter (fun row => row.key = key) ∧
      (key ∈ groupRows rows ↔ ∃ row ∈ rows, row.key = key) := by
  induction rows using List.reverseRecOn with
  | nil => simp [groupRows, Finmap.notMem_empty]
  | append_singleton rows row ih =>
    have grown : groupRows (rows ++ [row]) =
        (groupRows rows).insert row.key (getOr (groupRows rows) row.key [] ++ [row]) := by
      simp [groupRows]
    rw [grown]
    refine ⟨?_, ?_⟩
    · by_cases here : row.key = key
      · rw [← here, getOr_insert_self, here, ih.1]
        simp [here]
      · rw [getOr_insert_other _ _ _ (Ne.symm here), ih.1]
        simp [here]
    · rw [Finmap.mem_insert, ih.2]
      grind

theorem merge_data_base (base : Record) (entries : List StoredRow) :
    entries.foldl mergeData base = entries.foldl mergeData ∅ ∪ base := by
  induction entries using List.reverseRecOn with
  | nil => simp
  | append_singleton entries entry ih =>
    rw [List.foldl_append, List.foldl_append, ih]
    cases data : entry.data with
    | none => simp [mergeData, data]
    | some fields => simp [mergeData, data, Finmap.union_assoc]

variable {entries group rows : List StoredRow} {row : Option Record}
  {mutation : ConsolidatedMutation} {key : RowKey} {order : List RowKey}

theorem apply_updates (updates : ∀ entry ∈ entries, entry.op = .update) (row : Option Record) :
    entries.foldl applyEntry row =
      row.map (fun fields => entries.foldl mergeData ∅ ∪ fields) := by
  induction entries using List.reverseRecOn with
  | nil => simp
  | append_singleton entries entry ih =>
    have earlier : ∀ other ∈ entries, other.op = .update := by
      intro other member
      exact updates other (List.mem_append_left _ member)
    have here : entry.op = .update := updates entry (by simp)
    rw [List.foldl_append, ih earlier, List.foldl_append]
    cases row with
    | none => simp [applyEntry, applyOp, here]
    | some old =>
      cases data : entry.data with
      | none => simp [applyEntry, applyOp, mergeData, here, data]
      | some fields => simp [applyEntry, applyOp, mergeData, here, data, Finmap.union_assoc]

/-- A valid history without deletes is updates only, or one insert and then updates. -/
theorem valid_without_delete {present : Bool} (valid : ValidHistory present entries)
    (kept : ∀ entry ∈ entries, entry.op ≠ .delete) :
    (∀ entry ∈ entries, entry.op = .update) ∨
      ∃ first rest, entries = first :: rest ∧ first.op = .insert ∧
        (∀ entry ∈ rest, entry.op = .update) := by
  induction entries generalizing present with
  | nil => exact Or.inl (by simp)
  | cons first rest ih =>
    have later : ∀ entry ∈ rest, entry.op ≠ .delete := by
      intro entry member
      exact kept entry (List.mem_cons_of_mem _ member)
    -- once the row is present a further insert would not be valid
    have updatesOnly : ValidHistory true rest → ∀ entry ∈ rest, entry.op = .update := by
      intro validRest
      rcases ih validRest later with updates | ⟨second, others, split, inserted, _⟩
      · exact updates
      · rw [split] at validRest
        simp [ValidHistory, inserted] at validRest
    cases op : first.op with
    | insert =>
      simp only [ValidHistory, op] at valid
      exact Or.inr ⟨first, rest, rfl, op, updatesOnly valid.2⟩
    | update =>
      simp only [ValidHistory, op] at valid
      left
      intro entry member
      rcases List.mem_cons.mp member with here | member
      · rw [here]
        exact op
      · exact updatesOnly valid.2 entry member
    | delete => exact absurd op (kept first List.mem_cons_self)

theorem valid_present (valid : ValidHistory row.isSome entries) {last : StoredRow}
    (ends : entries.getLast? = some last) :
    entries.foldl applyEntry row = none ↔ last.op = .delete := by
  induction entries generalizing row with
  | nil => simp at ends
  | cons first rest ih =>
    have after : ValidHistory (applyEntry row first).isSome rest ∧
        (first.op = .delete ↔ applyEntry row first = none) := by
      cases op : first.op with
      | insert | delete =>
        simp only [ValidHistory, op] at valid
        simpa [applyEntry, applyOp, op] using valid.2
      | update =>
        simp only [ValidHistory, op] at valid
        obtain ⟨fields, found⟩ := Option.isSome_iff_exists.mp valid.1
        simpa [applyEntry, applyOp, op, found] using valid.2
    cases rest with
    | nil =>
      simp only [List.getLast?_singleton, Option.some.injEq] at ends
      rw [← ends, after.2]
      rfl
    | cons second others =>
      exact ih after.1 (by simpa using ends)

theorem consolidate_group_key (labelled : ∀ row ∈ group, row.key = key)
    (made : consolidateGroup group = some mutation) : mutation.key = key := by
  unfold consolidateGroup at made
  split at made
  · cases made
  · rename_i first rest sorted
    have member : first ∈ group := by
      rw [← List.mem_insertionSort CreatedBefore, sorted]
      exact List.mem_cons_self
    cases made
    exact labelled first member

theorem consolidated_delete (deletes : ∃ entry ∈ entries, entry.op = .delete) :
    consolidatedChange entries = (.delete, none) := by
  have found : entries.any (fun entry => entry.op == .delete) = true := by simpa using deletes
  unfold consolidatedChange
  cases entries.any (fun entry => entry.op == .insert) with
  | false => simp only [found, Bool.false_and, Bool.false_eq_true, if_false, if_true]
  | true => simp only [found, Bool.and_self, if_true]

theorem consolidated_updates (updates : ∀ entry ∈ entries, entry.op = .update) :
    consolidatedChange entries =
      (.update, if entries.foldl mergeData ∅ = ∅ then none
        else some (entries.foldl mergeData ∅)) := by
  have never : ∀ op, op ≠ .update → entries.any (fun entry => entry.op == op) = false := by
    intro op other
    simp only [List.any_eq_false, beq_iff_eq]
    intro entry member same
    exact other (same.symm.trans (updates entry member))
  unfold consolidatedChange
  simp only [never .insert (by decide), never .delete (by decide), Bool.false_and,
    Bool.false_eq_true, if_false]

theorem consolidated_insert {first : StoredRow} {rest : List StoredRow}
    (inserted : first.op = .insert) (updates : ∀ entry ∈ rest, entry.op = .update) :
    consolidatedChange (first :: rest) =
      (.insert, some (rest.foldl mergeData (first.data.getD ∅))) := by
  have noDelete : (first :: rest).any (fun entry => entry.op == .delete) = false := by
    simp only [List.any_eq_false, beq_iff_eq]
    intro entry member removed
    rcases List.mem_cons.mp member with here | member
    · rw [here, inserted] at removed
      cases removed
    · rw [updates entry member] at removed
      cases removed
  have merged : ∀ base, rest.foldl
      (fun merged entry => if entry.op = .insert then merged else mergeData merged entry) base =
        rest.foldl mergeData base := by
    intro base
    apply List.foldl_ext
    intro held entry member
    rw [if_neg (by rw [updates entry member]; decide)]
  have starts : (first.op == Operation.insert) = true := beq_iff_eq.mpr inserted
  have hasInsert : (first :: rest).any (fun entry => entry.op == .insert) = true := by
    rw [List.any_cons, starts, Bool.true_or]
  have found : (first :: rest).find? (fun entry => entry.op == .insert) = some first :=
    List.find?_cons_of_pos starts
  unfold consolidatedChange
  simp only [noDelete, hasInsert, found, Bool.and_false, Bool.false_eq_true, if_false, if_true,
    Option.bind_some, List.foldl_cons, inserted, merged]

theorem consolidated_insert_data (insert : (consolidatedChange entries).1 = .insert) :
    (consolidatedChange entries).2.isSome = true := by
  unfold consolidatedChange at insert ⊢
  dsimp only at insert ⊢
  split_ifs at insert ⊢
  · rfl

theorem mem_consolidate (member : mutation ∈ consolidate order rows) :
    ∃ key, consolidateGroup (rows.filter (fun row => row.key = key)) = some mutation := by
  rw [consolidate, List.mem_insertionSort, List.mem_filterMap] at member
  obtain ⟨key, _, made⟩ := member
  rw [(lookup_group_rows rows key).1] at made
  exact ⟨key, made⟩

theorem consolidate_group_ids (made : consolidateGroup group = some mutation) :
    mutation.recordIds.Perm (group.map StoredRow.recordId) := by
  unfold consolidateGroup at made
  split at made
  · cases made
  · rename_i first rest sorted
    cases made
    have permuted := List.perm_insertionSort CreatedBefore group
    rw [sorted] at permuted
    exact permuted.map StoredRow.recordId

theorem consolidate_group_rows (made : consolidateGroup group = some mutation) :
    ∀ recordId ∈ mutation.recordIds, ∃ row ∈ group, row.recordId = recordId := by
  intro recordId member
  exact List.mem_map.mp ((consolidate_group_ids made).mem_iff.mp member)

theorem consolidate_group_some (nonempty : group ≠ []) :
    ∃ mutation, consolidateGroup group = some mutation := by
  unfold consolidateGroup
  split
  · rename_i sorted
    have permuted := List.perm_insertionSort CreatedBefore group
    rw [sorted] at permuted
    exact absurd permuted.symm.eq_nil nonempty
  · exact ⟨_, rfl⟩

theorem consolidate_own_group (member : mutation ∈ consolidate order rows) :
    consolidateGroup (rows.filter (fun row => row.key = mutation.key)) = some mutation := by
  obtain ⟨key, made⟩ := mem_consolidate member
  have named : mutation.key = key := by
    apply consolidate_group_key _ made
    intro row grouped
    exact of_decide_eq_true (List.mem_filter.mp grouped).2
  rw [named]
  exact made

theorem consolidate_has_key (visits : Visits order (groupRows rows)) {row : StoredRow}
    (member : row ∈ rows) :
    ∃ mutation ∈ consolidate order rows, mutation.key = row.key := by
  have grouped : row ∈ rows.filter (fun other => other.key = row.key) :=
    List.mem_filter.mpr ⟨member, decide_eq_true rfl⟩
  have visited : row.key ∈ order :=
    (visits.2 row.key).mpr ((lookup_group_rows rows row.key).2.mpr ⟨row, member, rfl⟩)
  obtain ⟨mutation, made⟩ := consolidate_group_some (List.ne_nil_of_mem grouped)
  refine ⟨mutation, ?_, ?_⟩
  · rw [consolidate, List.mem_insertionSort, List.mem_filterMap]
    refine ⟨row.key, visited, ?_⟩
    rw [(lookup_group_rows rows row.key).1]
    exact made
  · apply consolidate_group_key _ made
    intro other inGroup
    exact of_decide_eq_true (List.mem_filter.mp inGroup).2

theorem consolidate_covers (visits : Visits order (groupRows rows)) {row : StoredRow}
    (member : row ∈ rows) :
    ∃ mutation ∈ consolidate order rows, row.recordId ∈ mutation.recordIds := by
  obtain ⟨mutation, sent, named⟩ := consolidate_has_key visits member
  refine ⟨mutation, sent, (consolidate_group_ids (consolidate_own_group sent)).mem_iff.mpr ?_⟩
  exact List.mem_map_of_mem (List.mem_filter.mpr ⟨member, decide_eq_true named.symm⟩)

theorem consolidate_keys_nodup (visits : Visits order (groupRows rows)) :
    ((consolidate order rows).map ConsolidatedMutation.key).Nodup := by
  have labelled : ∀ key mutation,
      consolidateGroup (getOr (groupRows rows) key []) = some mutation →
        mutation.key = id key := by
    intro key mutation made
    rw [(lookup_group_rows rows key).1] at made
    apply consolidate_group_key _ made
    intro row grouped
    exact of_decide_eq_true (List.mem_filter.mp grouped).2
  have sublist := filterMap_labels_sublist id ConsolidatedMutation.key labelled order
  rw [List.map_id] at sublist
  have permuted := (List.perm_insertionSort SentBefore (order.filterMap (fun key =>
    consolidateGroup (getOr (groupRows rows) key [])))).map ConsolidatedMutation.key
  exact permuted.nodup_iff.mpr (visits.1.sublist sublist)

theorem merge_data_nonempty {entry : StoredRow} {fields : Record} (member : entry ∈ entries)
    (data : entry.data = some fields) (nonempty : fields ≠ ∅) :
    entries.foldl mergeData ∅ ≠ ∅ := by
  obtain ⟨before, after, split⟩ := List.append_of_mem member
  rw [split, List.foldl_append, List.foldl_cons, merge_data_base]
  intro empty
  apply nonempty
  apply Finmap.ext_lookup
  intro field
  rw [Finmap.lookup_empty, Finmap.lookup_eq_none]
  intro present
  have merged : field ∈ after.foldl mergeData ∅ ∪ mergeData (before.foldl mergeData ∅) entry := by
    rw [Finmap.mem_union]
    right
    rw [mergeData, data]
    exact Finmap.mem_union.mpr (Or.inl present)
  rw [empty] at merged
  exact Finmap.notMem_empty merged

theorem consolidated_change_data (nonempty : entries ≠ [])
    (carries : ∀ entry ∈ entries, entry.op = .update → ∃ fields, entry.data = some fields ∧
      fields ≠ ∅) :
    (consolidatedChange entries).1 = .delete ∨ (consolidatedChange entries).2.isSome = true := by
  by_cases deletes : ∃ entry ∈ entries, entry.op = .delete
  · rw [consolidated_delete deletes]
    exact Or.inl rfl
  · right
    have noDelete : entries.any (fun entry => entry.op == .delete) = false := by
      simpa using deletes
    cases inserts : entries.any (fun entry => entry.op == .insert) with
    | true => simp [consolidatedChange, noDelete, inserts]
    | false =>
      have updates : ∀ entry ∈ entries, entry.op = .update := by
        intro entry member
        rw [List.any_eq_false] at noDelete inserts
        have notDelete := noDelete entry member
        have notInsert := inserts entry member
        cases op : entry.op with
        | insert => simp [op] at notInsert
        | update => rfl
        | delete => simp [op] at notDelete
      obtain ⟨first, member⟩ := List.exists_mem_of_ne_nil entries nonempty
      obtain ⟨fields, data, filled⟩ := carries first member (updates first member)
      rw [consolidated_updates updates, if_neg (merge_data_nonempty member data filled)]
      rfl

theorem consolidate_group_data (made : consolidateGroup group = some mutation)
    (carries : ∀ row ∈ group, row.op = .update → ∃ fields, row.data = some fields ∧ fields ≠ ∅) :
    mutation.op = .delete ∨ mutation.data.isSome = true := by
  unfold consolidateGroup at made
  split at made
  · cases made
  · rename_i first rest sorted
    cases made
    apply consolidated_change_data (List.cons_ne_nil first rest)
    intro entry member
    rw [← sorted, List.mem_insertionSort] at member
    exact carries entry member

theorem change_preserves_iff (valid : ValidHistory row.isSome entries) (nonempty : entries ≠ []) :
    applyOp (consolidatedChange entries).1 (consolidatedChange entries).2 row =
      entries.foldl applyEntry row ↔ EndsDeleted entries := by
  by_cases deletes : ∃ entry ∈ entries, entry.op = .delete
  · -- with a delete in the group the mutation is a delete, whatever comes last
    obtain ⟨last, ends⟩ : ∃ last, entries.getLast? = some last :=
      ⟨_, List.getLast?_eq_getLast_of_ne_nil nonempty⟩
    have gone : EndsDeleted entries ↔ last.op = .delete := by
      simp only [EndsDeleted, deletes, ends, forall_const, Option.map_some, Option.some.injEq]
    rw [gone, ← valid_present valid ends, consolidated_delete deletes]
    exact eq_comm
  · have kept : ∀ entry ∈ entries, entry.op ≠ .delete := by
      intro entry member removed
      exact deletes ⟨entry, member, removed⟩
    have never : EndsDeleted entries := fun removed => absurd removed deletes
    rw [iff_true_right never]
    rcases valid_without_delete valid kept with updates | ⟨first, rest, split, inserted, updates⟩
    · rw [consolidated_updates updates, apply_updates updates]
      by_cases empty : entries.foldl mergeData ∅ = ∅
      · simp [applyOp, empty]
      · simp [applyOp, empty]
    · rw [split, consolidated_insert inserted updates, List.foldl_cons, apply_updates updates]
      simp [applyOp, applyEntry, inserted, merge_data_base (first.data.getD ∅) rest]

theorem consolidate_at_key (visits : Visits order (groupRows rows)) (key : RowKey) :
    (consolidate order rows).filter (fun mutation => mutation.key = key) =
      (consolidateGroup (rows.filter (fun row => row.key = key))).toList := by
  have made : ∀ other mutation,
      consolidateGroup (getOr (groupRows rows) other []) = some mutation →
        mutation.key = other := by
    intro other mutation some
    rw [(lookup_group_rows rows other).1] at some
    apply consolidate_group_key _ some
    intro row member
    simpa using (List.mem_filter.mp member).2
  have grouped := (lookup_group_rows rows key).1
  have selected : (order.filterMap (fun other =>
        consolidateGroup (getOr (groupRows rows) other []))).filter
          (fun mutation => mutation.key = key) =
      (consolidateGroup (rows.filter (fun row => row.key = key))).toList := by
    rw [filter_filterMap_at_key visits.1 made key]
    split_ifs with visited
    · rw [grouped]
    · rw [← grouped, getOr_of_not_mem (fun member => visited ((visits.2 key).mpr member))]
      rfl
  unfold consolidate
  rw [filter_insertion_sort SentBefore (fun mutation => decide (mutation.key = key)), selected]
  cases consolidateGroup (rows.filter (fun row => row.key = key)) with
  | none | some mutation => rfl

theorem consolidate_one_key (visits : Visits order (groupRows rows))
    (named : ∀ row ∈ rows, row.key = key) :
    consolidate order rows = (consolidateGroup rows).toList := by
  have all : rows.filter (fun row => row.key = key) = rows := by
    rw [List.filter_eq_self]
    intro row member
    exact decide_eq_true (named row member)
  have here := consolidate_at_key visits key
  rw [all] at here
  rw [← here, eq_comm, List.filter_eq_self]
  intro mutation member
  obtain ⟨other, made⟩ := mem_consolidate member
  have same : other = key := by
    by_contra different
    have none : rows.filter (fun row => row.key = other) = [] := by
      rw [List.filter_eq_nil_iff]
      intro row held
      simpa [named row held] using Ne.symm different
    rw [none] at made
    cases made
  rw [same, all] at made
  exact decide_eq_true (consolidate_group_key named made)

theorem group_preserves_iff (valid : ValidHistory row.isSome (group.insertionSort CreatedBefore)) :
    (consolidateGroup group).toList.foldl
        (fun held mutation => applyOp mutation.op mutation.data held) row =
      (group.insertionSort CreatedBefore).foldl applyEntry row ↔
        EndsDeleted (group.insertionSort CreatedBefore) := by
  unfold consolidateGroup
  cases sorted : group.insertionSort CreatedBefore with
  | nil => simp [EndsDeleted]
  | cons first rest =>
    rw [sorted] at valid
    exact change_preserves_iff valid (List.cons_ne_nil first rest)

/-- For every key with a valid history, the consolidated mutations leave at the key what
the queued rows leave there in order of creation, if and only if the history does not end
with the row present after a delete. -/
theorem consolidation_preserves_row_iff (order : List RowKey) (rows : List StoredRow)
    (table : Table) (key : RowKey) (visits : Visits order (groupRows rows))
    (valid : ValidHistory (table.lookup key).isSome (history rows key)) :
    ((consolidate order rows).foldl applyMutation table).lookup key =
        ((rows.insertionSort CreatedBefore).foldl applyRow table).lookup key ↔
      EndsDeleted (history rows key) := by
  have consolidated := lookup_foldl_alter ConsolidatedMutation.key
    (fun mutation => applyOp mutation.op mutation.data) (consolidate order rows) table key
  have oneByOne := lookup_foldl_alter StoredRow.key (fun row => applyOp row.op row.data)
    (rows.insertionSort CreatedBefore) table key
  unfold applyMutation applyRow
  rw [consolidated, oneByOne, consolidate_at_key visits,
    filter_insertion_sort CreatedBefore (fun row => decide (row.key = key)) rows]
  exact group_preserves_iff valid

def insertThenUpdate : List StoredRow :=
  [⟨"a", .insert, "task", "t1", "p1", some (Finmap.singleton "title" (.string "x")), 1⟩,
    ⟨"b", .update, "task", "t1", "p1", some (Finmap.singleton "title" (.string "y")), 2⟩]

theorem insert_then_update_preserved :
    ((consolidate [("task", "t1")] insertThenUpdate).foldl applyMutation ∅).lookup
        ("task", "t1") =
      ((insertThenUpdate.insertionSort CreatedBefore).foldl applyRow ∅).lookup
        ("task", "t1") := by
  have visits : Visits [("task", "t1")] (groupRows insertThenUpdate) := by
    apply visits_of_keys (by decide)
    decide
  apply (consolidation_preserves_row_iff [("task", "t1")] insertThenUpdate ∅ ("task", "t1")
    visits (by decide)).mpr
  decide

def deleteThenInsert : List StoredRow :=
  [⟨"a", .delete, "task", "t1", "p1", none, 1⟩,
    ⟨"b", .insert, "task", "t1", "p1", some (Finmap.singleton "title" (.string "y")), 2⟩]

/-- The consolidated mutation deletes a row that the queued rows leave present. -/
theorem delete_then_insert_is_sent_as_delete :
    let table : Table := Finmap.singleton ("task", "t1") (Finmap.singleton "title" (.string "x"))
    ValidHistory (table.lookup ("task", "t1")).isSome
        (history deleteThenInsert ("task", "t1")) ∧
      ((consolidate [("task", "t1")] deleteThenInsert).foldl applyMutation table).lookup
          ("task", "t1") = none ∧
      ((deleteThenInsert.insertionSort CreatedBefore).foldl applyRow table).lookup
          ("task", "t1") = some (Finmap.singleton "title" (.string "y")) := by
  decide

end Stitch.Client.Consolidation
