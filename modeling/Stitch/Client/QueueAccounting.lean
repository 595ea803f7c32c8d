import Stitch.Client.WritePath

/-!
# Every queued row is accounted for

A row leaves the queue by a flush that sent it or by the `remove` of a direct send, which selects
rows by entity, id, scope and operation, so it can also take out rows that no answer was given
for.
-/

namespace Stitch.Client.QueueAccounting

open Foundation.GuardedRuns Mutations Consolidation WritePath

/-- A direct send takes out no row but its own, or it is an edit of a row that was reported
missing and is not queued for insertion since; and no update is without fields. -/
def LoneRemoval (state : QueueState) (action : Action) : Prop :=
  match action with
  | .begin row => row.op = .update → row.data ≠ some ∅
  | .remove recordId _ =>
    ∀ call ∈ state.calls, call.row.recordId = recordId →
      ∀ other ∈ state.rows, sameSlot call.row other = true →
        other.recordId = recordId ∨
          (call.row.op ≠ .insert ∧ call.row.key ∈ state.history.missing)
  | _ => True

instance (state : QueueState) (action : Action) : Decidable (LoneRemoval state action) :=
  match action with
  | .begin row => inferInstanceAs (Decidable (row.op = .update → row.data ≠ some ∅))
  | .remove _ _ => inferInstanceAs (Decidable (∀ call ∈ state.calls, _ → _))
  | .returnOffline _ => inferInstanceAs (Decidable True)
  | .send _ _ => inferInstanceAs (Decidable True)
  | .react _ => inferInstanceAs (Decidable True)
  | .removeFails _ => inferInstanceAs (Decidable True)
  | .deleteListed _ _ => inferInstanceAs (Decidable True)
  | .beginFlush _ _ => inferInstanceAs (Decidable True)
  | .sendFlush _ => inferInstanceAs (Decidable True)
  | .deleteFlushed _ => inferInstanceAs (Decidable True)
  | .endFlush => inferInstanceAs (Decidable True)

/-- Every queued edit of a row that is missing is excused. -/
def MissingExcused (history : History) : Prop :=
  ∀ row ∈ history.queued, row.op ≠ .insert → row.key ∈ history.missing →
    row.recordId ∈ history.excused

structure Grows (before after : History) : Prop where
  queued : ∀ row ∈ before.queued, row ∈ after.queued
  verdicts : ∀ verdict ∈ before.verdicts, verdict ∈ after.verdicts
  excused : ∀ recordId ∈ before.excused, recordId ∈ after.excused
  missing : MissingExcused before → MissingExcused after

variable {before : History} {state after : QueueState} {row : StoredRow} {recordId root : String}
  {call : Call} {answer : Answer} {op : Operation} {deleted : Bool} {answers : FlushAnswers}

theorem resolved_grows {after : History} (grows : Grows before after)
    (resolved : before.Resolved row) : after.Resolved row := by
  rcases resolved with ⟨verdict, noted, final⟩ | excused
  · exact Or.inl ⟨verdict, grows.verdicts verdict noted, final⟩
  · exact Or.inr (grows.excused row.recordId excused)

theorem grows_refl (history : History) : Grows history history :=
  ⟨fun _ => id, fun _ => id, fun _ => id, id⟩

theorem grows_trans {middle after : History} (first : Grows before middle)
    (second : Grows middle after) : Grows before after :=
  ⟨fun row queued => second.queued row (first.queued row queued),
    fun verdict noted => second.verdicts verdict (first.verdicts verdict noted),
    fun recordId excused => second.excused recordId (first.excused recordId excused),
    fun missing => second.missing (first.missing missing)⟩

theorem grows_verdicts (history : History) (verdicts : List Verdict) :
    Grows history { history with verdicts := history.verdicts ++ verdicts } :=
  ⟨fun _ => id, fun _ => List.mem_append_left _, fun _ => id, id⟩

theorem mem_edits_of {rows : List StoredRow} {key : RowKey} (member : row ∈ rows)
    (same : row.key = key) (edit : row.op ≠ .insert) : row.recordId ∈ editsOf key rows :=
  List.mem_map_of_mem (List.mem_filter.mpr ⟨member, by simp [same, edit]⟩)

theorem grows_missing (history : History) (key : RowKey) :
    Grows history (history.noteMissing key) := by
  refine ⟨fun _ => id, fun _ => id, fun _ => List.mem_append_right _, ?_⟩
  intro missing row queued edit told
  rcases List.mem_cons.mp told with same | before
  · exact List.mem_append_left _ (mem_edits_of queued same edit)
  · exact List.mem_append_right _ (missing row queued edit before)

theorem grows_refused (history : History) (key : RowKey) (recordIds : List String) :
    Grows history (history.noteRefused key recordIds) := by
  refine ⟨fun _ => id, fun _ => id, fun _ => List.mem_append_right _, ?_⟩
  intro missing row queued edit told
  exact List.mem_append_right _ (missing row queued edit told)

theorem grows_queued (history : History) (row : StoredRow) :
    Grows history (history.noteQueued row) := by
  have excused : ∀ recordId ∈ history.excused, recordId ∈ (history.noteQueued row).excused := by
    intro recordId before
    unfold History.noteQueued
    dsimp only
    split_ifs
    · exact List.mem_cons_of_mem _ before
    · exact before
  refine ⟨fun _ => List.mem_append_left _, fun _ => id, excused, ?_⟩
  intro missing other queued edit told
  have still : other.key ∈ history.missing := by
    unfold History.noteQueued at told
    dsimp only at told
    split_ifs at told
    · exact List.mem_of_mem_filter told
    · exact told
  rcases List.mem_append.mp queued with old | new
  · exact excused _ (missing other old edit still)
  · rw [List.mem_singleton.mp new] at edit still ⊢
    unfold History.noteQueued
    dsimp only
    rw [if_pos ⟨edit, List.contains_iff_mem.mpr (List.mem_append_left _ still)⟩]
    exact List.mem_cons_self

def Answered (history : History) (recordId : String) : Prop :=
  ∃ row ∈ history.queued, row.recordId = recordId ∧ history.Resolved row

theorem answered_grows {after : History} (grows : Grows before after)
    (answered : Answered before recordId) : Answered after recordId := by
  obtain ⟨row, queued, same, resolved⟩ := answered
  exact ⟨row, grows.queued row queued, same, resolved_grows grows resolved⟩

def PhaseAccounted (history : History) (row : StoredRow) : CallPhase → Prop
  | .queued => True
  | .answered answer =>
    ∃ verdict ∈ history.verdicts, row.recordId ∈ verdict.recordIds ∧ verdict.op = row.op ∧
      verdict.answer = answer
  | .removes _ => history.Resolved row
  | .deleting recordIds => ∀ recordId ∈ recordIds, Answered history recordId

def CallAccounted (history : History) (call : Call) : Prop :=
  call.row ∈ history.queued ∧ PhaseAccounted history call.row call.phase

theorem call_accounted_grows {after : History} (grows : Grows before after)
    (accounted : CallAccounted before call) : CallAccounted after call := by
  refine ⟨grows.queued call.row accounted.1, ?_⟩
  have known := accounted.2
  cases phase : call.phase with
  | queued => trivial
  | answered answer =>
    rw [phase] at known
    obtain ⟨verdict, noted, same⟩ := known
    exact ⟨verdict, grows.verdicts verdict noted, same⟩
  | removes answer =>
    rw [phase] at known
    exact resolved_grows grows known
  | deleting recordIds =>
    rw [phase] at known
    intro recordId listed
    exact answered_grows grows (known recordId listed)

structure FlushAccounted (history : History) (run : FlushRun) : Prop where
  sent : ∀ mutation ∈ run.toSend, sends mutation = true ∧
    ∀ recordId ∈ mutation.recordIds, ∃ row ∈ history.queued, row.recordId = recordId
  removed : ∀ recordId ∈ run.toRemove, Answered history recordId

theorem flush_accounted_grows {after : History} (grows : Grows before after) {run : FlushRun}
    (accounted : FlushAccounted before run) : FlushAccounted after run := by
  refine ⟨?_, ?_⟩
  · intro mutation pending
    obtain ⟨sent, rows⟩ := accounted.sent mutation pending
    refine ⟨sent, ?_⟩
    intro recordId included
    obtain ⟨row, queued, same⟩ := rows recordId included
    exact ⟨row, grows.queued row queued, same⟩
  · intro recordId pending
    exact answered_grows grows (accounted.removed recordId pending)

structure Accounted (state : QueueState) : Prop where
  distinct : (state.history.queued.map StoredRow.recordId).Nodup
  carries : ∀ row ∈ state.history.queued, row.op = .update → ∃ fields, row.data = some fields ∧
    fields ≠ ∅
  known : ∀ row ∈ state.rows, row ∈ state.history.queued
  kept : ∀ row ∈ state.history.queued, row ∈ state.rows ∨ state.history.Resolved row
  missing : MissingExcused state.history
  calls : ∀ call ∈ state.calls, CallAccounted state.history call
  flush : ∀ run, state.flush = some run → FlushAccounted state.history run

theorem empty_accounted (kind : QueueKind) : Accounted (QueueState.empty kind) := by
  constructor <;> simp [QueueState.empty, MissingExcused]

theorem call_found (found : state.call? recordId = some call) :
    call ∈ state.calls ∧ call.row.recordId = recordId := by
  refine ⟨List.mem_of_find?_eq_some found, ?_⟩
  simpa using List.find?_some found

section

variable (accounted : Accounted state)

include accounted

theorem same_row {left right : StoredRow}
    (leftQueued : left ∈ state.history.queued) (rightQueued : right ∈ state.history.queued)
    (same : left.recordId = right.recordId) : left = right :=
  List.inj_on_of_nodup_map accounted.distinct leftQueued rightQueued same

theorem answered_row (queued : row ∈ state.history.queued)
    (answered : Answered state.history row.recordId) :
    state.history.Resolved row := by
  obtain ⟨other, otherQueued, same, resolved⟩ := answered
  rw [← same_row accounted otherQueued queued same]
  exact resolved

theorem accounted_history (history : History)
    (flush : Option FlushRun) (grows : Grows state.history history)
    (queued : history.queued = state.history.queued)
    (running : ∀ run, flush = some run → FlushAccounted history run) :
    Accounted { state with history := history, flush := flush } := by
  refine ⟨?_, ?_, ?_, ?_, grows.missing accounted.missing, ?_, running⟩
  · rw [queued]
    exact accounted.distinct
  · rw [queued]
    exact accounted.carries
  · rw [queued]
    exact accounted.known
  · intro row member
    rw [queued] at member
    rcases accounted.kept row member with held | resolved
    · exact Or.inl held
    · exact Or.inr (resolved_grows grows resolved)
  · intro call member
    exact call_accounted_grows grows (accounted.calls call member)

theorem accounted_set_phase (found : state.call? recordId = some call)
    (history : History) (phase : CallPhase) (grows : Grows state.history history)
    (queued : history.queued = state.history.queued) (moved : PhaseAccounted history call.row phase)
    :
    Accounted { state.setPhase recordId phase with history := history } := by
  have named := call_found found
  have extended := accounted_history accounted history state.flush grows queued
    (fun run running => flush_accounted_grows grows (accounted.flush run running))
  refine { extended with calls := ?_ }
  intro changed member
  obtain ⟨old, oldMember, changedTo⟩ := List.mem_map.mp member
  have before := extended.calls old oldMember
  by_cases here : old.row.recordId = recordId
  · have same : old.row = call.row :=
      same_row accounted (accounted.calls old oldMember).1 (accounted.calls call named.1).1
        (here.trans named.2.symm)
    rw [if_pos here] at changedTo
    rw [← changedTo]
    refine ⟨before.1, ?_⟩
    rw [same]
    exact moved
  · rw [if_neg here] at changedTo
    rw [← changedTo]
    exact before

theorem accounted_finish (recordId : String) :
    Accounted (state.finish recordId) := by
  refine { accounted with calls := ?_ }
  intro call member
  exact accounted.calls call (List.mem_of_mem_filter member)

theorem accounted_filter_rows (stays : StoredRow → Bool)
    (gone : ∀ row ∈ state.rows, stays row = false → state.history.Resolved row) :
    Accounted { state with rows := state.rows.filter stays } := by
  refine { accounted with known := ?_, kept := ?_ }
  · intro row member
    exact accounted.known row (List.mem_of_mem_filter member)
  · intro row queued
    rcases accounted.kept row queued with held | resolved
    · cases stay : stays row with
      | false => exact Or.inr (gone row held stay)
      | true => exact Or.inl (List.mem_filter.mpr ⟨held, stay⟩)
    · exact Or.inr resolved

theorem accounted_delete_row (answered : Answered state.history recordId) (deleted : Bool) :
    Accounted (state.deleteRow recordId deleted) := by
  cases deleted with
  | false => exact accounted
  | true =>
    apply accounted_filter_rows accounted
    intro row member gone
    have same : row.recordId = recordId := by simpa using gone
    apply answered_row accounted (accounted.known row member)
    rw [same]
    exact answered

theorem begin_accounted
    (fields : row.op = .update → row.data ≠ some ∅) (taken : state.beginCall row = some after) :
    Accounted after := by
  unfold QueueState.beginCall at taken
  split_ifs at taken with fresh
  cases taken
  have grows := grows_queued state.history row
  refine ⟨?_, ?_, ?_, ?_, grows.missing accounted.missing, ?_, ?_⟩
  · simp only [History.noteQueued, List.map_append, List.map_cons, List.map_nil]
    rw [List.nodup_append]
    refine ⟨accounted.distinct, List.nodup_singleton _, ?_⟩
    intro recordId used other new same
    rw [List.mem_singleton.mp new] at same
    exact fresh.1 (same ▸ used)
  · intro other member update
    rcases List.mem_append.mp member with old | new
    · exact accounted.carries other old update
    · rw [List.mem_singleton.mp new] at update ⊢
      obtain ⟨data, found⟩ : ∃ data, row.data = some data := by
        apply Option.isSome_iff_exists.mp
        rw [fresh.2, update]
        rfl
      refine ⟨data, found, ?_⟩
      intro empty
      rw [empty] at found
      exact fields update found
  · intro other member
    rcases List.mem_append.mp member with old | new
    · exact List.mem_append_left _ (accounted.known other old)
    · exact List.mem_append_right _ new
  · intro other member
    rcases List.mem_append.mp member with old | new
    · rcases accounted.kept other old with held | resolved
      · exact Or.inl (List.mem_append_left _ held)
      · exact Or.inr (resolved_grows grows resolved)
    · exact Or.inl (List.mem_append_right _ new)
  · intro call member
    rcases List.mem_append.mp member with old | new
    · exact call_accounted_grows grows (accounted.calls call old)
    · rw [List.mem_singleton.mp new]
      exact ⟨List.mem_append_right _ (List.mem_singleton_self row), trivial⟩
  · intro run running
    exact flush_accounted_grows grows (accounted.flush run running)

theorem return_offline_accounted (taken : state.returnOffline recordId = some after) :
    Accounted after := by
  unfold QueueState.returnOffline at taken
  split at taken
  · cases taken
    exact accounted_finish accounted recordId
  · cases taken

theorem send_accounted
    (taken : state.sendDirect recordId answer = some after) : Accounted after := by
  unfold QueueState.sendDirect at taken
  split at taken
  · rename_i row found
    cases taken
    apply accounted_set_phase accounted found _ (.answered answer)
    · exact grows_verdicts state.history _
    · rfl
    · exact ⟨_, List.mem_append_right _ (List.mem_singleton_self _), List.mem_singleton_self _,
        rfl, rfl⟩
  · cases taken

omit accounted in
theorem same_slot {other : StoredRow} (slot : sameSlot row other = true) :
    other.key = row.key ∧ other.op = row.op := by
  simp only [sameSlot, Bool.and_eq_true, beq_iff_eq] at slot
  obtain ⟨⟨⟨entity, id⟩, _⟩, op⟩ := slot
  exact ⟨by rw [StoredRow.key, StoredRow.key, entity, id], op.symm⟩

omit accounted in
theorem removing_error {err : Error} (reacted : reaction op (.error err) = .remove ∨
      reaction op (.error err) = .removeUnlessInserting) :
    err.isTransient = false ∧ (op = .insert → err.isNotFound = false) := by
  cases transient : err.isTransient with
  | true =>
    obtain ⟨ownership, notFound, conflict, terminal, _⟩ := transient_excludes_refusal transient
    cases op <;>
      simp [reaction, createReaction, updateReaction, deleteReaction, editReaction, transient,
        ownership, notFound, terminal] at reacted
  | false =>
    refine ⟨rfl, ?_⟩
    intro insert
    cases notFound : err.isNotFound with
    | false => rfl
    | true =>
      obtain ⟨_, ownership, conflict, terminal⟩ := not_found_excludes_refusal notFound
      simp [insert, reaction, createReaction, transient, ownership, conflict, terminal]
        at reacted

omit accounted in
theorem removing_answer_final {verdict : Verdict}
    (reacted : reaction verdict.op verdict.answer = .remove ∨
      reaction verdict.op verdict.answer = .removeUnlessInserting) : verdict.isFinal = true := by
  unfold Verdict.isFinal
  cases answer : verdict.answer with
  | ok _ => rfl
  | error err =>
    rw [answer] at reacted
    obtain ⟨transient, notFound⟩ := removing_error reacted
    by_cases insert : verdict.op = .insert
    · simp [transient, notFound insert]
    · simp [transient, insert]

theorem react_accounted (taken : state.react recordId = some after) :
    Accounted after := by
  unfold QueueState.react at taken
  split at taken
  · rename_i row answer found
    obtain ⟨verdict, noted, included, op, answers⟩ := (accounted.calls _ (call_found found).1).2
    -- the call's own row is settled whenever the reaction clears queue rows
    have settled : reaction row.op answer = .remove ∨
        reaction row.op answer = .removeUnlessInserting → state.history.Resolved row := by
      intro reacted
      rw [← op, ← answers] at reacted
      exact Or.inl ⟨verdict, noted, included, removing_answer_final reacted⟩
    split at taken
    · rename_i reacted
      split_ifs at taken with refusedInsert
      · cases taken
        have grows := grows_refused state.history row.key [row.recordId]
        exact accounted_set_phase accounted found _ (.removes answer) grows rfl
          (resolved_grows grows (settled (Or.inl reacted)))
      · cases taken
        exact accounted_set_phase accounted found state.history (.removes answer)
          (grows_refl state.history) rfl (settled (Or.inl reacted))
    · rename_i reacted
      split_ifs at taken with pending
      · cases taken
        exact accounted_finish accounted recordId
      · cases taken
        have grows := grows_missing state.history row.key
        exact accounted_set_phase accounted found _ (.removes answer) grows rfl
          (resolved_grows grows (settled (Or.inr reacted)))
    · cases taken
      exact accounted_finish accounted recordId
    · cases taken
      exact accounted_finish accounted recordId
  · cases taken

theorem remove_accounted {listed : List String} (lone : LoneRemoval state (.remove recordId listed))
    (taken : state.removeRows recordId listed = some after) : Accounted after := by
  unfold QueueState.removeRows at taken
  split at taken
  · rename_i row answer found
    have named := call_found found
    have known := accounted.calls _ named.1
    have cleared : ∀ other ∈ state.rows, sameSlot row other = true →
        state.history.Resolved other := by
      intro other member slot
      have queued := accounted.known other member
      rcases lone _ named.1 named.2 other member slot with own | ⟨edit, missing⟩
      · rw [same_row accounted queued known.1 (own.trans named.2.symm)]
        exact known.2
      · obtain ⟨key, op⟩ := same_slot slot
        exact Or.inr (accounted.missing other queued (op ▸ edit) (key ▸ missing))
    split at taken
    · cases taken
      apply accounted_filter_rows (accounted_finish accounted recordId)
      intro other member gone
      exact cleared other member (by simpa using gone)
    · split_ifs at taken with order
      cases taken
      apply accounted_set_phase accounted found state.history (.deleting listed)
        (grows_refl state.history) rfl
      intro id member
      obtain ⟨other, selected, same⟩ := List.mem_map.mp (order.mem_iff.mp member)
      obtain ⟨held, slot⟩ := List.mem_filter.mp selected
      exact ⟨other, accounted.known other held, same, cleared other held slot⟩
  · cases taken

theorem remove_fails_accounted
    (taken : state.removeFails recordId = some after) : Accounted after := by
  unfold QueueState.removeFails at taken
  split at taken
  · split_ifs at taken
    cases taken
    exact accounted_finish accounted recordId
  · cases taken

theorem delete_listed_accounted
    (taken : state.deleteListed recordId deleted = some after) : Accounted after := by
  unfold QueueState.deleteListed at taken
  split at taken
  · cases taken
    exact accounted_finish accounted recordId
  · rename_i row first rest found
    cases taken
    have pending := (accounted.calls _ (call_found found).1).2
    apply accounted_delete_row
    · apply accounted_set_phase accounted found state.history (.deleting rest)
        (grows_refl state.history) rfl
      intro id member
      exact pending id (List.mem_cons_of_mem _ member)
    · exact pending first List.mem_cons_self
  · cases taken

theorem begin_flush_accounted {listed : List StoredRow}
    {order : List RowKey} (taken : state.beginFlush listed order = some after) :
    Accounted after := by
  unfold QueueState.beginFlush at taken
  split_ifs at taken with ready empty
  · cases taken
    exact accounted
  · cases taken
    refine { accounted with flush := ?_ }
    intro run running
    cases running
    refine ⟨?_, by simp⟩
    intro mutation pending
    obtain ⟨key, made⟩ := mem_consolidate pending
    have queued : ∀ row ∈ listed.filter (fun row => row.key = key),
        row ∈ state.history.queued := by
      intro row member
      exact accounted.known row ((lists_mem_iff ready.2.1 row).mp (List.mem_of_mem_filter member))
    refine ⟨?_, ?_⟩
    · have filled := consolidate_group_data made
        (fun row member => accounted.carries row (queued row member))
      simpa [sends] using filled
    · intro recordId included
      obtain ⟨row, member, same⟩ := consolidate_group_rows made recordId included
      exact ⟨row, queued row member, same⟩

omit accounted in
theorem dropped_is_final {mutation : ConsolidatedMutation} (sent : sends mutation = true)
    (dropped : flushOutcome root mutation answers ≠ .keep) :
    (verdictOn mutation mutation.op mutation.data answers.attempt).isFinal = true := by
  unfold Verdict.isFinal verdictOn
  unfold flushOutcome at dropped
  rw [if_pos sent] at dropped
  cases answer : answers.attempt with
  | ok _ => rfl
  | error err =>
    simp only [answer] at dropped
    cases transient : err.isTransient with
    | true => simp [transient] at dropped
    | false =>
      by_cases retried : err.isNotFound = true ∧ mutation.op = .insert
      · obtain ⟨_, ownership, conflict, _⟩ := not_found_excludes_refusal retried.1
        simp [transient, ownership, conflict, retried] at dropped
      · have settled : (err.isNotFound && mutation.op == .insert) = false := by
          simpa using retried
        simp only [transient, settled, Bool.not_false, Bool.and_self]

omit accounted in
theorem after_flushed_grows (history : History) (root : String)
    (mutation : ConsolidatedMutation) (answers : FlushAnswers) :
    Grows history (history.afterFlushed root mutation answers) := by
  have answered := grows_verdicts history (flushVerdicts root mutation answers)
  unfold History.afterFlushed
  dsimp only
  split_ifs
  · exact grows_trans answered (grows_trans (grows_missing _ _) (grows_refused _ _ _))
  · exact grows_trans answered (grows_refused _ _ _)
  · exact grows_trans answered (grows_missing _ _)
  · exact answered

theorem send_flush_accounted
    (taken : state.sendFlush root answers = some after) : Accounted after := by
  unfold QueueState.sendFlush at taken
  split at taken
  · rename_i mutation rest toRemove running
    have grows := after_flushed_grows state.history root mutation answers
    obtain ⟨unchanged, noted⟩ := after_flushed_queued state.history root mutation answers
    have flush := flush_accounted_grows grows (accounted.flush _ running)
    have later := fun other pending => flush.sent other (List.mem_cons_of_mem mutation pending)
    split_ifs at taken with waits kept
    · cases taken
      apply accounted_history accounted _ _ grows unchanged
      intro run now
      cases now
      exact ⟨later, flush.removed⟩
    · cases taken
      apply accounted_history accounted _ _ grows unchanged
      intro run now
      cases now
      refine ⟨later, ?_⟩
      intro recordId removed
      rcases List.mem_append.mp removed with before | here
      · exact flush.removed recordId before
      · obtain ⟨sent, included⟩ := flush.sent mutation List.mem_cons_self
        obtain ⟨row, queued, same⟩ := included recordId here
        refine ⟨row, queued, same, Or.inl ⟨_, ?_, ?_, dropped_is_final sent kept⟩⟩
        · rw [noted, flushVerdicts, if_pos sent]
          exact List.mem_append_right _ List.mem_cons_self
        · rw [same]
          exact here
  · cases taken

theorem delete_flushed_accounted
    (taken : state.deleteFlushed deleted = some after) : Accounted after := by
  unfold QueueState.deleteFlushed at taken
  split at taken
  · rename_i toSend first rest _ running
    cases taken
    have flush := accounted.flush _ running
    have removed := accounted_delete_row accounted (flush.removed first List.mem_cons_self) deleted
    have same : (state.deleteRow first deleted).history = state.history := by
      cases deleted <;> rfl
    apply accounted_history removed (state.deleteRow first deleted).history
      (some ⟨toSend, rest⟩) (grows_refl _) rfl
    intro run now
    cases now
    rw [same]
    refine ⟨flush.sent, ?_⟩
    intro recordId pending
    exact flush.removed recordId (List.mem_cons_of_mem _ pending)
  · cases taken

theorem end_flush_accounted (taken : state.endFlush = some after) :
    Accounted after := by
  unfold QueueState.endFlush at taken
  split at taken
  · cases taken
    exact { accounted with flush := by simp }
  · rename_i toRemove _ running
    cases taken
    have flush := accounted.flush _ running
    have removed := accounted_filter_rows accounted
      (fun row => decide (row.recordId ∉ toRemove)) (by
        intro row member gone
        apply answered_row accounted (accounted.known row member)
        apply flush.removed
        simpa using gone)
    exact { removed with flush := by simp }
  · cases taken

end

theorem step_accounted {action : Action} (accounted : Accounted state)
    (lone : LoneRemoval state action) (taken : state.step root action = some after) :
    Accounted after := by
  cases action with
  | begin row => exact begin_accounted accounted lone taken
  | returnOffline recordId => exact return_offline_accounted accounted taken
  | send recordId answer => exact send_accounted accounted taken
  | react recordId => exact react_accounted accounted taken
  | remove recordId listed => exact remove_accounted accounted lone taken
  | removeFails recordId => exact remove_fails_accounted accounted taken
  | deleteListed recordId deleted => exact delete_listed_accounted accounted taken
  | beginFlush listed order => exact begin_flush_accounted accounted taken
  | sendFlush answers => exact send_flush_accounted accounted taken
  | deleteFlushed deleted => exact delete_flushed_accounted accounted taken
  | endFlush => exact end_flush_accounted accounted taken

def titleUpdate (recordId : String) (title : String) (createdAt : Nat) : StoredRow :=
  ⟨recordId, .update, "task", "t1", "p1", some (Finmap.singleton "title" (.string title)),
    createdAt⟩

def parkedThenFlushed : List Action :=
  [.begin (titleUpdate "a" "x" 1), .returnOffline "a",
    .beginFlush [titleUpdate "a" "x" 1] [("task", "t1")], .sendFlush ⟨.ok (), .ok none, .ok ()⟩,
    .deleteFlushed true, .endFlush]

/-- An update made offline stays in the queue; a later update of the same row is sent
directly and acknowledged. -/
def parkedThenDirect : List Action :=
  [.begin (titleUpdate "a" "x" 1), .returnOffline "a", .begin (titleUpdate "b" "y" 2),
    .send "b" (.ok ()), .react "b", .remove "b" ["a", "b"]]

end Stitch.Client.QueueAccounting
