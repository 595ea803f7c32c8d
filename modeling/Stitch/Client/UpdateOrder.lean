import Stitch.Client.WritePath

/-!
# Updates of one row in the order of their calls

One client updates one row. Every update is queued and perhaps sent directly, and flushes send
the queue in consolidated form, from a snapshot that may have been taken before a later update
was sent.
-/

namespace Stitch.Client.UpdateOrder

open Foundation.FiniteMap Foundation.GuardedRuns Mutations Consolidation
open WritePath

/-- The server's row after the acknowledged mutations, in the order it received them. -/
def serverRow (initial : Record) (key : RowKey) (verdicts : List Verdict) : Option Record :=
  verdicts.foldl (fun row verdict =>
    if verdict.key = key ∧ verdict.answer = .ok () then applyOp verdict.op verdict.data row
    else row) (some initial)

def lastSet (calls : List StoredRow) (field : String) : Option Value :=
  calls.reverse.findSome? (fun row => row.data.bind (fun data => data.lookup field))

/-- One client makes one update of the row after the other, and every send is
acknowledged. -/
def OneRowUpdates (key : RowKey) (scope : String) (state : QueueState) : Action → Prop
  | .begin row => row.op = .update ∧ row.key = key ∧ row.scopeId = scope ∧ state.calls = []
  | .send _ answer => answer = .ok ()
  | .sendFlush answers => answers.attempt = .ok ()
  | .removeFails _ => False
  | .deleteListed _ deleted => deleted = true
  | .deleteFlushed deleted => deleted = true
  | _ => True

instance (key : RowKey) (scope : String) (state : QueueState) :
    ∀ action, Decidable (OneRowUpdates key scope state action)
  | .begin row => inferInstanceAs
      (Decidable (row.op = .update ∧ row.key = key ∧ row.scopeId = scope ∧ state.calls = []))
  | .send _ answer => inferInstanceAs (Decidable (answer = .ok ()))
  | .sendFlush answers => inferInstanceAs (Decidable (answers.attempt = .ok ()))
  | .removeFails _ => inferInstanceAs (Decidable False)
  | .deleteListed _ deleted => inferInstanceAs (Decidable (deleted = true))
  | .deleteFlushed deleted => inferInstanceAs (Decidable (deleted = true))
  | .returnOffline _ => inferInstanceAs (Decidable True)
  | .react _ => inferInstanceAs (Decidable True)
  | .remove _ _ => inferInstanceAs (Decidable True)
  | .beginFlush _ _ => inferInstanceAs (Decidable True)
  | .endFlush => inferInstanceAs (Decidable True)

/-- A direct send finds no unsent snapshot without its own row, a call takes out only its own row
or rows in the hands of a flush, and a snapshot sorts into the order of its rows. -/
def KeepsOrder (state : QueueState) : Action → Prop
  | .send recordId _ => ∀ mutation ∈ unsent state.flush, recordId ∈ mutation.recordIds
  | .remove recordId _ =>
    ∀ row ∈ state.rows, row.recordId = recordId ∨ row.recordId ∈ inHand state.flush
  | .beginFlush listed _ => listed.insertionSort CreatedBefore = state.rows
  | _ => True

instance (state : QueueState) : ∀ action, Decidable (KeepsOrder state action)
  | .send recordId _ => inferInstanceAs
      (Decidable (∀ mutation ∈ unsent state.flush, recordId ∈ mutation.recordIds))
  | .remove recordId _ => inferInstanceAs (Decidable
      (∀ row ∈ state.rows, row.recordId = recordId ∨ row.recordId ∈ inHand state.flush))
  | .beginFlush listed _ => inferInstanceAs
      (Decidable (listed.insertionSort CreatedBefore = state.rows))
  | .begin _ => inferInstanceAs (Decidable True)
  | .sendFlush _ => inferInstanceAs (Decidable True)
  | .removeFails _ => inferInstanceAs (Decidable True)
  | .deleteListed _ _ => inferInstanceAs (Decidable True)
  | .deleteFlushed _ => inferInstanceAs (Decidable True)
  | .returnOffline _ => inferInstanceAs (Decidable True)
  | .react _ => inferInstanceAs (Decidable True)
  | .endFlush => inferInstanceAs (Decidable True)

def waiting (rows : List StoredRow) (flush : Option FlushRun) : List StoredRow :=
  rows.filter (fun row => row.recordId ∉ inHand flush)

def inFlight (flush : Option FlushRun) : Record :=
  (unsent flush).foldl (fun merged mutation => mutation.data.getD ∅ ∪ merged) ∅

def patch (rows : List StoredRow) : Record := rows.foldl mergeData ∅

def Shows (record : Record) (row : StoredRow) : Prop := mergeData record row = record

variable {row left right : StoredRow} {record : Record} {rows listed : List StoredRow}
  {flush started : Option FlushRun} {mutation : ConsolidatedMutation} {phase : CallPhase}
  {verdicts : List Verdict} {recordId root : String} {call : Call} {deleted : Bool}
  {order : List RowKey} {answers : FlushAnswers}

theorem merge_data_some {data : Record} (found : row.data = some data) (record : Record) :
    mergeData record row = data ∪ record := by
  rw [mergeData, found]

theorem merge_data_union (row : StoredRow) (left right : Record) :
    mergeData (left ∪ right) row = mergeData left row ∪ right := by
  unfold mergeData
  cases row.data with
  | none => rfl
  | some data => exact Finmap.union_assoc.symm

theorem patch_snoc (rows : List StoredRow) (row : StoredRow) :
    patch (rows ++ [row]) = mergeData (patch rows) row := by
  simp [patch]

theorem shows_merged (record : Record) (row : StoredRow) : Shows (mergeData record row) row := by
  unfold Shows
  cases data : row.data with
  | none => simp only [mergeData, data]
  | some fields =>
    rw [merge_data_some data, merge_data_some data, ← Finmap.union_assoc, union_self]

theorem shows_union (shows : Shows record row) (below : Record) : Shows (record ∪ below) row := by
  unfold Shows at shows ⊢
  rw [merge_data_union, shows]

theorem patch_shown (shown : ∀ row ∈ rows, Shows record row) : patch rows ∪ record = record := by
  induction rows using List.reverseRecOn with
  | nil => exact Finmap.empty_union
  | append_singleton rows row ih =>
    have earlier := ih (fun other member => shown other (List.mem_append_left _ member))
    rw [patch_snoc, ← merge_data_union, earlier]
    exact shown row (List.mem_append_right _ (List.mem_singleton_self row))

theorem patch_lookup (initial : Record) (rows : List StoredRow) (field : String) :
    (patch rows ∪ initial).lookup field = (lastSet rows field).or (initial.lookup field) := by
  rw [lookup_union]
  congr 1
  induction rows using List.reverseRecOn with
  | nil => rfl
  | append_singleton rows row ih =>
    rw [patch_snoc, lastSet, List.reverse_append, List.reverse_singleton, List.singleton_append,
      List.findSome?_cons]
    cases data : row.data with
    | none => simpa [mergeData, data, lastSet] using ih
    | some fields =>
      rw [merge_data_some data, lookup_union, ih]
      cases found : fields.lookup field with
      | none => simp [found, lastSet]
      | some value => simp [found]

def view (flush : Option FlushRun) (server : Record) : Record := inFlight flush ∪ server

theorem view_idle (idle : unsent flush = []) (server : Record) :
    view flush server = server := by
  rw [view, inFlight, idle]
  exact Finmap.empty_union

theorem in_flight_single (single : unsent flush = [mutation]) :
    inFlight flush = mutation.data.getD ∅ := by
  rw [inFlight, single]
  exact Finmap.union_empty

/-- What is known of the call in progress, by its phase: its row is the newest one waiting,
or the view already shows it. -/
def CallInOrder (rows : List StoredRow) (flush : Option FlushRun) (server : Record)
    (row : StoredRow) : CallPhase → Prop
  | .queued =>
    ((∃ front, waiting rows flush = front ++ [row]) ∨
      waiting rows flush = [] ∧ Shows (view flush server) row) ∧
    ∀ mutation ∈ unsent flush, row.recordId ∈ mutation.recordIds → Shows (inFlight flush) row
  | .answered answer =>
    answer = .ok () ∧ Shows (view flush server) row ∧
      (waiting rows flush = [] ∨ ∃ front, waiting rows flush = front ++ [row])
  | .removes _ =>
    Shows (view flush server) row ∧
      (waiting rows flush = [] ∨ ∃ front, waiting rows flush = front ++ [row])
  | .deleting _ => ∀ other ∈ waiting rows flush, Shows (view flush server) other

theorem call_in_order_congr {before : List StoredRow} {server held : Record}
    (known : CallInOrder before started held row phase)
    (same : waiting rows flush = waiting before started)
    (viewed : view flush server = view started held)
    (sends : unsent flush = [] ∨ unsent flush = unsent started) :
    CallInOrder rows flush server row phase := by
  cases phase with
  | queued =>
    refine ⟨?_, ?_⟩
    · rw [same, viewed]
      exact known.1
    · rcases sends with sent | unchanged
      · rw [sent]
        intro mutation pending
        cases pending
      · have flight : inFlight flush = inFlight started := by rw [inFlight, inFlight, unchanged]
        rw [unchanged, flight]
        exact known.2
  | answered answer | removes answer => simpa only [CallInOrder, same, viewed] using known
  | deleting recordIds => simpa only [CallInOrder, same, viewed] using known

theorem call_in_order_taken {server : Record} (known : CallInOrder rows started server row phase)
    (taken : waiting rows flush = [])
    (settles : (waiting rows started = [] ∨ ∃ front, waiting rows started = front ++ [row]) →
      Shows (inFlight flush) row) : CallInOrder rows flush server row phase := by
  have shown : (waiting rows started = [] ∨ ∃ front, waiting rows started = front ++ [row]) →
      Shows (view flush server) row := fun place => shows_union (settles place) server
  cases phase with
  | queued =>
    have place := known.1.elim Or.inr (fun gone => Or.inl gone.1)
    exact ⟨Or.inr ⟨taken, shown place⟩, fun _ _ _ => settles place⟩
  | answered answer => exact ⟨known.1, shown known.2.2, Or.inl taken⟩
  | removes answer => exact ⟨shown known.2, Or.inl taken⟩
  | deleting recordIds =>
    intro other member
    rw [taken] at member
    cases member

structure InOrder (initial : Record) (key : RowKey) (scope : String) (state : QueueState)
    (server : Record) : Prop where
  shape : ∀ row ∈ state.history.queued, row.op = .update ∧ row.key = key ∧
    row.scopeId = scope ∧ row.data.isSome = true
  distinct : (state.history.queued.map StoredRow.recordId).Nodup
  known : ∀ row ∈ state.rows, row ∈ state.history.queued
  handed : ∀ recordId ∈ inHand state.flush,
    recordId ∈ state.history.queued.map StoredRow.recordId
  single : unsent state.flush = [] ∨
    ∃ mutation, unsent state.flush = [mutation] ∧ mutation.op = .update ∧ mutation.key = key
  received : serverRow initial key state.history.verdicts = some server
  reflects : patch (waiting state.rows state.flush) ∪ view state.flush server =
    patch state.history.queued ∪ initial
  call : state.calls = [] ∨ ∃ row phase, state.calls = [⟨row, phase⟩] ∧
    row ∈ state.history.queued ∧ CallInOrder state.rows state.flush server row phase

theorem empty_in_order (initial : Record) (key : RowKey) (scope : String) (kind : QueueKind) :
    InOrder initial key scope (QueueState.empty kind) initial := by
  constructor <;> simp [QueueState.empty, inHand, unsent, serverRow, waiting, view, inFlight]

theorem server_row_snoc {initial : Record} {key : RowKey} {server : Record}
    (received : serverRow initial key verdicts = some server) (verdict : Verdict)
    (named : verdict.key = key) (update : verdict.op = .update)
    (acknowledged : verdict.answer = .ok ()) :
    serverRow initial key (verdicts ++ [verdict]) = some (verdict.data.getD ∅ ∪ server) := by
  unfold serverRow at received ⊢
  rw [List.foldl_append, received]
  simp [named, update, acknowledged, applyOp]

theorem only_call {state : QueueState} (calls : state.calls = [⟨row, phase⟩])
    (found : state.call? recordId = some call) :
    call = ⟨row, phase⟩ ∧ recordId = row.recordId := by
  unfold QueueState.call? at found
  rw [calls] at found
  have here := List.find?_some found
  have member := List.mem_of_find?_eq_some found
  rw [List.mem_singleton] at member
  rw [member] at here
  exact ⟨member, by simpa using (by simpa using here : row.recordId = recordId).symm⟩

variable {initial : Record} {key : RowKey} {scope : String} {state after : QueueState}
  {server : Record}

theorem found_call (ordered : InOrder initial key scope state server)
    (found : state.call? recordId = some call) :
    state.calls = [call] ∧ recordId = call.row.recordId ∧ call.row ∈ state.history.queued ∧
      CallInOrder state.rows state.flush server call.row call.phase := by
  rcases ordered.call with none | ⟨row, phase, calls, queued, known⟩
  · simp [QueueState.call?, none] at found
  · obtain ⟨same, named⟩ := only_call calls found
    rw [same]
    exact ⟨calls, named, queued, known⟩

theorem finish_only (calls : state.calls = [call]) :
    (state.finish call.row.recordId).calls = [] := by
  simp [QueueState.finish, calls]

theorem set_phase_only (calls : state.calls = [call]) (phase : CallPhase) :
    (state.setPhase call.row.recordId phase).calls = [⟨call.row, phase⟩] := by
  simp [QueueState.setPhase, calls]

section

variable (ordered : InOrder initial key scope state server)

include ordered

theorem begin_in_order
    (one : OneRowUpdates key scope state (.begin row)) (taken : state.beginCall row = some after) :
    InOrder initial key scope after server := by
  unfold QueueState.beginCall at taken
  split_ifs at taken with fresh
  cases taken
  obtain ⟨update, named, inScope, idle⟩ := one
  have free : row.recordId ∉ inHand state.flush :=
    fun handed => fresh.1 (ordered.handed _ handed)
  have grown : waiting (state.rows ++ [row]) state.flush =
      waiting state.rows state.flush ++ [row] := by
    simp [waiting, List.filter_append, free]
  refine ⟨?_, ?_, ?_, ?_, ordered.single, ordered.received, ?_, ?_⟩
  · intro other member
    rcases List.mem_append.mp member with old | new
    · exact ordered.shape other old
    · rw [List.mem_singleton.mp new]
      refine ⟨update, named, inScope, ?_⟩
      rw [fresh.2, update]
      rfl
  · simp only [History.noteQueued, List.map_append, List.map_cons, List.map_nil]
    rw [← List.concat_eq_append]
    exact ordered.distinct.concat fresh.1
  · intro other member
    rcases List.mem_append.mp member with old | new
    · exact List.mem_append_left _ (ordered.known other old)
    · exact List.mem_append_right _ new
  · intro recordId handed
    dsimp only [History.noteQueued]
    rw [List.map_append]
    exact List.mem_append_left _ (ordered.handed recordId handed)
  · dsimp only [History.noteQueued]
    rw [grown, patch_snoc, patch_snoc, ← merge_data_union, ← merge_data_union, ordered.reflects]
  · right
    refine ⟨row, .queued, by rw [idle]; rfl,
      List.mem_append_right _ (List.mem_singleton_self row), Or.inl ⟨_, grown⟩, ?_⟩
    intro mutation pending included
    exact absurd (mem_in_hand pending included) free

theorem finish_in_order (calls : state.calls = [call]) :
    InOrder initial key scope (state.finish call.row.recordId) server :=
  { ordered with call := Or.inl (finish_only calls) }

theorem return_offline_in_order (taken : state.returnOffline recordId = some after) :
    InOrder initial key scope after server := by
  unfold QueueState.returnOffline at taken
  split at taken
  · rename_i row found
    cases taken
    obtain ⟨calls, named, _⟩ := found_call ordered found
    rw [named]
    exact finish_in_order ordered calls
  · cases taken

theorem same_row
    (leftQueued : left ∈ state.history.queued) (rightQueued : right ∈ state.history.queued)
    (same : left.recordId = right.recordId) : left = right :=
  List.inj_on_of_nodup_map ordered.distinct leftQueued rightQueued same

/-- Sending the newest update directly leaves the view as it is or adds the update to it. -/
theorem send_in_order {answer : Answer}
    (acknowledged : answer = .ok ()) (keeps : KeepsOrder state (.send recordId answer))
    (taken : state.sendDirect recordId answer = some after) :
    ∃ server, InOrder initial key scope after server := by
  unfold QueueState.sendDirect at taken
  split at taken
  · rename_i row found
    cases taken
    obtain ⟨calls, named, queued, place, flight⟩ := found_call ordered found
    obtain ⟨update, rowKey, _, filled⟩ := ordered.shape row queued
    obtain ⟨data, carried⟩ := Option.isSome_iff_exists.mp filled
    have received := server_row_snoc ordered.received
      ⟨[row.recordId], row.key, row.op, row.data, answer⟩ rowKey update acknowledged
    have sent : patch (waiting state.rows state.flush) ∪ view state.flush (data ∪ server) =
        patch (waiting state.rows state.flush) ∪ view state.flush server ∧
          Shows (view state.flush (data ∪ server)) row := by
      by_cases idle : unsent state.flush = []
      · -- nothing is in flight: the update comes on top of what the server has
        have direct := view_idle idle
        rw [direct, direct, ← merge_data_some carried]
        refine ⟨?_, shows_merged server row⟩
        rcases place with ⟨front, newest⟩ | ⟨none, shown⟩
        · rw [newest, patch_snoc, merge_data_some carried, merge_data_some carried,
            union_override_again]
        · rw [direct] at shown
          rw [shown]
      · -- the unsent snapshot holds the row, so it will be sent once more
        obtain ⟨mutation, pending⟩ := List.exists_mem_of_ne_nil _ idle
        have included := keeps mutation pending
        rw [named] at included
        have shown := flight mutation pending included
        have below : view state.flush (data ∪ server) = view state.flush server := by
          apply union_shown_below
          rw [← merge_data_some carried]
          exact shown
        rw [below]
        exact ⟨rfl, shows_union shown server⟩
    refine ⟨data ∪ server, ?_⟩
    rw [named]
    refine { ordered with received := ?_, reflects := ?_, call := Or.inr ?_ }
    · have fields : row.data.getD ∅ = data := by rw [carried]; rfl
      rw [← fields]
      exact received
    · exact sent.1.trans ordered.reflects
    · refine ⟨row, .answered answer, set_phase_only calls _, queued, acknowledged, sent.2, ?_⟩
      rcases place with ⟨front, newest⟩ | ⟨none, _⟩
      · exact Or.inr ⟨front, newest⟩
      · exact Or.inl none
  · cases taken

theorem react_in_order
    (taken : state.react recordId = some after) : InOrder initial key scope after server := by
  unfold QueueState.react at taken
  split at taken
  · rename_i row answer found
    obtain ⟨calls, named, queued, acknowledged, shown, newest⟩ := found_call ordered found
    obtain ⟨update, _⟩ := ordered.shape row queued
    have removes : reaction row.op answer = .remove := by rw [update, acknowledged]; rfl
    have edit : ¬ (row.op = .insert ∧ answer ≠ .ok ()) := by simp [update]
    simp only [removes, if_neg edit, Option.some.injEq] at taken
    rw [← taken, named]
    exact { ordered with
      call := Or.inr ⟨row, .removes answer, set_phase_only calls _, queued, shown, newest⟩ }
  · cases taken

theorem same_slot_of_shape
    (leftQueued : left ∈ state.history.queued) (rightQueued : right ∈ state.history.queued) :
    sameSlot left right = true := by
  obtain ⟨leftOp, leftKey, leftScope, _⟩ := ordered.shape left leftQueued
  obtain ⟨rightOp, rightKey, rightScope, _⟩ := ordered.shape right rightQueued
  have keys : left.key = right.key := leftKey.trans rightKey.symm
  have entity : left.entity = right.entity := congrArg Prod.fst keys
  have id : left.entityId = right.entityId := congrArg Prod.snd keys
  simp [sameSlot, leftOp, rightOp, leftScope, rightScope, entity, id]

theorem remove_in_order {listed : List String} (keeps : KeepsOrder state (.remove recordId listed))
    (taken : state.removeRows recordId listed = some after) :
    InOrder initial key scope after server := by
  unfold QueueState.removeRows at taken
  split at taken
  · rename_i row answer found
    obtain ⟨calls, named, queued, shown, _⟩ := found_call ordered found
    have quiet : ∀ other ∈ waiting state.rows state.flush,
        Shows (view state.flush server) other := by
      intro other member
      obtain ⟨held, free⟩ := List.mem_filter.mp member
      rcases keeps other held with own | handed
      · rw [same_row ordered (ordered.known other held) queued (own.trans named)]
        exact shown
      · exact absurd handed (by simpa using free)
    split at taken
    · -- every queued row is in the slot, so none is left
      cases taken
      have emptied : state.rows.filter (fun other => !sameSlot row other) = [] := by
        rw [List.filter_eq_nil_iff]
        intro other member
        simp [same_slot_of_shape ordered queued (ordered.known other member)]
      have landed := (patch_shown quiet).symm.trans ordered.reflects
      rw [named, emptied]
      exact { ordered with
        known := by simp
        reflects := Finmap.empty_union.trans landed
        call := Or.inl (finish_only calls) }
    · split_ifs at taken with order
      cases taken
      rw [named]
      exact { ordered with
        call := Or.inr ⟨row, .deleting listed, set_phase_only calls _, queued, quiet⟩ }
  · cases taken

theorem delete_listed_in_order
    (succeeds : deleted = true) (taken : state.deleteListed recordId deleted = some after) :
    InOrder initial key scope after server := by
  unfold QueueState.deleteListed at taken
  split at taken
  · rename_i row found
    cases taken
    obtain ⟨calls, named, _⟩ := found_call ordered found
    rw [named]
    exact finish_in_order ordered calls
  · rename_i row first rest found
    obtain ⟨calls, named, queued, quiet⟩ := found_call ordered found
    cases taken
    rw [succeeds, named]
    have fewer : ∀ other ∈ waiting (state.rows.filter (fun row => row.recordId ≠ first))
        state.flush, Shows (view state.flush server) other := by
      intro other member
      obtain ⟨held, free⟩ := List.mem_filter.mp member
      exact quiet other (List.mem_filter.mpr ⟨List.mem_of_mem_filter held, free⟩)
    refine { ordered with known := ?_, reflects := ?_, call := Or.inr ?_ }
    · intro other member
      exact ordered.known other (List.mem_of_mem_filter member)
    · exact (patch_shown fewer).trans ((patch_shown quiet).symm.trans ordered.reflects)
    · exact ⟨row, .deleting rest, set_phase_only calls _, queued, fewer⟩
  · cases taken

omit ordered in
theorem insertion_sort_ne_nil (nonempty : rows ≠ []) :
    rows.insertionSort CreatedBefore ≠ [] := by
  intro empty
  have length := List.length_insertionSort CreatedBefore rows
  rw [empty] at length
  exact nonempty (List.length_eq_zero_iff.mp length.symm)

/-- A snapshot that sorts into the order of the queue is sent as one update with the fields
of the queued rows. -/
theorem snapshot_mutation (visits : Visits order (groupRows listed))
    (sorted : listed.insertionSort CreatedBefore = state.rows) (nonempty : listed ≠ []) :
    ∃ mutation, consolidate order listed = [mutation] ∧ mutation.op = .update ∧
      mutation.key = key ∧ mutation.recordIds = state.rows.map StoredRow.recordId ∧
      mutation.data.getD ∅ = patch state.rows := by
  have held : ∀ row ∈ listed, row ∈ state.rows := by
    intro row member
    rw [← sorted, List.mem_insertionSort]
    exact member
  have named : ∀ row ∈ listed, row.key = key :=
    fun row member => (ordered.shape row (ordered.known row (held row member))).2.1
  have updates : ∀ row ∈ state.rows, row.op = .update :=
    fun row member => (ordered.shape row (ordered.known row member)).1
  rw [consolidate_one_key visits named]
  have change := consolidated_updates updates
  cases group : consolidateGroup listed with
  | none =>
    unfold consolidateGroup at group
    split at group
    · rename_i empty
      exact absurd empty (insertion_sort_ne_nil nonempty)
    · cases group
  | some mutation =>
    refine ⟨mutation, rfl, ?_⟩
    have mutationKey := consolidate_group_key named group
    unfold consolidateGroup at group
    split at group
    · cases group
    · rename_i first rest split
      rw [sorted] at split
      rw [split] at change ⊢
      cases group
      refine ⟨by rw [change], mutationKey, rfl, ?_⟩
      rw [change]
      split_ifs with empty
      · exact empty.symm
      · rfl

theorem begin_flush_in_order (keeps : KeepsOrder state (.beginFlush listed order))
    (taken : state.beginFlush listed order = some after) :
    InOrder initial key scope after server := by
  unfold QueueState.beginFlush at taken
  split_ifs at taken with ready empty
  · cases taken
    exact ordered
  · cases taken
    obtain ⟨idle, lists, visits⟩ := ready
    obtain ⟨mutation, made, update, named, rowIds, data⟩ :=
      snapshot_mutation ordered visits keeps empty
    rw [made]
    have filled : state.rows ≠ [] := by
      rw [← show listed.insertionSort CreatedBefore = state.rows from keeps]
      exact insertion_sort_ne_nil empty
    have rowsBefore : waiting state.rows state.flush = state.rows := by
      simp [waiting, inHand, idle]
    have viewBefore : view state.flush server = server := by
      apply view_idle
      rw [idle]
      rfl
    have flight : inFlight (some ⟨[mutation], []⟩) = patch state.rows := by
      rw [in_flight_single rfl, data]
    have none : waiting state.rows (some ⟨[mutation], []⟩) = [] := by
      unfold waiting
      rw [List.filter_eq_nil_iff]
      intro row member
      simp only [inHand, List.flatMap_cons, List.flatMap_nil, List.append_nil, List.nil_append,
        rowIds, decide_not, Bool.not_eq_eq_eq_not, Bool.not_true, decide_eq_false_iff_not,
        not_not]
      exact List.mem_map_of_mem member
    have reflects := ordered.reflects
    rw [rowsBefore, viewBefore] at reflects
    have shown : ∀ row, (∃ front, state.rows = front ++ [row]) → Shows (patch state.rows) row := by
      intro row newest
      obtain ⟨front, rows⟩ := newest
      rw [rows, patch_snoc]
      exact shows_merged (patch front) row
    refine { ordered with handed := ?_, single := ?_, reflects := ?_, call := ?_ }
    · intro recordId handed
      simp only [inHand, List.flatMap_cons, List.flatMap_nil, List.append_nil, List.nil_append,
        rowIds] at handed
      obtain ⟨row, member, same⟩ := List.mem_map.mp handed
      rw [← same]
      exact List.mem_map_of_mem (ordered.known row member)
    · exact Or.inr ⟨mutation, rfl, update, named⟩
    · rw [none, view, flight, reflects]
      exact Finmap.empty_union
    · rcases ordered.call with none | ⟨row, phase, calls, queued, known⟩
      · exact Or.inl none
      · refine Or.inr ⟨row, phase, calls, queued, ?_⟩
        -- before the snapshot the call's row was the newest one, so the snapshot shows it
        apply call_in_order_taken known none
        intro place
        rw [rowsBefore] at place
        rw [flight]
        exact shown row (place.resolve_left filled)

theorem in_order_of_same_waiting (fewer : ∀ row ∈ rows, row ∈ state.rows)
    (less : ∀ recordId ∈ inHand flush, recordId ∈ inHand state.flush)
    (same : waiting rows flush = waiting state.rows state.flush)
    (sends : unsent flush = unsent state.flush) :
    InOrder initial key scope { state with rows := rows, flush := flush } server := by
  have flight : inFlight flush = inFlight state.flush := by rw [inFlight, inFlight, sends]
  have viewed : view flush server = view state.flush server := by rw [view, view, flight]
  refine { ordered with known := ?_, handed := ?_, single := ?_, reflects := ?_, call := ?_ }
  · intro row member
    exact ordered.known row (fewer row member)
  · intro recordId handed
    exact ordered.handed recordId (less recordId handed)
  · rw [sends]
    exact ordered.single
  · rw [same, viewed]
    exact ordered.reflects
  · rcases ordered.call with none | ⟨row, phase, calls, queued, known⟩
    · exact Or.inl none
    · refine Or.inr ⟨row, phase, calls, queued, ?_⟩
      exact call_in_order_congr known same viewed (Or.inr sends)

omit ordered in
theorem flushed_server_row (received : serverRow initial key verdicts = some server)
    (named : mutation.key = key) (update : mutation.op = .update)
    (acknowledged : answers.attempt = .ok ()) :
    serverRow initial key (verdicts ++ flushVerdicts root mutation answers) =
      some (mutation.data.getD ∅ ∪ server) := by
  unfold flushVerdicts
  split_ifs with sent
  · have replies : resentVerdict root mutation answers = [] := by
      simp [resentVerdict, acknowledged]
    rw [replies]
    exact server_row_snoc received
      (verdictOn mutation mutation.op mutation.data answers.attempt) named update acknowledged
  · -- a mutation without data is not sent, and has nothing to add
    have absent : mutation.data = none := by
      simpa [sends, update] using sent
    rw [List.append_nil, absent, Option.getD_none, Finmap.empty_union]
    exact received

theorem send_flush_in_order
    (acknowledged : answers.attempt = .ok ()) (taken : state.sendFlush root answers = some after) :
    ∃ server, InOrder initial key scope after server := by
  unfold QueueState.sendFlush at taken
  split at taken
  · rename_i mutation rest toRemove running
    have outcome : flushOutcome root mutation answers = .drop := by
      unfold flushOutcome
      rw [acknowledged]
      exact ite_self FlushOutcome.drop
    have dropped : flushOutcome root mutation answers ≠ .keep := by
      rw [outcome]
      decide
    by_cases waits : state.kind = .persistent ∧ toRemove ≠ []
    · rw [if_pos waits] at taken
      cases taken
    · rw [if_neg waits, if_neg dropped] at taken
      cases taken
      have only : rest = [] ∧ mutation.op = .update ∧ mutation.key = key := by
        have single := ordered.single
        rw [running] at single
        rcases single with none | ⟨other, one, update, named⟩
        · cases none
        · obtain ⟨here, later⟩ := List.cons.inj one
          rw [here]
          exact ⟨later, update, named⟩
      obtain ⟨last, update, named⟩ := only
      subst last
      refine ⟨mutation.data.getD ∅ ∪ server, ?_⟩
      have hand : inHand (some ⟨[], toRemove ++ mutation.recordIds⟩) = inHand state.flush := by
        simp [running, inHand]
      have same : waiting state.rows (some ⟨[], toRemove ++ mutation.recordIds⟩) =
          waiting state.rows state.flush := by rw [waiting, waiting, hand]
      have viewed : view (some ⟨[], toRemove ++ mutation.recordIds⟩)
          (mutation.data.getD ∅ ∪ server) = view state.flush server := by
        have single : unsent state.flush = [mutation] := by
          rw [running]
          rfl
        rw [view_idle rfl, view, in_flight_single single]
      obtain ⟨kept, noted⟩ := after_flushed_queued state.history root mutation answers
      refine ⟨kept ▸ ordered.shape, kept ▸ ordered.distinct, kept ▸ ordered.known, ?_, Or.inl rfl,
        noted ▸ flushed_server_row ordered.received named update acknowledged, ?_, ?_⟩
      · intro recordId handed
        rw [hand] at handed
        rw [kept]
        exact ordered.handed recordId handed
      · rw [same, viewed, kept]
        exact ordered.reflects
      · rcases ordered.call with none | ⟨row, phase, calls, queued, known⟩
        · exact Or.inl none
        · refine Or.inr ⟨row, phase, calls, kept ▸ queued, ?_⟩
          exact call_in_order_congr known same viewed (Or.inl rfl)
  · cases taken

theorem delete_flushed_in_order
    (succeeds : deleted = true) (taken : state.deleteFlushed deleted = some after) :
    InOrder initial key scope after server := by
  unfold QueueState.deleteFlushed at taken
  split at taken
  · rename_i toSend first rest _ running
    cases taken
    rw [succeeds]
    apply in_order_of_same_waiting ordered
    · intro row member
      exact List.mem_of_mem_filter member
    · intro recordId handed
      rw [running]
      exact List.mem_cons_of_mem _ handed
    · have rows : (state.deleteRow first true).rows =
          state.rows.filter (fun row => row.recordId ≠ first) := rfl
      rw [running, waiting, waiting, rows, List.filter_filter]
      apply List.filter_congr
      intro row _
      by_cases here : row.recordId = first
      · simp [inHand, here]
      · simp [inHand, here]
    · rw [running]
      rfl
  · cases taken

theorem end_flush_in_order
    (taken : state.endFlush = some after) : InOrder initial key scope after server := by
  unfold QueueState.endFlush at taken
  split at taken
  · rename_i _ running
    cases taken
    apply in_order_of_same_waiting ordered (fun _ => id)
    · simp [inHand]
    · simp [running, waiting, inHand]
    · simp [running, unsent]
  · rename_i toRemove _ running
    cases taken
    apply in_order_of_same_waiting ordered
    · intro row member
      exact List.mem_of_mem_filter member
    · simp [inHand]
    · simp [running, waiting, inHand]
    · simp [running, unsent]
  · cases taken

end

theorem step_in_order {action : Action} (ordered : ∃ server, InOrder initial key scope state server)
    (allowed : OneRowUpdates key scope state action ∧ KeepsOrder state action)
    (taken : state.step root action = some after) :
    ∃ server, InOrder initial key scope after server := by
  obtain ⟨server, ordered⟩ := ordered
  obtain ⟨one, keeps⟩ := allowed
  cases action with
  | begin row => exact ⟨server, begin_in_order ordered one taken⟩
  | returnOffline recordId => exact ⟨server, return_offline_in_order ordered taken⟩
  | send recordId answer => exact send_in_order ordered one keeps taken
  | react recordId => exact ⟨server, react_in_order ordered taken⟩
  | remove recordId listed => exact ⟨server, remove_in_order ordered keeps taken⟩
  | removeFails recordId => exact one.elim
  | deleteListed recordId deleted => exact ⟨server, delete_listed_in_order ordered one taken⟩
  | beginFlush listed order => exact ⟨server, begin_flush_in_order ordered keeps taken⟩
  | sendFlush answers => exact send_flush_in_order ordered one taken
  | deleteFlushed deleted => exact ⟨server, delete_flushed_in_order ordered one taken⟩
  | endFlush => exact ⟨server, end_flush_in_order ordered taken⟩

/-- In every run of updates of one row in which no flush gets between them, once nothing is
left to send, each field of the server row holds the value of the last call that set it. -/
theorem last_update_wins (root : String) (kind : QueueKind) (key : RowKey) (scope : String)
    (initial : Record) (state : QueueState)
    (run : Reaches (QueueState.step root)
      (fun state action => OneRowUpdates key scope state action ∧ KeepsOrder state action)
      (QueueState.empty kind) state)
    (flushed : state.flush = none) (emptied : state.rows = []) (field : String) :
    (serverRow initial key state.history.verdicts).bind (fun row => row.lookup field) =
      (lastSet state.history.queued field).or (initial.lookup field) := by
  have ordered : ∃ server, InOrder initial key scope state server := by
    apply reaches_invariant (fun state => ∃ server, InOrder initial key scope state server) _ _ run
    · exact ⟨initial, empty_in_order initial key scope kind⟩
    · intro before action after ordered allowed taken
      exact step_in_order ordered allowed taken
  obtain ⟨server, ordered⟩ := ordered
  have reflects := ordered.reflects
  rw [emptied, flushed] at reflects
  have landed : server = patch state.history.queued ∪ initial := by
    rw [view_idle rfl] at reflects
    exact Finmap.empty_union.symm.trans reflects
  rw [ordered.received, Option.bind_some, landed, patch_lookup]

def fieldUpdate (recordId field : String) (value createdAt : Nat) : StoredRow :=
  ⟨recordId, .update, "task", "t1", "p1", some (Finmap.singleton field (.number value)), createdAt⟩

def flushedThenDirect : List Action :=
  [.begin (fieldUpdate "a" "done" 1 1), .returnOffline "a",
    .beginFlush [fieldUpdate "a" "done" 1 1] [("task", "t1")],
    .sendFlush ⟨.ok (), .ok none, .ok ()⟩, .deleteFlushed true, .endFlush,
    .begin (fieldUpdate "b" "done" 2 2), .send "b" (.ok ()), .react "b", .remove "b" ["b"],
    .deleteListed "b" true, .deleteListed "b" true]

theorem direct_update_after_flush_wins :
    ∃ state, replay (QueueState.step "project")
        (fun state action => OneRowUpdates ("task", "t1") "p1" state action ∧
          KeepsOrder state action)
        (QueueState.empty .persistent) flushedThenDirect = some state ∧
      (serverRow ∅ ("task", "t1") state.history.verdicts).bind (fun row => row.lookup "done") =
        some (.number 2) := by
  refine ⟨(replay (QueueState.step "project")
    (fun state action => OneRowUpdates ("task", "t1") "p1" state action ∧
      KeepsOrder state action)
    (QueueState.empty .persistent) flushedThenDirect).get (by decide), by decide, ?_⟩
  rw [last_update_wins "project" .persistent ("task", "t1") "p1" ∅ _
    (reaches_of_replay .start (Option.some_get _).symm) (by decide) (by decide) "done"]
  decide

/-- A flush takes its snapshot of the first update; the second update is sent directly and
acknowledged before the flush sends. -/
def directDuringFlush : List Action :=
  [.begin (fieldUpdate "a" "done" 1 1), .returnOffline "a",
    .beginFlush [fieldUpdate "a" "done" 1 1] [("task", "t1")],
    .begin (fieldUpdate "b" "done" 2 2), .send "b" (.ok ()), .react "b", .remove "b" ["a", "b"],
    .sendFlush ⟨.ok (), .ok none, .ok ()⟩, .endFlush]

/-- The flush writes the value of the first update over that of the second. -/
theorem flush_overwrites_direct_update :
    ∃ state, replay (QueueState.step "project") (OneRowUpdates ("task", "t1") "p1")
        (QueueState.empty .inMemory) directDuringFlush = some state ∧
      state.calls = [] ∧ state.flush = none ∧ state.rows = [] ∧
      lastSet state.history.queued "done" = some (.number 2) ∧
      (serverRow ∅ ("task", "t1") state.history.verdicts).bind (fun row => row.lookup "done") =
        some (.number 1) := by
  refine ⟨(replay (QueueState.step "project") (OneRowUpdates ("task", "t1") "p1")
    (QueueState.empty .inMemory) directDuringFlush).get (by decide), by decide⟩

end Stitch.Client.UpdateOrder
