import Stitch.Client.WritePath

/-!
# Waking the flush loop

The flush loop flushes until nothing is retained and then waits for the next notification;
`on_connected` flushes as well. Only one flush runs at a time: a second caller is told that
nothing was retained. The notification stores at most one permit.
-/

namespace Stitch.Client.FlushWakeup

open Foundation.GuardedRuns Consolidation WritePath

/-- Where `flush_loop` is: waiting for a notification, about to call `flush`, listing the
rows under the flush guard, sending them, or sleeping before the next round. -/
inductive LoopPhase where
  | waiting
  | checking
  | listing
  | flushing
  | sleeping
  deriving DecidableEq

/-- Where `on_connected` is: not running, before its flush, in it, or after it. -/
inductive ConnectPhase where
  | idle
  | validating
  | listing
  | flushing
  | syncing
  deriving DecidableEq

structure Runtime where
  queue : QueueState
  failed : List String
  permit : Bool
  loop : LoopPhase
  connect : ConnectPhase
  retained : Nat
  deriving DecidableEq

def Runtime.start (kind : QueueKind) : Runtime :=
  ⟨QueueState.empty kind, [], false, .waiting, .idle, 0⟩

def Runtime.guardHeld (runtime : Runtime) : Bool :=
  runtime.loop == .listing || runtime.loop == .flushing ||
    runtime.connect == .listing || runtime.connect == .flushing

def isCallStep : Action → Bool
  | .beginFlush _ _ => false
  | .sendFlush _ => false
  | .deleteFlushed _ => false
  | .endFlush => false
  | _ => true

def reactionOf (queue : QueueState) : Action → Option (StoredRow × Reaction)
  | .react recordId =>
    match queue.call? recordId with
    | some ⟨row, .answered answer⟩ => some (row, reaction row.op answer)
    | _ => none
  | _ => none

def notifies (queue : QueueState) (action : Action) : Bool :=
  match reactionOf queue action with
  | some (_, .notify) => true
  | some (row, .removeUnlessInserting) => hasPendingInsert queue.rows row.key
  | _ => false

def newlyFailed (queue : QueueState) (action : Action) : List String :=
  match reactionOf queue action with
  | some (row, .notify) => [row.recordId]
  | _ => []

def Runtime.write (root : String) (runtime : Runtime) (action : Action) : Option Runtime :=
  if isCallStep action then
    (runtime.queue.step root action).map (fun queue =>
      { runtime with
        queue := queue
        permit := runtime.permit || notifies runtime.queue action
        failed := newlyFailed runtime.queue action ++ runtime.failed })
  else none

/-- The snapshot of a flush: an empty queue ends it at once. -/
def Runtime.list (runtime : Runtime) (listed : List StoredRow) (order : List RowKey)
    (ended begun : Runtime → Runtime) : Option Runtime :=
  (runtime.queue.beginFlush listed order).map (fun queue =>
    if queue.flush = none then ended { runtime with queue := queue, retained := 0 }
    else begun { runtime with queue := queue, retained := 0 })

def Runtime.sendNext (root : String) (runtime : Runtime) (answers : FlushAnswers) :
    Option Runtime :=
  match runtime.queue.flush with
  | some ⟨mutation :: _, _⟩ =>
    (runtime.queue.sendFlush root answers).map (fun queue =>
      { runtime with
        queue := queue
        retained := runtime.retained +
          (if flushOutcome root mutation answers = .keep then 1 else 0) })
  | _ => none

inductive Event where
  | write (action : Action)
  | wake
  | loopBusy
  | loopAcquire
  | loopList (listed : List StoredRow) (order : List RowKey)
  | loopListFails
  | loopEnd
  | loopRetry
  | connected
  | connectBusy
  | connectAcquire
  | connectList (listed : List StoredRow) (order : List RowKey)
  | connectListFails
  | connectEnd
  | connectDone
  | send (answers : FlushAnswers)
  | delete (deleted : Bool)
  deriving DecidableEq

def Runtime.step (root : String) (runtime : Runtime) : Event → Option Runtime
  | .write action => runtime.write root action
  | .wake =>
    if runtime.loop = .waiting ∧ runtime.permit = true then
      some { runtime with loop := .checking, permit := false }
    else none
  | .loopBusy =>
    -- the guard is held: `flush` returns an empty summary, so nothing counts as retained
    if runtime.loop = .checking ∧ runtime.guardHeld = true then
      some { runtime with loop := .waiting }
    else none
  | .loopAcquire =>
    if runtime.loop = .checking ∧ runtime.guardHeld = false then
      some { runtime with loop := .listing }
    else none
  | .loopList listed order =>
    if runtime.loop = .listing then
      runtime.list listed order (fun ended => { ended with loop := .waiting })
        (fun begun => { begun with loop := .flushing })
    else none
  | .loopListFails =>
    if runtime.loop = .listing ∧ runtime.queue.kind = .persistent then
      some { runtime with loop := .waiting }
    else none
  | .loopEnd =>
    if runtime.loop = .flushing then
      runtime.queue.endFlush.map (fun queue =>
        { runtime with
          queue := queue
          loop := if runtime.retained = 0 then .waiting else .sleeping })
    else none
  | .loopRetry =>
    if runtime.loop = .sleeping then some { runtime with loop := .checking } else none
  | .connected =>
    if runtime.connect = .idle then some { runtime with connect := .validating } else none
  | .connectBusy =>
    if runtime.connect = .validating ∧ runtime.guardHeld = true then
      some { runtime with connect := .syncing }
    else none
  | .connectAcquire =>
    if runtime.connect = .validating ∧ runtime.guardHeld = false then
      some { runtime with connect := .listing }
    else none
  | .connectList listed order =>
    if runtime.connect = .listing then
      runtime.list listed order (fun ended => { ended with connect := .syncing })
        (fun begun => { begun with connect := .flushing })
    else none
  | .connectListFails =>
    if runtime.connect = .listing ∧ runtime.queue.kind = .persistent then
      some { runtime with connect := .syncing }
    else none
  | .connectEnd =>
    if runtime.connect = .flushing then
      runtime.queue.endFlush.map (fun queue =>
        { runtime with
          queue := queue
          connect := .syncing
          permit := runtime.permit || decide (0 < runtime.retained) })
    else none
  | .connectDone =>
    if runtime.connect = .syncing then some { runtime with connect := .idle } else none
  | .send answers => runtime.sendNext root answers
  | .delete deleted =>
    (runtime.queue.deleteFlushed deleted).map (fun queue => { runtime with queue := queue })

/-- A row whose direct send failed transiently is queued, no flush and no `on_connected` is
running, and the loop waits without a permit. -/
def Runtime.Stranded (runtime : Runtime) : Prop :=
  (∃ row ∈ runtime.queue.rows, row.recordId ∈ runtime.failed) ∧ runtime.guardHeld = false ∧
    runtime.connect = .idle ∧ runtime.loop = .waiting ∧ runtime.permit = false

instance (runtime : Runtime) : Decidable runtime.Stranded :=
  inferInstanceAs (Decidable (_ ∧ _ ∧ _ ∧ _ ∧ _))

/-- The loop finds the flush guard free and the queue readable, and the rows a flush has
settled are deleted. -/
def Undisturbed (_ : Runtime) : Event → Prop
  | .loopBusy => False
  | .loopListFails => False
  | .delete deleted => deleted = true
  | _ => True

instance (runtime : Runtime) (event : Event) : Decidable (Undisturbed runtime event) := by
  cases event <;> dsimp only [Undisturbed] <;> infer_instance

structure CallFrame (before after : QueueState) : Prop where
  flush : after.flush = before.flush
  rows : ∀ row ∈ after.rows, row ∈ before.rows ∨
    row.recordId ∉ before.history.queued.map StoredRow.recordId
  queued : ∀ row ∈ before.history.queued, row ∈ after.history.queued
  calls : (∀ call ∈ before.calls, call.row ∈ before.history.queued) →
    ∀ call ∈ after.calls, call.row ∈ after.history.queued

theorem frame_set_phase (state : QueueState) (recordId : String) (phase : CallPhase)
    (history : History) (same : history.queued = state.history.queued) :
    CallFrame state { state.setPhase recordId phase with history := history } := by
  refine ⟨rfl, fun _ => Or.inl, ?_, ?_⟩
  · intro row queued
    rw [same]
    exact queued
  · intro known call member
    obtain ⟨old, oldMember, changed⟩ := List.mem_map.mp member
    rw [same, ← changed]
    split_ifs
    · exact known old oldMember
    · exact known old oldMember

theorem frame_finish (state : QueueState) (recordId : String) (rows : List StoredRow)
    (fewer : ∀ row ∈ rows, row ∈ state.rows) :
    CallFrame state { state.finish recordId with rows := rows } := by
  refine ⟨rfl, fun row member => Or.inl (fewer row member), fun _ => id, ?_⟩
  intro known call member
  exact known call (List.mem_of_mem_filter member)

variable {state after queue : QueueState} {recordId root : String} {listed : List StoredRow}
  {action : Action} {runtime : Runtime} {order : List RowKey} {answers : FlushAnswers}

theorem frame_begin {row : StoredRow} (taken : state.beginCall row = some after) :
    CallFrame state after := by
  unfold QueueState.beginCall at taken
  split_ifs at taken with fresh
  cases taken
  refine ⟨rfl, ?_, fun _ => List.mem_append_left _, ?_⟩
  · intro other member
    rcases List.mem_append.mp member with old | new
    · exact Or.inl old
    · rw [List.mem_singleton.mp new]
      exact Or.inr fresh.1
  · intro known call member
    rcases List.mem_append.mp member with old | new
    · exact List.mem_append_left _ (known call old)
    · rw [List.mem_singleton.mp new]
      exact List.mem_append_right _ (List.mem_singleton_self row)

theorem frame_react (taken : state.react recordId = some after) : CallFrame state after := by
  unfold QueueState.react at taken
  split at taken
  · split at taken
    · split_ifs at taken
      · cases taken
        exact frame_set_phase state recordId _ _ rfl
      · cases taken
        exact frame_set_phase state recordId _ state.history rfl
    · split_ifs at taken
      · cases taken
        exact frame_finish state recordId state.rows (fun _ => id)
      · cases taken
        exact frame_set_phase state recordId _ _ rfl
    · cases taken
      exact frame_finish state recordId state.rows (fun _ => id)
    · cases taken
      exact frame_finish state recordId state.rows (fun _ => id)
  · cases taken

theorem frame_remove {listed : List String}
    (taken : state.removeRows recordId listed = some after) : CallFrame state after := by
  unfold QueueState.removeRows at taken
  split at taken
  · split at taken
    · cases taken
      exact frame_finish state recordId _ (fun _ => List.mem_of_mem_filter)
    · split_ifs at taken
      cases taken
      exact frame_set_phase state recordId _ state.history rfl
  · cases taken

theorem frame_delete_listed {deleted : Bool}
    (taken : state.deleteListed recordId deleted = some after) : CallFrame state after := by
  unfold QueueState.deleteListed at taken
  split at taken
  · cases taken
    exact frame_finish state recordId state.rows (fun _ => id)
  · rename_i first rest found
    cases taken
    have moved := frame_set_phase state recordId (.deleting rest) state.history rfl
    cases deleted with
    | false => exact moved
    | true =>
      refine ⟨moved.flush, ?_, moved.queued, moved.calls⟩
      intro row member
      exact Or.inl (List.mem_of_mem_filter member)
  · cases taken

theorem call_step_frame (call : isCallStep action = true)
    (taken : state.step root action = some after) :
    CallFrame state after := by
  cases action with
  | begin row => exact frame_begin taken
  | returnOffline recordId =>
    simp only [QueueState.step, QueueState.returnOffline] at taken
    split at taken
    · cases taken
      exact frame_finish state recordId state.rows (fun _ => id)
    · cases taken
  | send recordId answer =>
    simp only [QueueState.step, QueueState.sendDirect] at taken
    split at taken
    · cases taken
      exact frame_set_phase state recordId _ _ rfl
    · cases taken
  | react recordId => exact frame_react taken
  | remove recordId listed => exact frame_remove taken
  | removeFails recordId =>
    simp only [QueueState.step, QueueState.removeFails] at taken
    split at taken
    · split_ifs at taken
      cases taken
      exact frame_finish state recordId state.rows (fun _ => id)
    · cases taken
  | deleteListed recordId deleted => exact frame_delete_listed taken
  | beginFlush listed order | sendFlush answers | deleteFlushed deleted | endFlush => cases call

/-- The loop has a permit, is about to flush, or its flush has the row in hand or has retained
something. -/
def Attended (runtime : Runtime) (recordId : String) : Prop :=
  runtime.permit = true ∨ runtime.loop = .checking ∨ runtime.loop = .listing ∨
    runtime.loop = .sleeping ∨
    runtime.loop = .flushing ∧ (0 < runtime.retained ∨ recordId ∈ inHand runtime.queue.flush)

structure Awake (runtime : Runtime) : Prop where
  known : ∀ recordId ∈ runtime.failed,
    recordId ∈ runtime.queue.history.queued.map StoredRow.recordId
  calls : ∀ call ∈ runtime.queue.calls, call.row ∈ runtime.queue.history.queued
  exclusive : runtime.loop = .listing ∨ runtime.loop = .flushing →
    runtime.connect ≠ .listing ∧ runtime.connect ≠ .flushing
  attended : ∀ row ∈ runtime.queue.rows, row.recordId ∈ runtime.failed →
    Attended runtime row.recordId

theorem start_awake (kind : QueueKind) : Awake (Runtime.start kind) := by
  constructor <;> simp [Runtime.start, QueueState.empty]

theorem newly_failed_notifies (member : recordId ∈ newlyFailed queue action) :
    notifies queue action = true ∧ ∃ call ∈ queue.calls, call.row.recordId = recordId := by
  unfold newlyFailed at member
  split at member
  · rename_i row reacted
    refine ⟨by simp [notifies, reacted], ?_⟩
    unfold reactionOf at reacted
    split at reacted
    · split at reacted
      · rename_i other answer found
        obtain ⟨same, _⟩ := Prod.mk.inj (Option.some.inj reacted)
        rw [List.mem_singleton.mp member, ← same]
        exact ⟨_, List.mem_of_find?_eq_some found, rfl⟩
      · cases reacted
    · cases reacted
  · cases member

theorem write_awake {after : Runtime} (awake : Awake runtime)
    (taken : runtime.write root action = some after) : Awake after := by
  unfold Runtime.write at taken
  split_ifs at taken with call
  obtain ⟨queue, stepped, built⟩ := Option.map_eq_some_iff.mp taken
  have frame := call_step_frame call stepped
  have grown : ∀ recordId ∈ runtime.queue.history.queued.map StoredRow.recordId,
      recordId ∈ queue.history.queued.map StoredRow.recordId := by
    intro recordId member
    obtain ⟨row, queued, same⟩ := List.mem_map.mp member
    exact List.mem_map.mpr ⟨row, frame.queued row queued, same⟩
  rw [← built]
  refine ⟨?_, frame.calls awake.calls, awake.exclusive, ?_⟩
  · intro recordId member
    rcases List.mem_append.mp member with new | old
    · obtain ⟨_, caller, calling, same⟩ := newly_failed_notifies new
      exact grown recordId (List.mem_map.mpr ⟨caller.row, awake.calls caller calling, same⟩)
    · exact grown recordId (awake.known recordId old)
  · intro row member failed
    rcases List.mem_append.mp failed with new | old
    · left
      simp [(newly_failed_notifies new).1]
    · rcases frame.rows row member with held | fresh
      · -- a row that had failed before is attended as it was
        rcases awake.attended row held old with permit | checking | listing | sleeping | flushing
        · left
          simp [permit]
        · exact Or.inr (Or.inl checking)
        · exact Or.inr (Or.inr (Or.inl listing))
        · exact Or.inr (Or.inr (Or.inr (Or.inl sleeping)))
        · refine Or.inr (Or.inr (Or.inr (Or.inr ⟨flushing.1, ?_⟩)))
          rw [frame.flush]
          exact flushing.2
      · exact absurd (awake.known row.recordId old) fresh

theorem begin_flush_cases (taken : state.beginFlush listed order = some after) :
    after.rows = state.rows ∧ after.calls = state.calls ∧ after.history = state.history ∧
      (after.flush = none → state.rows = []) ∧
      ∀ row ∈ state.rows, row.recordId ∈ inHand after.flush := by
  unfold QueueState.beginFlush at taken
  split_ifs at taken with ready empty
  · cases taken
    have emptied : state.rows = [] := by
      rw [List.eq_nil_iff_forall_not_mem]
      intro row held
      have member := (lists_mem_iff ready.2.1 row).mpr held
      rw [empty] at member
      cases member
    refine ⟨rfl, rfl, rfl, fun _ => emptied, ?_⟩
    rw [emptied]
    intro row member
    cases member
  · cases taken
    refine ⟨rfl, rfl, rfl, ?_, ?_⟩
    · intro none
      cases none
    · intro row member
      obtain ⟨mutation, pending, included⟩ :=
        consolidate_covers ready.2.2 ((lists_mem_iff ready.2.1 row).mpr member)
      apply mem_in_hand _ included
      exact pending

theorem send_flush_cases {mutation : ConsolidatedMutation} {rest : List ConsolidatedMutation}
    {toRemove : List String} (running : state.flush = some ⟨mutation :: rest, toRemove⟩)
    (taken : state.sendFlush root answers = some after) :
    after.rows = state.rows ∧ after.calls = state.calls ∧
      after.history.queued = state.history.queued ∧
      ∀ recordId ∈ inHand state.flush,
        recordId ∈ inHand after.flush ∨ flushOutcome root mutation answers = .keep := by
  unfold QueueState.sendFlush at taken
  rw [running] at taken
  dsimp only at taken
  have queued := (after_flushed_queued state.history root mutation answers).1
  split_ifs at taken with waits kept
  · cases taken
    exact ⟨rfl, rfl, queued, fun _ _ => Or.inr kept⟩
  · cases taken
    refine ⟨rfl, rfl, queued, ?_⟩
    intro recordId member
    left
    rw [running] at member
    simpa [inHand] using member

theorem delete_flushed_cases (taken : state.deleteFlushed true = some after) :
    after.calls = state.calls ∧ after.history = state.history ∧
      ∀ row ∈ after.rows, row ∈ state.rows ∧
        (row.recordId ∈ inHand state.flush → row.recordId ∈ inHand after.flush) := by
  unfold QueueState.deleteFlushed at taken
  split at taken
  · rename_i toSend first rest _ running
    cases taken
    refine ⟨rfl, rfl, ?_⟩
    intro row member
    obtain ⟨held, other⟩ := List.mem_filter.mp member
    refine ⟨held, ?_⟩
    rw [running]
    intro handed
    rcases List.mem_cons.mp handed with here | later
    · exact absurd here (by simpa using other)
    · exact later
  · cases taken

theorem end_flush_cases (taken : state.endFlush = some after) :
    after.calls = state.calls ∧ after.history = state.history ∧
      ∀ row ∈ after.rows, row ∈ state.rows ∧ row.recordId ∉ inHand state.flush := by
  unfold QueueState.endFlush at taken
  split at taken
  · rename_i _ running
    cases taken
    refine ⟨rfl, rfl, ?_⟩
    intro row member
    rw [running]
    exact ⟨member, by simp [inHand]⟩
  · rename_i toRemove _ running
    cases taken
    refine ⟨rfl, rfl, ?_⟩
    intro row member
    obtain ⟨held, kept⟩ := List.mem_filter.mp member
    rw [running]
    exact ⟨held, by simpa [inHand] using kept⟩
  · cases taken

theorem guard_free (free : runtime.guardHeld = false) :
    (runtime.loop ≠ .listing ∧ runtime.loop ≠ .flushing) ∧
      runtime.connect ≠ .listing ∧ runtime.connect ≠ .flushing := by
  simpa [Runtime.guardHeld, and_assoc] using free

theorem loop_outside (awake : Awake runtime)
    (connecting : runtime.connect = .listing ∨ runtime.connect = .flushing) :
    runtime.loop ≠ .listing ∧ runtime.loop ≠ .flushing := by
  refine ⟨?_, ?_⟩
  · intro listing
    rcases connecting with here | here
    · exact (awake.exclusive (Or.inl listing)).1 here
    · exact (awake.exclusive (Or.inl listing)).2 here
  · intro flushing
    rcases connecting with here | here
    · exact (awake.exclusive (Or.inr flushing)).1 here
    · exact (awake.exclusive (Or.inr flushing)).2 here

theorem attended_elsewhere {after : Runtime} (attended : Attended runtime recordId)
    (outside : runtime.loop ≠ .flushing) (loop : after.loop = runtime.loop)
    (permit : runtime.permit = true → after.permit = true) :
    Attended after recordId := by
  rcases attended with stored | checking | listing | sleeping | flushing
  · exact Or.inl (permit stored)
  · exact Or.inr (Or.inl (loop.trans checking))
  · exact Or.inr (Or.inr (Or.inl (loop.trans listing)))
  · exact Or.inr (Or.inr (Or.inr (Or.inl (loop.trans sleeping))))
  · exact absurd flushing.1 outside

theorem attended_further {after : Runtime} (attended : Attended runtime recordId)
    (loop : after.loop = runtime.loop) (permit : runtime.permit = true → after.permit = true)
    (hand : 0 < runtime.retained ∨ recordId ∈ inHand runtime.queue.flush →
      0 < after.retained ∨ recordId ∈ inHand after.queue.flush) : Attended after recordId := by
  by_cases flushing : runtime.loop = .flushing
  · rcases attended with stored | checking | listing | sleeping | held
    · exact Or.inl (permit stored)
    · rw [flushing] at checking
      cases checking
    · rw [flushing] at listing
      cases listing
    · rw [flushing] at sleeping
      cases sleeping
    · exact Or.inr (Or.inr (Or.inr (Or.inr ⟨loop.trans flushing, hand held.2⟩)))
  · exact attended_elsewhere attended flushing loop permit

variable (awake : Awake runtime)

include awake

theorem awake_of_same_calls {after : Runtime} (failed : after.failed = runtime.failed)
    (calls : after.queue.calls = runtime.queue.calls)
    (queued : after.queue.history.queued = runtime.queue.history.queued)
    (exclusive : after.loop = .listing ∨ after.loop = .flushing → after.connect ≠ .listing ∧
      after.connect ≠ .flushing)
    (attended : ∀ row ∈ after.queue.rows, row.recordId ∈ runtime.failed → Attended after
      row.recordId) :
    Awake after where
  known := by
    rw [failed, queued]
    exact awake.known
  calls := by
    rw [calls, queued]
    exact awake.calls
  exclusive := exclusive
  attended := by
    rw [failed]
    exact attended

theorem loop_list_awake {after : Runtime} (listing : runtime.loop = .listing)
    (taken : runtime.list listed order (fun ended => { ended with loop := .waiting }) (fun begun =>
      { begun with loop := .flushing }) = some after) :
    Awake after := by
  obtain ⟨queue, begun, built⟩ := Option.map_eq_some_iff.mp taken
  obtain ⟨rows, calls, history, none, handed⟩ := begin_flush_cases begun
  have queued : queue.history.queued = runtime.queue.history.queued := by rw [history]
  split_ifs at built with empty
  · rw [← built]
    refine awake_of_same_calls awake rfl calls queued (by simp) ?_
    intro row member
    rw [rows, none empty] at member
    cases member
  · rw [← built]
    refine awake_of_same_calls awake rfl calls queued
      (fun _ => awake.exclusive (Or.inl listing)) ?_
    intro row member _
    rw [rows] at member
    exact Or.inr (Or.inr (Or.inr (Or.inr ⟨rfl, Or.inr (handed row member)⟩)))

theorem connect_list_awake {after : Runtime} (listing : runtime.connect = .listing)
    (taken : runtime.list listed order (fun ended => { ended with connect := .syncing }) (fun begun
      => { begun with connect := .flushing }) = some after) :
    Awake after := by
  obtain ⟨queue, begun, built⟩ := Option.map_eq_some_iff.mp taken
  obtain ⟨rows, calls, history, _, _⟩ := begin_flush_cases begun
  have queued : queue.history.queued = runtime.queue.history.queued := by rw [history]
  have outside := loop_outside awake (Or.inl listing)
  have holds : ¬ (runtime.loop = .listing ∨ runtime.loop = .flushing) :=
    fun held => held.elim outside.1 outside.2
  have handed : ∀ connect, Awake { runtime with queue, connect, retained := 0 } := by
    intro connect
    refine awake_of_same_calls awake rfl calls queued (fun held => absurd held holds) ?_
    intro row member failed
    rw [rows] at member
    exact attended_elsewhere (awake.attended row member failed) outside.2 rfl id
  split_ifs at built with empty
  · rw [← built]
    exact handed .syncing
  · rw [← built]
    exact handed .flushing

theorem send_awake {after : Runtime} (taken : runtime.sendNext root answers = some after) :
    Awake after := by
  unfold Runtime.sendNext at taken
  split at taken
  · rename_i mutation rest toRemove running
    obtain ⟨queue, sent, built⟩ := Option.map_eq_some_iff.mp taken
    obtain ⟨rows, calls, queued, moved⟩ := send_flush_cases running sent
    rw [← built]
    refine awake_of_same_calls awake rfl calls queued awake.exclusive ?_
    intro row member failed
    rw [rows] at member
    apply attended_further (awake.attended row member failed)
    · rfl
    · exact id
    · intro held
      dsimp only
      rcases held with retained | handed
      · left
        omega
      · rcases moved row.recordId handed with handed | kept
        · exact Or.inr handed
        · left
          rw [if_pos kept]
          omega
  · cases taken

theorem loop_end_awake (flushing : runtime.loop = .flushing)
    (ended : runtime.queue.endFlush = some queue) :
    Awake { runtime with
      queue := queue
      loop := if runtime.retained = 0 then .waiting else .sleeping } := by
  obtain ⟨calls, history, remaining⟩ := end_flush_cases ended
  have queued : queue.history.queued = runtime.queue.history.queued := by rw [history]
  refine awake_of_same_calls awake rfl calls queued ?_ ?_
  · intro held
    split_ifs at held <;> simp at held
  · intro row member failed
    obtain ⟨held, released⟩ := remaining row member
    have before := awake.attended row held failed
    rw [Attended, flushing] at before
    simp only [reduceCtorEq, false_or, true_and] at before
    by_cases none : runtime.retained = 0
    · left
      rcases before with permit | retained | handed
      · exact permit
      · omega
      · exact absurd handed released
    · right; right; right; left
      exact if_neg none

theorem step_awake {after : Runtime} {event : Event} (undisturbed : Undisturbed runtime event)
    (taken : runtime.step root event = some after) :
    Awake after := by
  cases event with
  | write action => exact write_awake awake taken
  | wake | loopRetry =>
    simp only [Runtime.step] at taken
    split_ifs at taken
    cases taken
    refine { awake with exclusive := by simp, attended := ?_ }
    intro row _ _
    exact Or.inr (Or.inl rfl)
  | loopBusy => exact undisturbed.elim
  | loopAcquire =>
    simp only [Runtime.step] at taken
    split_ifs at taken with ready
    cases taken
    refine { awake with exclusive := fun _ => (guard_free ready.2).2, attended := ?_ }
    intro row _ _
    exact Or.inr (Or.inr (Or.inl rfl))
  | loopList listed order =>
    simp only [Runtime.step] at taken
    split_ifs at taken with listing
    exact loop_list_awake awake listing taken
  | loopListFails => exact undisturbed.elim
  | loopEnd =>
    simp only [Runtime.step] at taken
    by_cases flushing : runtime.loop = .flushing
    · rw [if_pos flushing] at taken
      obtain ⟨queue, ended, built⟩ := Option.map_eq_some_iff.mp taken
      rw [← built]
      exact loop_end_awake awake flushing ended
    · rw [if_neg flushing] at taken
      cases taken
  | connected | connectBusy | connectListFails | connectDone =>
    simp only [Runtime.step] at taken
    split_ifs at taken
    cases taken
    exact { awake with exclusive := by simp }
  | connectAcquire =>
    simp only [Runtime.step] at taken
    split_ifs at taken with ready
    cases taken
    have outside := (guard_free ready.2).1
    exact { awake with exclusive := fun held => absurd held (by simp [outside]) }
  | connectList listed order =>
    simp only [Runtime.step] at taken
    split_ifs at taken with listing
    exact connect_list_awake awake listing taken
  | connectEnd =>
    simp only [Runtime.step] at taken
    split_ifs at taken with flushing
    obtain ⟨queue, ended, built⟩ := Option.map_eq_some_iff.mp taken
    obtain ⟨calls, history, remaining⟩ := end_flush_cases ended
    rw [← built]
    refine awake_of_same_calls awake rfl calls (by rw [history]) (by simp) ?_
    intro row member failed
    apply attended_elsewhere (awake.attended row (remaining row member).1 failed)
      (loop_outside awake (Or.inr flushing)).2
    · rfl
    · intro stored
      simp [stored]
  | send answers => exact send_awake awake taken
  | delete deleted =>
    have succeeds : deleted = true := undisturbed
    rw [succeeds] at taken
    obtain ⟨queue, removed, built⟩ := Option.map_eq_some_iff.mp taken
    obtain ⟨calls, history, remaining⟩ := delete_flushed_cases removed
    rw [← built]
    refine awake_of_same_calls awake rfl calls (by rw [history]) awake.exclusive ?_
    intro row member failed
    obtain ⟨held, handed⟩ := remaining row member
    apply attended_further (awake.attended row held failed)
    · rfl
    · exact id
    · intro before
      exact before.imp_right handed

omit awake

/-- In every run in which the loop's flushes are not turned away, do not fail, and delete
the rows they settle, no failed row is left without a flush to come. -/
theorem failed_rows_are_not_stranded (root : String) (kind : QueueKind) (runtime : Runtime)
    (run : Reaches (Runtime.step root) Undisturbed (Runtime.start kind) runtime) :
    ¬ runtime.Stranded := by
  have awake : Awake runtime :=
    reaches_invariant Awake (start_awake kind)
      (fun _ _ _ before undisturbed taken => step_awake before undisturbed taken) run
  intro stranded
  obtain ⟨⟨row, queued, failed⟩, _, _, waiting, permit⟩ := stranded
  have attended := awake.attended row queued failed
  simp [Attended, waiting, permit] at attended

def update (recordId : String) (createdAt : Nat) : StoredRow :=
  ⟨recordId, .update, "task", "t1", "p1", some (Finmap.singleton "done" (.number createdAt)),
    createdAt⟩

def timeoutThenFlush : List Event :=
  [.write (.begin (update "a" 1)), .write (.send "a" (.error (.timeout 10))),
    .write (.react "a"), .wake, .loopAcquire, .loopList [update "a" 1] [("task", "t1")],
    .send ⟨.ok (), .ok none, .ok ()⟩, .delete true, .loopEnd]

theorem timed_out_row_is_flushed :
    ∃ runtime, replay (Runtime.step "project") Undisturbed (Runtime.start .persistent)
        timeoutThenFlush = some runtime ∧ runtime.loop = .waiting ∧ ¬ runtime.Stranded := by
  refine ⟨(replay (Runtime.step "project") Undisturbed (Runtime.start .persistent)
    timeoutThenFlush).get (by decide), by decide, by decide, ?_⟩
  apply failed_rows_are_not_stranded "project" .persistent
  exact reaches_of_replay .start (Option.some_get _).symm

/-- The loop is woken while `on_connected` sends its snapshot, finds the guard held and waits again.
-/
def timeoutDuringConnect : List Event :=
  [.write (.begin (update "a" 1)), .write (.returnOffline "a"), .connected, .connectAcquire,
    .connectList [update "a" 1] [("task", "t1")], .write (.begin (update "b" 2)),
    .write (.send "b" (.error (.timeout 10))), .write (.react "b"), .wake, .loopBusy,
    .send ⟨.ok (), .ok none, .ok ()⟩, .connectEnd, .connectDone]

theorem busy_guard_strands_row :
    ∃ runtime, replay (Runtime.step "project") (fun _ _ => True) (Runtime.start .inMemory)
        timeoutDuringConnect = some runtime ∧ runtime.Stranded := by
  refine ⟨(replay (Runtime.step "project") (fun _ _ => True) (Runtime.start .inMemory)
    timeoutDuringConnect).get (by decide), by decide⟩

end Stitch.Client.FlushWakeup
