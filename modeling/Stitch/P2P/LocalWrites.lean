import Stitch.Foundation.GuardedRuns
import Stitch.P2P.NodeCalls

/-!
# A local write wins on its own node

As long as no counter wraps, the clock is at least the stamp of every frame ever recorded. A
local write is stamped above the clock, so it is applied.
-/

namespace Stitch.P2P.LocalWrites

open Foundation.GuardedRuns HybridClock LastWriterWins WireFormat ReplicationLog NodeState NodeCalls

/-- A node, every frame its log has recorded so far, and those its own writes returned. -/
structure Node where
  state : SyncState
  recorded : List WriteFrame
  written : List WriteFrame

def Node.start (selfId : PeerId) : Node := ⟨SyncState.new selfId, [], []⟩

def writtenBy (state : SyncState) : Call → Option WriteFrame
  | .localWrite persisted wallMs op entity id data =>
    (state.localWrite persisted wallMs op entity id data).2.toOption
  | _ => none

def recordedBy (state : SyncState) : Call → Option WriteFrame
  | .receive persisted frame wallMs =>
    if (state.receive persisted frame wallMs).2 = .appended then some frame else none
  | .replay frame => if (state.log.record frame).2 = .appended then some frame else none
  | next => writtenBy state next

def Node.step (node : Node) (next : Call) : Option Node :=
  some {
    state := (call node.state next).1
    recorded := node.recorded ++ (recordedBy node.state next).toList
    written := node.written ++ (writtenBy node.state next).toList }

abbrev Runs (selfId : PeerId) : Node → Prop :=
  Reaches Node.step (fun node next => next.Fits node.state) (Node.start selfId)

section

variable {recorded : List WriteFrame} {applier : Applier}

/-- Every stamp held or collected in the applier is the stamp of a recorded frame. -/
def Sourced (recorded : List WriteFrame) (applier : Applier) : Prop :=
  ∀ key, (∀ write ∈ (applier.cell key).current, write.stamp ∈ recorded.map WriteFrame.stamp) ∧
    ∀ floor ∈ (applier.cell key).gcFloor, floor ∈ recorded.map WriteFrame.stamp

theorem sourced_append (sourced : Sourced recorded applier) (more : List WriteFrame) :
    Sourced (recorded ++ more) applier := by
  intro key
  obtain ⟨held, collected⟩ := sourced key
  rw [List.map_append]
  exact ⟨fun write isHeld => List.mem_append_left _ (held write isHeld),
    fun floor isFloor => List.mem_append_left _ (collected floor isFloor)⟩

theorem sourced_merge (sourced : Sourced recorded applier) (frame : WriteFrame) :
    Sourced (recorded ++ [frame]) (applier.merge frame.intoStamped).1 := by
  intro key
  have before := sourced_append sourced [frame] key
  rw [merge_cell]
  split_ifs with same
  · rcases cell_merge_cases (applier.cell key) frame.intoStamped with
      ⟨kept, -, -⟩ | ⟨installed, floor, -, -, -⟩
    · rw [kept]
      exact before
    · refine ⟨?_, ?_⟩
      · intro write isHeld
        rw [installed, Option.mem_some_iff] at isHeld
        rw [← isHeld, List.map_append]
        exact List.mem_append_right _ (List.mem_singleton_self _)
      · rw [floor]
        exact before.2
  · exact before

theorem sourced_collect (sourced : Sourced recorded applier) (entity id : String) :
    Sourced recorded (applier.collectTombstone entity id).1 := by
  intro key
  have before := sourced key
  rw [collect_cell]
  split_ifs with same
  · cases collected : (applier.cell key).collect with
    | none => exact before
    | some next =>
      unfold Cell.collect at collected
      cases current : (applier.cell key).current with
      | none => simp [current] at collected
      | some held =>
        simp only [current] at collected
        split_ifs at collected
        cases collected
        have raised := raise_floor_above ((applier.cell key).floorBelow held current)
        refine ⟨by simp, ?_⟩
        intro floor isFloor
        simp only [Option.getD_some, Option.mem_some_iff] at isFloor
        rw [← isFloor, raised]
        exact before.1 held current
  · exact before

end

section

variable {state : SyncState} {next : Call} {frame : WriteFrame}

theorem local_write_effect (state : SyncState) (persisted : Bool) (wallMs : Nat) (op : Op)
    (entity id : String) (data : List UInt8) :
    let written := state.localWrite persisted wallMs op entity id data
    written.1.selfId = state.selfId ∧
      written.1.log = written.2.toOption.elim state.log (fun frame => (state.log.record frame).1) ∧
      written.1.applier = written.2.toOption.elim state.applier
        (fun frame => (state.applier.merge frame.intoStamped).1) := by
  intro written
  cases outcome : state.localWrite persisted wallMs op entity id data with
  | mk after result =>
    simp only [written, outcome]
    cases result with
    | ok frame =>
      obtain ⟨-, -, -, -, same⟩ := local_write_ok outcome
      rw [same]
      exact ⟨rfl, rfl, rfl⟩
    | error error =>
      rcases local_write_error outcome with same | same <;> rw [same] <;>
        exact ⟨rfl, rfl, rfl⟩

theorem call_sourced {recorded : List WriteFrame} (sourced : Sourced recorded state.applier)
    (next : Call) :
    Sourced (recorded ++ (recordedBy state next).toList) (call state next).1.applier := by
  cases next with
  | localWrite persisted wallMs op entity id data =>
    simp only [recordedBy, writtenBy, call]
    rw [(local_write_effect state persisted wallMs op entity id data).2.2]
    cases (state.localWrite persisted wallMs op entity id data).2.toOption with
    | none => exact sourced_append sourced []
    | some frame => exact sourced_merge sourced frame
  | receive persisted frame wallMs =>
    simp only [recordedBy, call, receive_applier, receive_appended_iff]
    split_ifs
    · exact sourced_merge sourced frame
    · exact sourced_append sourced []
  | replay frame =>
    simp only [recordedBy, call, replay_applier, record_outcome]
    split_ifs
    · exact sourced_merge sourced frame
    · exact sourced_append sourced []
  | collectTombstone entity id =>
    exact sourced_append (sourced_collect sourced entity id) []
  | reclaim origins members =>
    obtain ⟨-, -, same, -⟩ := reclaim_frame state origins members
    simp only [recordedBy, writtenBy, call]
    rw [same]
    exact sourced_append sourced []
  | notePeerCursors peer cursors | setAuth auth => exact sourced_append sourced []

theorem call_self_id (state : SyncState) (next : Call) :
    (call state next).1.selfId = state.selfId := by
  cases next with
  | localWrite persisted wallMs op entity id data =>
    exact (local_write_effect state persisted wallMs op entity id data).1
  | receive persisted frame wallMs => exact (receive_frame state persisted frame wallMs).1
  | replay frame | collectTombstone entity id => rfl
  | reclaim origins members => exact (reclaim_frame state origins members).1
  | notePeerCursors peer cursors | setAuth auth => rfl

theorem call_cursor_mono (state : SyncState) (next : Call) (origin : PeerId) :
    state.log.cursorFor origin ≤ (call state next).1.log.cursorFor origin := by
  cases next with
  | localWrite persisted wallMs op entity id data =>
    simp only [call]
    rw [(local_write_effect state persisted wallMs op entity id data).2.1]
    cases (state.localWrite persisted wallMs op entity id data).2.toOption with
    | none => exact Nat.le_refl _
    | some frame => exact record_cursor_mono state.log frame origin
  | receive persisted frame wallMs =>
    simp only [call, receive_log]
    split_ifs
    · exact record_cursor_mono state.log frame origin
    · exact Nat.le_refl _
  | replay frame => exact record_cursor_mono state.log frame origin
  | collectTombstone entity id => exact Nat.le_refl _
  | reclaim origins members =>
    obtain ⟨-, -, -, -, same⟩ := reclaim_frame state origins members
    exact (same origin).ge
  | notePeerCursors peer cursors | setAuth auth => exact Nat.le_refl _

theorem call_clock_mono (fits : next.Fits state) : state.clock ≤ (call state next).1.clock := by
  rw [call_clock]
  cases made : next.advance state with
  | none => exact le_refl _
  | some advance => exact (lt_apply (fits advance made)).1.le

theorem written_by_stamp (wrote : writtenBy state next = some frame) :
    frame.stamp = ⟨(call state next).1.clock, state.selfId⟩ ∧
      frame.seq = state.log.cursorFor state.selfId + 1 ∧
      frame.seq ≤ (call state next).1.log.cursorFor state.selfId ∧
      recordedBy state next = some frame ∧ ∃ wallMs, next.advance state = some (.tick wallMs) := by
  cases next with
  | localWrite persisted wallMs op entity id data =>
    simp only [writtenBy] at wrote
    cases outcome : state.localWrite persisted wallMs op entity id data with
    | mk after result =>
      cases result with
      | error error =>
        rw [outcome] at wrote
        cases wrote
      | ok built =>
        have same : built = frame := by
          rw [outcome] at wrote
          exact Option.some.inj wrote
        subst same
        obtain ⟨lengths, stamped, peer, seq, same⟩ := local_write_ok outcome
        have stamp : built.stamp = ⟨state.clock.tick wallMs, state.selfId⟩ :=
          congrArg StampedWrite.stamp stamped
        have appended : state.log.classify built = .appended := by
          rw [ReplLog.classify, peer, seq]
          simp
        simp only [call, recordedBy, writtenBy, outcome, Call.advance, lengths]
        refine ⟨?_, seq, ?_, rfl, wallMs, rfl⟩
        · rw [stamp, same]
          rfl
        · rw [same, seq]
          have cursor := record_cursor_appended state.log built appended state.selfId
          rw [if_pos peer.symm] at cursor
          exact cursor.ge
  | _ => cases wrote

theorem recorded_by_clock (fits : next.Fits state) (records : recordedBy state next = some frame) :
    frame.stamp.hlc ≤ (call state next).1.clock := by
  have observed (remote : Hlc) (wallMs : Nat)
      (made : next.advance state = some (.observe remote wallMs)) :
      remote ≤ (call state next).1.clock := by
    rw [call_clock, made]
    exact ((lt_apply (fits _ made)).2 remote rfl).le
  cases next with
  | receive persisted received wallMs =>
    simp only [recordedBy, receive_appended_iff] at records
    split_ifs at records with appended
    cases records
    apply observed frame.stamp.hlc wallMs
    have accepted := appended.1
    simp only [SyncState.accepts, Bool.and_eq_true, Bool.not_eq_true'] at accepted
    simp [Call.advance, accepted.1]
  | replay replayed =>
    simp only [recordedBy] at records
    split_ifs at records
    cases records
    exact observed frame.stamp.hlc _ rfl
  | _ =>
    simp only [recordedBy] at records
    rw [(written_by_stamp records).1]

end

section

variable {selfId : PeerId} {node after : Node}

structure Dominated (node : Node) : Prop where
  seen : ∀ frame ∈ node.recorded, frame.stamp.hlc ≤ node.state.clock
  sourced : Sourced node.recorded node.state.applier
  numbered : ∀ frame ∈ node.written, frame ∈ node.recorded ∧
    frame.seq ≤ node.state.log.cursorFor node.state.selfId
  ordered : node.written.Pairwise fun earlier later =>
    earlier.seq < later.seq ∧ earlier.stamp < later.stamp

theorem start_dominated (selfId : PeerId) : Dominated (Node.start selfId) where
  seen := by simp [Node.start]
  sourced := by
    intro key
    simp [Node.start, SyncState.new, Cell.empty]
  numbered := by simp [Node.start]
  ordered := List.Pairwise.nil

theorem written_above {next : Call} {frame : WriteFrame} (dominated : Dominated node)
    (fits : next.Fits node.state) (wrote : writtenBy node.state next = some frame) :
    (∀ other ∈ node.recorded, other.stamp < frame.stamp) ∧
      ∀ other ∈ node.written, other.seq < frame.seq ∧ other.stamp < frame.stamp := by
  obtain ⟨stamp, seq, -, -, wallMs, made⟩ := written_by_stamp wrote
  have above : ∀ other ∈ node.recorded, other.stamp < frame.stamp := by
    intro other listed
    apply stamp_lt_of_hlc_lt
    have ticked := (lt_apply (fits _ made)).1
    rw [stamp, call_clock, made]
    exact (dominated.seen other listed).trans_lt ticked
  refine ⟨above, ?_⟩
  intro other listed
  obtain ⟨recorded, number⟩ := dominated.numbered other listed
  exact ⟨by omega, above other recorded⟩

theorem written_above_cells {next : Call} {frame : WriteFrame} (dominated : Dominated node)
    (fits : next.Fits node.state) (wrote : writtenBy node.state next = some frame)
    (key : RecordKey) :
    (∀ write ∈ (node.state.applier.cell key).current, write.stamp < frame.stamp) ∧
      ∀ floor ∈ (node.state.applier.cell key).gcFloor, floor < frame.stamp := by
  have listed : ∀ stamp ∈ node.recorded.map WriteFrame.stamp, stamp < frame.stamp := by
    intro stamp member
    obtain ⟨other, recorded, same⟩ := List.mem_map.mp member
    rw [← same]
    exact (written_above dominated fits wrote).1 other recorded
  obtain ⟨held, collected⟩ := dominated.sourced key
  exact ⟨fun write isHeld => listed _ (held write isHeld),
    fun floor isFloor => listed _ (collected floor isFloor)⟩

theorem step_dominated {next : Call} (dominated : Dominated node) (fits : next.Fits node.state)
    (taken : node.step next = some after) : Dominated after := by
  cases taken
  have clock := call_clock_mono fits
  have cursor := call_cursor_mono node.state next node.state.selfId
  constructor
  · intro frame listed
    rcases List.mem_append.mp listed with before | new
    · exact (dominated.seen frame before).trans clock
    · exact recorded_by_clock fits (Option.mem_toList.mp new)
  · exact call_sourced dominated.sourced next
  · intro frame listed
    rw [call_self_id]
    rcases List.mem_append.mp listed with before | new
    · obtain ⟨recorded, number⟩ := dominated.numbered frame before
      exact ⟨List.mem_append_left _ recorded, number.trans cursor⟩
    · obtain ⟨-, -, number, records, -⟩ := written_by_stamp (Option.mem_toList.mp new)
      exact ⟨List.mem_append_right _ (Option.mem_toList.mpr records), number⟩
  · cases wrote : writtenBy node.state next with
    | none =>
      simp only [Option.toList_none, List.append_nil]
      exact dominated.ordered
    | some frame =>
      rw [List.pairwise_append]
      refine ⟨dominated.ordered, List.pairwise_singleton _ _, ?_⟩
      intro earlier listed later same
      rw [List.mem_singleton.mp same]
      exact (written_above dominated fits wrote).2 earlier listed

theorem runs_dominated (run : Runs selfId node) : Dominated node :=
  reaches_invariant Dominated (start_dominated selfId)
    (fun _ _ _ dominated fits taken => step_dominated dominated fits taken) run

/-- A returned local write is stamped above every frame ever recorded and every stamp held
or collected, so it is applied and is what its record holds. The node's own writes are
stamped in the order of their numbers. -/
theorem local_write_wins (run : Runs selfId node) {persisted : Bool} {wallMs : Nat} {op : Op}
    {entity id : String} {data : List UInt8} {next : SyncState} {frame : WriteFrame}
    (fits : node.state.clock.TickFits wallMs)
    (returned : node.state.localWrite persisted wallMs op entity id data = (next, .ok frame)) :
    (∀ other ∈ node.recorded, other.stamp < frame.stamp) ∧
      (∀ key, (∀ write ∈ (node.state.applier.cell key).current, write.stamp < frame.stamp) ∧
        ∀ floor ∈ (node.state.applier.cell key).gcFloor, floor < frame.stamp) ∧
      Sourced node.recorded node.state.applier ∧
      (node.state.applier.merge frame.intoStamped).2 = .applied ∧
      (next.applier.cell (entity, id)).current = some frame.intoStamped ∧
      (node.written ++ [frame]).Pairwise fun earlier later =>
        earlier.seq < later.seq ∧ earlier.stamp < later.stamp := by
  have dominated := runs_dominated run
  have sameCall : (Call.localWrite persisted wallMs op entity id data).Fits node.state := by
    intro advance made
    simp only [Call.advance] at made
    cases checked : checkLengths entity id data with
    | error error => simp [checked] at made
    | ok checked =>
      simp only [*, Option.mem_some_iff] at made
      rw [← made]
      exact fits
  have wrote : writtenBy node.state (.localWrite persisted wallMs op entity id data) =
      some frame := by
    rw [writtenBy, returned]
    rfl
  obtain ⟨above, later⟩ := written_above dominated sameCall wrote
  have cells := written_above_cells dominated sameCall wrote
  obtain ⟨-, stamped, -, -, same⟩ := local_write_ok returned
  have keyed : (frame.intoStamped.entity, frame.intoStamped.id) = (entity, id) := by
    rw [stamped]
    rfl
  refine ⟨above, cells, dominated.sourced, ?_⟩
  obtain ⟨installed, applied⟩ :
      ((node.state.applier.cell (entity, id)).merge frame.intoStamped).1.current =
          some frame.intoStamped ∧
        ((node.state.applier.cell (entity, id)).merge frame.intoStamped).2 = .applied :=
    cell_merge_above (cells (entity, id)).2 (cells (entity, id)).1
  refine ⟨?_, ?_, ?_⟩
  · rw [← keyed] at applied
    exact applied
  · rw [same]
    have cell := merge_cell node.state.applier frame.intoStamped (entity, id)
    rw [if_pos keyed.symm] at cell
    exact (congrArg Cell.current cell).trans installed
  · rw [List.pairwise_append]
    refine ⟨dominated.ordered, List.pairwise_singleton _ _, ?_⟩
    intro earlier member other last
    rw [List.mem_singleton.mp last]
    exact later earlier member

def futureDelete : WriteFrame := { counterFrame 3 with op := .delete }

/-- A delete stamped in the future is received and its tombstone collected; a write at an
earlier wall time is stamped above it and applied. -/
theorem write_after_collected_delete_wins :
    let received := (call (SyncState.new (peerNumber 1)) (.receive true futureDelete 0)).1
    let collected := (call received (.collectTombstone "task" "t1")).1
    let written := collected.localWrite true 5 .insert "task" "t1" [8]
    ∃ frame, written.2 = .ok frame ∧ frame.stamp = ⟨⟨9, 5⟩, peerNumber 1⟩ ∧
      futureDelete.stamp < frame.stamp ∧
      (collected.applier.merge frame.intoStamped).2 = .applied ∧
      (written.1.applier.cell ("task", "t1")).current = some frame.intoStamped := by
  intro received collected written
  let frame : WriteFrame := ⟨⟨⟨9, 5⟩, peerNumber 1⟩, 1, .insert, "task", "t1", [8], none⟩
  let node : Node := ⟨collected, [futureDelete], []⟩
  have seen : Hlc.zero.ObserveFits futureDelete.stamp.hlc 0 := by decide
  have arrived : Runs (peerNumber 1) ⟨received, [futureDelete], []⟩ := by
    apply Reaches.next (.receive true futureDelete 0) .start _ rfl
    intro advance made
    cases made
    exact seen
  have run : Runs (peerNumber 1) node := by
    apply Reaches.next (.collectTombstone "task" "t1") arrived _ rfl
    intro advance made
    cases made
  have returned : collected.localWrite true 5 .insert "task" "t1" [8] = (written.1, .ok frame) :=
    rfl
  have fits : node.state.clock.TickFits 5 := by decide
  obtain ⟨above, -, -, applied, current, -⟩ := local_write_wins run fits returned
  exact ⟨frame, rfl, rfl, above futureDelete (by simp [node]), applied, current⟩

end

end Stitch.P2P.LocalWrites
