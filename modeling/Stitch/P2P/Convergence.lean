import Stitch.Foundation.Latest
import Stitch.P2P.NodeState

/-!
# Convergence of the visible state

The frames a node has recorded determine what it shows: each cell stands for the latest write
delivered to its record, also after tombstones have been collected and log prefixes reclaimed.
`Reaches` ranges over the runs of a node over a fixed family of per-origin logs.
-/

namespace Stitch.P2P.Convergence

open Foundation.Latest HybridClock LastWriterWins WireFormat ReplicationLog NodeState

/-- Frames are ranked by stamp; among equal stamps the smaller sequence number
ranks higher. -/
def rank (frame : WriteFrame) : Stamp ×ₗ ℕᵒᵈ := toLex (frame.stamp, OrderDual.toDual frame.seq)

theorem rank_le_iff (left right : WriteFrame) :
    rank left ≤ rank right ↔
      left.stamp < right.stamp ∨ left.stamp = right.stamp ∧ right.seq ≤ left.seq := by
  simp [rank, Prod.Lex.toLex_le_toLex]

theorem rank_lt_of_stamp_lt {left right : WriteFrame} (earlier : left.stamp < right.stamp) :
    rank left < rank right := by
  simp only [rank, Prod.Lex.toLex_lt_toLex]
  exact Or.inl earlier

theorem rank_injective_on (logs : OriginLogs) : Set.InjOn rank {frame | logs.Contains frame} := by
  intro left leftWritten right rightWritten same
  simp only [rank, EmbeddingLike.apply_eq_iff_eq, Prod.mk.injEq] at same
  obtain ⟨stamp, seq⟩ := same
  exact contains_unique leftWritten rightWritten (congrArg Stamp.peer stamp) seq

def recordKey (frame : WriteFrame) : RecordKey := (frame.entity, frame.id)

def writesTo (delivered : List WriteFrame) (key : RecordKey) : Set WriteFrame :=
  {frame | frame ∈ delivered ∧ recordKey frame = key}

/-- A cell stands for a frame: it holds the frame's write, or the frame was a
tombstone and the cell remembers its stamp as the floor. -/
def StandsFor (cell : Cell) (frame : WriteFrame) : Prop :=
  cell.current = some frame.intoStamped ∨
    cell.current = none ∧ cell.gcFloor = some frame.stamp ∧ frame.op.isDelete = true

/-- A cell summarizes the writes to its record: it stands for the latest one. -/
def Summarizes (cell : Cell) (writes : Set WriteFrame) : Prop :=
  (writes = ∅ ∧ cell = Cell.empty) ∨
    ∃ frame, IsLatest rank writes frame ∧ StandsFor cell frame

variable {next state left right : SyncState} {cell : Cell} {frame : WriteFrame}
  {writes : Set WriteFrame} {logs : OriginLogs}
  {delivered leftDelivered rightDelivered : List WriteFrame}

theorem stands_for_merge (standing : StandsFor cell frame) (write : StampedWrite) :
    (write.stamp ≤ frame.stamp ∧ (cell.merge write).1 = cell) ∨
      (frame.stamp < write.stamp ∧ (cell.merge write).1.current = some write) := by
  rcases cell_merge_cases cell write with ⟨same, -, bound⟩ | ⟨held, -, -, floors, currents⟩
  · refine Or.inl ⟨?_, same⟩
    rcases standing with current | ⟨empty, floor, -⟩
    · rcases bound with ⟨stamp, isFloor, lower⟩ | ⟨other, isCurrent, lower⟩
      · exact lower.trans (cell.floorBelow _ current stamp isFloor).le
      · rw [current] at isCurrent
        cases isCurrent
        exact lower
    · rcases bound with ⟨stamp, isFloor, lower⟩ | ⟨other, isCurrent, lower⟩
      · rw [floor] at isFloor
        cases isFloor
        exact lower
      · simp [empty] at isCurrent
  · refine Or.inr ⟨?_, held⟩
    rcases standing with current | ⟨empty, floor, -⟩
    · exact currents frame.intoStamped current
    · exact floors frame.stamp floor

theorem summarizes_merge (summary : Summarizes cell writes)
    (ties : ∀ other ∈ writes, other.stamp = frame.stamp → other.seq ≤ frame.seq) :
    Summarizes (cell.merge frame.intoStamped).1 (insert frame writes) := by
  rcases summary with ⟨none, empty⟩ | ⟨latest, isLatest, standing⟩
  · refine Or.inr ⟨frame, ?_, Or.inl ?_⟩
    · rw [none, insert_empty_eq]
      exact latest_singleton rank frame
    · rw [empty]
      rfl
  · rcases stands_for_merge standing frame.intoStamped with ⟨lower, same⟩ | ⟨higher, held⟩
    · have outranked : rank frame ≤ rank latest := by
        rw [rank_le_iff]
        rcases lower.lt_or_eq with strict | tie
        · exact Or.inl strict
        · exact Or.inr ⟨tie, ties latest isLatest.1 tie.symm⟩
      rw [same]
      exact Or.inr ⟨latest, latest_insert_of_le isLatest outranked, standing⟩
    · have outranks := rank_lt_of_stamp_lt higher
      exact Or.inr ⟨frame, latest_insert_of_lt isLatest outranks, Or.inl held⟩

theorem summarizes_collect {next : Cell} (summary : Summarizes cell writes)
    (collected : cell.collect = some next) :
    Summarizes next writes := by
  unfold Cell.collect at collected
  cases current : cell.current with
  | none => simp [current] at collected
  | some write =>
    by_cases tombstone : write.op.isDelete = true
    · simp only [current, tombstone, if_true, Option.some.injEq] at collected
      subst collected
      rcases summary with ⟨-, empty⟩ | ⟨latest, isLatest, standing⟩
      · rw [empty] at current
        cases current
      · rcases standing with held | ⟨empty, -, -⟩
        · rw [current, Option.some.injEq] at held
          subst held
          refine Or.inr ⟨latest, isLatest, Or.inr ⟨rfl, ?_, tombstone⟩⟩
          exact congrArg some (raise_floor_above (cell.floorBelow _ current))
        · rw [empty] at current
          cases current
    · simp [current, tombstone] at collected

/-- The runs of one node over a family of logs, with the frames recorded so far. -/
inductive Reaches (logs : OriginLogs) : List WriteFrame → SyncState → Prop where
  | start (selfId : PeerId) (auth : Option FrameAuth) :
      Reaches logs [] { SyncState.new selfId with auth := auth }
  | receive {delivered : List WriteFrame} {state : SyncState}
      (prior : Reaches logs delivered state) (frame : WriteFrame)
      (written : logs.Contains frame) (persisted : Bool) (wallMs : Nat) :
      Reaches logs
        (if (state.receive persisted frame wallMs).2 = .appended then delivered ++ [frame]
          else delivered)
        (state.receive persisted frame wallMs).1
  | replay {delivered : List WriteFrame} {state : SyncState}
      (prior : Reaches logs delivered state) (frame : WriteFrame)
      (written : logs.Contains frame) :
      Reaches logs
        (if (state.log.record frame).2 = .appended then delivered ++ [frame] else delivered)
        (state.replay frame)
  | localWrite {delivered : List WriteFrame} {state next : SyncState} {frame : WriteFrame}
      (prior : Reaches logs delivered state) {persisted : Bool} {wallMs : Nat} {op : Op}
      {entity id : String} {data : List UInt8}
      (returned : state.localWrite persisted wallMs op entity id data = (next, .ok frame))
      (written : logs.Contains frame) :
      Reaches logs (delivered ++ [frame]) next
  | refusedWrite {delivered : List WriteFrame} {state next : SyncState} {error : WriteError}
      (prior : Reaches logs delivered state) {persisted : Bool} {wallMs : Nat} {op : Op}
      {entity id : String} {data : List UInt8}
      (returned : state.localWrite persisted wallMs op entity id data = (next, .error error)) :
      Reaches logs delivered next
  | collectTombstone {delivered : List WriteFrame} {state : SyncState}
      (prior : Reaches logs delivered state) (entity id : String) :
      Reaches logs delivered (state.collectTombstone entity id).1
  | notePeerCursors {delivered : List WriteFrame} {state : SyncState}
      (prior : Reaches logs delivered state) (peer : PeerId) (cursors : Cursors) :
      Reaches logs delivered (state.notePeerCursors peer cursors)
  | reclaim {delivered : List WriteFrame} {state : SyncState}
      (prior : Reaches logs delivered state) (origins members : List PeerId) :
      Reaches logs delivered (state.reclaim origins members).1

/-- The frames recorded are those up to the cursors, and every cell summarizes
the recorded writes to its record. -/
structure Tracks (logs : OriginLogs) (delivered : List WriteFrame) (state : SyncState) :
    Prop where
  recorded : ∀ frame, frame ∈ delivered ↔
    logs.Contains frame ∧ frame.seq ≤ state.log.cursorFor frame.stamp.peer
  cells : ∀ key, Summarizes (state.applier.cell key) (writesTo delivered key)

theorem writes_to_append (delivered : List WriteFrame) (frame : WriteFrame) (key : RecordKey) :
    writesTo (delivered ++ [frame]) key =
      if key = recordKey frame then insert frame (writesTo delivered key)
      else writesTo delivered key := by
  ext other
  split_ifs with same
  · simp only [writesTo, List.mem_append, List.mem_singleton, Set.mem_ofPred_eq,
      Set.mem_insert_iff]
    constructor
    · intro member
      rcases member with ⟨old | rfl, keyed⟩
      · exact Or.inr ⟨old, keyed⟩
      · exact Or.inl rfl
    · intro member
      rcases member with rfl | ⟨old, keyed⟩
      · exact ⟨Or.inr rfl, same.symm⟩
      · exact ⟨Or.inl old, keyed⟩
  · simp only [writesTo, List.mem_append, List.mem_singleton, Set.mem_ofPred_eq]
    constructor
    · intro member
      rcases member with ⟨old | rfl, keyed⟩
      · exact ⟨old, keyed⟩
      · exact (same keyed.symm).elim
    · intro member
      rcases member with ⟨old, keyed⟩
      exact ⟨Or.inl old, keyed⟩

/-- The common step of `receive`, `replay` and `local_write`: the next frame of
an origin is recorded and merged. -/
theorem tracks_append (tracks : Tracks logs delivered state) (written : logs.Contains frame)
    (appended : state.log.classify frame = .appended) (log : next.log = (state.log.record frame).1)
    (applier : next.applier = (state.applier.merge frame.intoStamped).1) :
    Tracks logs (delivered ++ [frame]) next := by
  have seq := classify_appended appended
  constructor
  · intro other
    rw [List.mem_append, List.mem_singleton, tracks.recorded other, log,
      record_cursor_appended _ _ appended]
    constructor
    · intro recorded
      rcases recorded with ⟨otherWritten, bound⟩ | rfl
      · exact ⟨otherWritten, by split_ifs <;> omega⟩
      · exact ⟨written, by rw [if_pos rfl, seq]⟩
    · intro recorded
      rcases recorded with ⟨otherWritten, bound⟩
      split_ifs at bound with same
      · by_cases old : other.seq ≤ state.log.cursorFor other.stamp.peer
        · exact Or.inl ⟨otherWritten, old⟩
        · have sameSeq : other.seq = frame.seq := by
            rw [seq, ← same]
            omega
          exact Or.inr (contains_unique otherWritten written same sameSeq)
      · exact Or.inl ⟨otherWritten, bound⟩
  · intro key
    rw [applier, merge_cell, writes_to_append]
    split_ifs with same other
    · apply summarizes_merge (tracks.cells key)
      intro other member tie
      have bound := ((tracks.recorded other).mp member.1).2
      rw [tie] at bound
      omega
    · exact (other same).elim
    · rename_i keyed
      exact (same keyed).elim
    · exact tracks.cells key

theorem tracks_same (tracks : Tracks logs delivered state)
    (cursors : ∀ origin, next.log.cursorFor origin = state.log.cursorFor origin)
    (applier : next.applier = state.applier) : Tracks logs delivered next := by
  constructor
  · intro frame
    rw [cursors]
    exact tracks.recorded frame
  · rw [applier]
    exact tracks.cells

theorem new_tracks (logs : OriginLogs) (selfId : PeerId) (auth : Option FrameAuth) :
    Tracks logs [] { SyncState.new selfId with auth := auth } := by
  constructor
  · intro frame
    have fresh : ({ SyncState.new selfId with auth := auth } : SyncState).log.cursorFor
        frame.stamp.peer = 0 := by
      simp [SyncState.new, ReplLog.new, ReplLog.cursorFor, ReplLog.baseOf, ReplLog.stored]
    constructor
    · intro member
      cases member
    · intro recorded
      rcases recorded with ⟨written, bound⟩
      have positive := (origin_log_get written).1
      omega
  · intro key
    refine Or.inl ⟨?_, new_cell key⟩
    ext frame
    simp [writesTo]

variable (tracks : Tracks logs delivered state)

include tracks

theorem receive_tracks (written : logs.Contains frame) (persisted : Bool) (wallMs : Nat) :
    Tracks logs
      (if (state.receive persisted frame wallMs).2 = .appended then delivered ++ [frame]
        else delivered)
      (state.receive persisted frame wallMs).1 := by
  have log := receive_log state persisted frame wallMs
  have applier := receive_applier state persisted frame wallMs
  by_cases recorded : (state.receive persisted frame wallMs).2 = .appended
  · rw [if_pos recorded]
    rw [receive_appended_iff] at recorded
    rw [if_pos recorded.1] at log
    rw [if_pos recorded] at applier
    exact tracks_append tracks written recorded.2 log applier
  · rw [if_neg recorded]
    rw [receive_appended_iff] at recorded
    rw [if_neg recorded] at applier
    apply tracks_same tracks _ applier
    intro origin
    rw [log]
    split_ifs with accepted
    · rw [record_unchanged _ _ (fun appended => recorded ⟨accepted, appended⟩)]
    · rfl

theorem replay_tracks (written : logs.Contains frame) :
    Tracks logs
      (if (state.log.record frame).2 = .appended then delivered ++ [frame] else delivered)
      (state.replay frame) := by
  rw [record_outcome]
  have applier := replay_applier state frame
  split_ifs at applier ⊢ with appended
  · exact tracks_append tracks written appended rfl applier
  · apply tracks_same tracks _ applier
    intro origin
    rw [replay_log, record_unchanged _ _ appended]

theorem local_write_tracks {persisted : Bool} {wallMs : Nat} {op : Op} {entity id : String}
    {data : List UInt8}
    (returned : state.localWrite persisted wallMs op entity id data = (next, .ok frame))
    (written : logs.Contains frame) : Tracks logs (delivered ++ [frame]) next := by
  obtain ⟨-, -, peer, seq, after⟩ := local_write_ok returned
  have appended : state.log.classify frame = .appended := by
    rw [← peer] at seq
    simp [ReplLog.classify, seq]
  subst after
  exact tracks_append tracks written appended rfl rfl

theorem collect_tracks (entity id : String) :
    Tracks logs delivered (state.collectTombstone entity id).1 := by
  refine ⟨tracks.recorded, ?_⟩
  intro key
  change Summarizes ((state.applier.collectTombstone entity id).1.cell key) _
  rw [collect_cell]
  split_ifs with same
  · cases collected : (state.applier.cell key).collect with
    | none => exact tracks.cells key
    | some next => exact summarizes_collect (tracks.cells key) collected
  · exact tracks.cells key

theorem reclaim_tracks (origins members : List PeerId) :
    Tracks logs delivered (state.reclaim origins members).1 := by
  obtain ⟨-, -, applier, -, cursors⟩ := reclaim_frame state origins members
  exact tracks_same tracks cursors applier

omit tracks

theorem reaches_tracks (run : Reaches logs delivered state) : Tracks logs delivered state := by
  induction run with
  | start selfId auth => exact new_tracks logs selfId auth
  | receive prior frame written persisted wallMs ih =>
    exact receive_tracks ih written persisted wallMs
  | replay prior frame written ih => exact replay_tracks ih written
  | localWrite prior returned written ih => exact local_write_tracks ih returned written
  | refusedWrite prior returned ih =>
    rcases local_write_error returned with rfl | rfl
    · exact ih
    · exact tracks_same ih (fun _ => rfl) rfl
  | collectTombstone prior entity id ih => exact collect_tracks ih entity id
  | notePeerCursors prior peer cursors ih => exact tracks_same ih (fun _ => rfl) rfl
  | reclaim prior origins members ih => exact reclaim_tracks ih origins members

def ShowsLatest (writes : Set WriteFrame) (shown : Option StampedWrite) : Prop :=
  (writes = ∅ ∧ shown = none) ∨
    ∃ frame, IsLatest rank writes frame ∧
      shown = if frame.op.isDelete then none else some frame.intoStamped

theorem stands_for_shown (standing : StandsFor cell frame) :
    cell.shown = if frame.op.isDelete then none else some frame.intoStamped := by
  rcases standing with held | ⟨empty, -, tombstone⟩
  · simp only [Cell.shown, held]
    rfl
  · simp [Cell.shown, empty, tombstone]

theorem stands_for_admits (standing : StandsFor cell frame) (stamp : Stamp) :
    cell.admits stamp = true ↔ frame.stamp < stamp := by
  rw [admits_iff]
  rcases standing with held | ⟨empty, floor, -⟩
  · constructor
    · intro above
      exact above.2 frame.intoStamped held
    · intro above
      constructor
      · intro lower isFloor
        exact (cell.floorBelow _ held lower isFloor).trans above
      · intro current isCurrent
        rw [held] at isCurrent
        cases isCurrent
        exact above
  · simp [empty, floor]

theorem summarizes_shows (summary : Summarizes cell writes) : ShowsLatest writes cell.shown := by
  rcases summary with ⟨none, rfl⟩ | ⟨latest, isLatest, standing⟩
  · exact Or.inl ⟨none, rfl⟩
  · exact Or.inr ⟨latest, isLatest, stands_for_shown standing⟩

theorem summarizes_admits (summary : Summarizes cell writes) {stamp : Stamp}
    (admitted : cell.admits stamp = true) (written : frame ∈ writes) : frame.stamp < stamp := by
  rcases summary with ⟨none, -⟩ | ⟨latest, isLatest, standing⟩
  · rw [none] at written
    exact written.elim
  · have above := (stands_for_admits standing stamp).mp admitted
    rcases (rank_le_iff frame latest).mp (isLatest.2 frame written) with lower | ⟨same, -⟩
    · exact lower.trans above
    · rw [same]
      exact above

theorem shows_latest_unique (written : ∀ frame ∈ writes, logs.Contains frame)
    {left right : Option StampedWrite} (leftShows : ShowsLatest writes left)
    (rightShows : ShowsLatest writes right) :
    left = right := by
  rcases leftShows with ⟨none, leftNone⟩ | ⟨latest, isLatest, leftSame⟩
  · rcases rightShows with ⟨-, rightNone⟩ | ⟨other, otherLatest, -⟩
    · rw [leftNone, rightNone]
    · rw [none] at otherLatest
      exact otherLatest.1.elim
  · rcases rightShows with ⟨none, -⟩ | ⟨other, otherLatest, rightSame⟩
    · rw [none] at isLatest
      exact isLatest.1.elim
    · have distinct := (rank_injective_on logs).mono written
      rw [leftSame, rightSame, latest_unique distinct isLatest otherLatest]

variable (leftTracks : Tracks logs leftDelivered left)
  (rightTracks : Tracks logs rightDelivered right)
  (cursors : ∀ origin, left.log.cursorFor origin = right.log.cursorFor origin) (key : RecordKey)

include leftTracks rightTracks cursors key

theorem same_cursors_same_writes :
    writesTo leftDelivered key = writesTo rightDelivered key := by
  ext frame
  simp only [writesTo, Set.mem_ofPred_eq, leftTracks.recorded, rightTracks.recorded, cursors]

theorem same_cursors_same_shown :
    (left.applier.cell key).shown = (right.applier.cell key).shown := by
  have leftShows := summarizes_shows (leftTracks.cells key)
  have rightShows := summarizes_shows (rightTracks.cells key)
  rw [← same_cursors_same_writes leftTracks rightTracks cursors key] at rightShows
  have written : ∀ frame ∈ writesTo leftDelivered key, logs.Contains frame := by
    intro frame member
    exact ((leftTracks.recorded frame).mp member.1).1
  exact shows_latest_unique written leftShows rightShows

omit leftTracks rightTracks cursors key

/-- Convergence: two nodes that have run over the same per-origin logs, in any
order and with any collection and reclamation, and whose cursors agree, show the
same value of every record, and that value is the one of the latest write
delivered to the record. -/
theorem equal_cursors_converge (logs : OriginLogs)
    {leftDelivered rightDelivered : List WriteFrame} {left right : SyncState}
    (leftRun : Reaches logs leftDelivered left) (rightRun : Reaches logs rightDelivered right)
    (cursors : ∀ origin, left.log.cursorFor origin = right.log.cursorFor origin)
    (entity id : String) :
    left.visible entity id = right.visible entity id ∧
      ((writesTo leftDelivered (entity, id) = ∅ ∧ left.visible entity id = none) ∨
        ∃ latest, IsLatest rank (writesTo leftDelivered (entity, id)) latest ∧
          left.visible entity id = if latest.op.isDelete then none else some latest.data) := by
  have leftTracks := reaches_tracks leftRun
  have rightTracks := reaches_tracks rightRun
  simp only [SyncState.visible, visible_eq_shown]
  constructor
  · rw [same_cursors_same_shown leftTracks rightTracks cursors]
  · rcases summarizes_shows (leftTracks.cells (entity, id)) with
      ⟨none, shown⟩ | ⟨latest, isLatest, shown⟩
    · exact Or.inl ⟨none, by rw [shown]; rfl⟩
    · refine Or.inr ⟨latest, isLatest, ?_⟩
      rw [shown]
      split_ifs <;> rfl

def sampleFrame (origin : UInt8) (wallMs : Nat) (op : Op) (data : List UInt8) : WriteFrame where
  stamp := ⟨⟨wallMs, 0⟩, peerNumber origin⟩
  seq := 1
  op := op
  entity := "task"
  id := "t1"
  data := data
  signature := none

def firstFrames (left right : WriteFrame) (leftSeq : left.seq = 1) (rightSeq : right.seq = 1) :
    OriginLogs where
  frames origin :=
    if origin = left.stamp.peer then [left]
    else if origin = right.stamp.peer then [right]
    else []
  numbered := by
    intro origin index frame found
    split_ifs at found with first second
    · rw [List.getElem?_singleton] at found
      split_ifs at found with zero
      obtain rfl := Option.some.inj found
      exact ⟨first.symm, by rw [zero, leftSeq]⟩
    · rw [List.getElem?_singleton] at found
      split_ifs at found with zero
      obtain rfl := Option.some.inj found
      exact ⟨second.symm, by rw [zero, rightSeq]⟩
    · simp at found

def sampleLogs : OriginLogs :=
  firstFrames (sampleFrame 1 1 .insert [7]) (sampleFrame 2 2 .delete []) rfl rfl

def insertFirst : SyncState :=
  ((SyncState.new (peerNumber 3)).receive true (sampleFrame 1 1 .insert [7]) 5).1

def insertThenDelete : SyncState :=
  (insertFirst.receive true (sampleFrame 2 2 .delete []) 6).1

def deleteCollectedThenInsert : SyncState :=
  let deleted := ((SyncState.new (peerNumber 3)).receive true (sampleFrame 2 2 .delete []) 5).1
  ((deleted.collectTombstone "task" "t1").1.receive true (sampleFrame 1 1 .insert [7]) 6).1

theorem insert_and_collected_delete_converge :
    insertFirst.visible "task" "t1" = some [7] ∧
      insertThenDelete.visible "task" "t1" = deleteCollectedThenInsert.visible "task" "t1" := by
  have insertWritten : sampleLogs.Contains (sampleFrame 1 1 .insert [7]) := by decide
  have deleteWritten : sampleLogs.Contains (sampleFrame 2 2 .delete []) := by decide
  have start : Reaches sampleLogs [] (SyncState.new (peerNumber 3)) := .start (peerNumber 3) none
  have insertRun := start.receive _ insertWritten true 5
  have deleteRun := start.receive _ deleteWritten true 5
  have leftRun := insertRun.receive _ deleteWritten true 6
  have rightRun := (deleteRun.collectTombstone "task" "t1").receive _ insertWritten true 6
  have observed : insertThenDelete.log.observed = deleteCollectedThenInsert.log.observed := by
    decide
  have base : insertThenDelete.log.base = deleteCollectedThenInsert.log.base := by decide
  have cursors := cursor_for_congr observed base
  exact ⟨by decide, (equal_cursors_converge sampleLogs leftRun rightRun cursors "task" "t1").1⟩

end Stitch.P2P.Convergence
