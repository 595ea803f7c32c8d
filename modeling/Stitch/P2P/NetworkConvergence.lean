import Stitch.P2P.Convergence
import Stitch.P2P.Network
import Stitch.P2P.PairExchange

/-!
# Convergence of the network

What a node of the network shows is a function of the histories the origins wrote and of the
node's cursors. One `Hello` between two members levels their cursors, and so their records.
-/

namespace Stitch.P2P.NetworkConvergence

open Foundation.Ending Foundation.FiniteMap Foundation.Latest Foundation.Segment HybridClock
open LastWriterWins WireFormat ReplicationLog NodeState MessageFormat SessionLoop DeltaExchange
open Convergence Network CatchUp PairExchange

/-- The frames of the histories, up to the cursors, that write the record. -/
def writtenTo (written : PeerId → List WriteFrame) (cursors : PeerId → Nat) (key : RecordKey) :
    Set WriteFrame :=
  {frame | frame ∈ written frame.stamp.peer ∧ frame.seq ≤ cursors frame.stamp.peer ∧
    recordKey frame = key}

/-- The node shows the latest write of every record, or nothing when that is a delete. -/
def ShowsWritten (written : PeerId → List WriteFrame) (cursors : PeerId → Nat)
    (state : SyncState) : Prop :=
  ∀ entity id, (writtenTo written cursors (entity, id) = ∅ ∧ state.visible entity id = none) ∨
    ∃ latest, IsLatest rank (writtenTo written cursors (entity, id)) latest ∧
      state.visible entity id = if latest.op.isDelete then none else some latest.data

/-- The node stores a part of the history, and its cells summarize what it has recorded. -/
structure Recorded (logs : OriginLogs) (state : SyncState) : Prop where
  holds : state.log.Holds logs
  tracks : ∃ delivered, Tracks logs delivered state

section

variable {logs extended : OriginLogs} {state left right : SyncState} {delivered : List WriteFrame}

theorem tracks_shows (tracks : Tracks logs delivered state) :
    ShowsWritten logs.frames state.log.cursorFor state := by
  intro entity id
  have writes : writesTo delivered (entity, id) =
      writtenTo logs.frames state.log.cursorFor (entity, id) := by
    ext frame
    simp only [writesTo, writtenTo, Set.mem_ofPred_eq, tracks.recorded, OriginLogs.Contains,
      and_assoc]
  have shows := summarizes_shows (tracks.cells (entity, id))
  rw [writes] at shows
  simp only [SyncState.visible, visible_eq_shown]
  rcases shows with ⟨none, shown⟩ | ⟨latest, isLatest, shown⟩
  · exact Or.inl ⟨none, by rw [shown]; rfl⟩
  · refine Or.inr ⟨latest, isLatest, ?_⟩
    rw [shown]
    split_ifs <;> rfl

theorem recorded_same_visible (leftRecorded : Recorded logs left)
    (rightRecorded : Recorded logs right)
    (cursors : ∀ origin, left.log.cursorFor origin = right.log.cursorFor origin)
    (entity id : String) : left.visible entity id = right.visible entity id := by
  obtain ⟨_, leftTracks⟩ := leftRecorded.tracks
  obtain ⟨_, rightTracks⟩ := rightRecorded.tracks
  simp only [SyncState.visible, visible_eq_shown]
  rw [same_cursors_same_shown leftTracks rightTracks cursors]

/-- A history that goes on does not change what a node has recorded of it. -/
theorem recorded_grown (grown : ∀ origin, logs.frames origin <+: extended.frames origin)
    (recorded : Recorded logs state) : Recorded extended state := by
  obtain ⟨delivered, tracks⟩ := recorded.tracks
  refine ⟨?_, delivered, ?_, tracks.cells⟩
  · intro origin
    obtain ⟨bound, run⟩ := recorded.holds origin
    obtain ⟨more, same⟩ := grown origin
    rw [← same, segment_append more _ bound, List.length_append]
    exact ⟨by omega, run⟩
  · intro frame
    rw [tracks.recorded]
    constructor
    · intro old
      exact ⟨(grown _).subset old.1, old.2⟩
    · intro new
      refine ⟨?_, new.2⟩
      obtain ⟨positive, found⟩ := origin_log_get new.1
      have bound := (recorded.holds frame.stamp.peer).1
      have inside : frame.seq - 1 < (logs.frames frame.stamp.peer).length := by omega
      rw [List.prefix_iff_getElem?.mp (grown frame.stamp.peer) _ inside] at found
      exact List.mem_of_getElem (Option.some.inj found)

theorem receive_recorded (recorded : Recorded logs state) {frame : WriteFrame}
    (written : logs.Contains frame) (persisted : Bool) (wallMs : Nat) :
    Recorded logs (state.receive persisted frame wallMs).1 := by
  obtain ⟨_, tracks⟩ := recorded.tracks
  refine ⟨?_, _, receive_tracks tracks written persisted wallMs⟩
  rw [receive_log]
  split_ifs
  · exact holds_record recorded.holds written
  · exact recorded.holds

theorem apply_frames_recorded {frames : List WriteFrame}
    (written : ∀ frame ∈ frames, logs.Contains frame) (persists : Nat → Bool) (wallMs : Nat)
    (recorded : Recorded logs state) :
    Recorded logs (applyFrames wallMs persists state frames) := by
  refine apply_frames_induction (Recorded logs) ?_ persists state recorded
  intro current persisted frame member kept
  exact receive_recorded kept (written frame member) persisted wallMs

theorem recorded_same (recorded : Recorded logs left) (log : right.log = left.log)
    (applier : right.applier = left.applier) : Recorded logs right := by
  obtain ⟨_, tracks⟩ := recorded.tracks
  refine ⟨?_, _, tracks_same tracks (fun _ => by rw [log]) applier⟩
  rw [log]
  exact recorded.holds

variable {world next : World} {members : List PeerId} {mayList : List PeerId → Prop}

theorem after_written_prefix (world : World) (actor : PeerId) (state : SyncState)
    (wrote : List WriteFrame) (sent : List (PeerId × SyncMessage)) (origin : PeerId) :
    world.written origin <+: (world.after actor state wrote sent).written origin := by
  by_cases same : origin = actor
  · rw [same, after_written_self]
    exact List.prefix_append _ _
  · rw [after_written_other _ _ _ _ _ same]

theorem step_written (taken : Step members mayList world next) (origin : PeerId) :
    world.written origin <+: next.written origin := by
  cases taken <;> exact after_written_prefix _ _ _ _ _ _

theorem after_recorded {actor : PeerId} {state : SyncState} {wrote : List WriteFrame}
    {sent : List (PeerId × SyncMessage)} (before : ∀ id, Recorded logs (world.node id))
    (kept : Recorded logs state) :
    ∀ id, Recorded logs ((world.after actor state wrote sent).node id) :=
  after_node_forall _ _ _ _ _ (fun _ node => Recorded logs node) before kept

theorem step_recorded (consistent : Consistent world logs)
    (recorded : ∀ id, Recorded logs (world.node id)) (taken : Step members mayList world next) :
    ∃ extended, Consistent next extended ∧ ∀ id, Recorded extended (next.node id) := by
  obtain ⟨extended, later⟩ := step_consistent consistent taken
  have grown : ∀ origin, logs.frames origin <+: extended.frames origin := by
    intro origin
    rw [← consistent.written, ← later.written]
    exact step_written taken origin
  have before := fun id => recorded_grown grown (recorded id)
  refine ⟨extended, later, ?_⟩
  cases taken with
  | localWrite member returned pushedTo =>
    rename_i actor state frame _ _ _ _ _ _
    have history := later.written actor
    have holds := later.holds actor
    rw [after_written_self] at history
    rw [after_node_self] at holds
    refine after_recorded before ⟨holds, ?_⟩
    obtain ⟨_, tracks⟩ := (before actor).tracks
    refine ⟨_, local_write_tracks tracks returned ?_⟩
    have author := (local_write_ok returned).2.2.1
    rw [OriginLogs.Contains, author, consistent.identity, ← history]
    exact List.mem_append_right _ List.mem_cons_self
  | refusedWrite member returned =>
    refine after_recorded before ?_
    rcases local_write_error returned with rfl | rfl
    · exact before _
    · exact recorded_same (before _) rfl rfl
  | sendHello member peer =>
    exact after_recorded before (before _)
  | receiveHello member sent visits =>
    exact after_recorded before (recorded_same (before _) rfl rfl)
  | receiveDelta member sent persists wallMs =>
    refine after_recorded before ?_
    have written := later.genuine _ _ (List.mem_append_left _ sent)
    exact apply_frames_recorded written persists wallMs (before _)
  | reclaim member visits allowed =>
    rename_i actor origins listed
    obtain ⟨_, tracks⟩ := (before actor).tracks
    exact after_recorded before
      ⟨reclaim_holds (before actor).holds origins listed, _, reclaim_tracks tracks origins listed⟩
  | collectTombstone member entity id =>
    rename_i actor
    obtain ⟨_, tracks⟩ := (before actor).tracks
    exact after_recorded before
      ⟨(before actor).holds, _, collect_tracks tracks entity id⟩

theorem reachable_recorded {auth : PeerId → Option FrameAuth}
    (run : Reachable members mayList auth world) :
    ∃ logs, Consistent world logs ∧ ∀ id, Recorded logs (world.node id) := by
  induction run with
  | start =>
    have consistent := start_consistent auth
    exact ⟨_, consistent, fun id => ⟨consistent.holds id, _, new_tracks _ id (auth id)⟩⟩
  | step prior taken ih =>
    obtain ⟨logs, consistent, recorded⟩ := ih
    exact step_recorded consistent recorded taken

/-- What a node of the network shows depends on its cursors and on the histories only: it is
the latest write of each record up to the cursors, so nodes with equal cursors show the same. -/
theorem nodes_show_written {auth : PeerId → Option FrameAuth}
    (run : Reachable members mayList auth world) (node : PeerId) :
    ShowsWritten world.written (world.node node).log.cursorFor (world.node node) ∧
      ∀ other, (∀ origin, (world.node node).log.cursorFor origin =
          (world.node other).log.cursorFor origin) →
        ∀ entity id, (world.node node).visible entity id = (world.node other).visible entity id := by
  obtain ⟨logs, consistent, recorded⟩ := reachable_recorded run
  obtain ⟨_, tracks⟩ := (recorded node).tracks
  rw [funext consistent.written]
  exact ⟨tracks_shows tracks, fun other => recorded_same_visible (recorded node) (recorded other)⟩

theorem delivered_nodes_show_same :
    (deliveredWorld.node (peerNumber 2)).visible "task" "t1" = some [7] ∧
      (deliveredWorld.node (peerNumber 1)).visible "task" "t1" =
        (deliveredWorld.node (peerNumber 2)).visible "task" "t1" := by
  have observed : (deliveredWorld.node (peerNumber 1)).log.observed =
      (deliveredWorld.node (peerNumber 2)).log.observed := by decide
  have base : (deliveredWorld.node (peerNumber 1)).log.base =
      (deliveredWorld.node (peerNumber 2)).log.base := by decide
  have shows := nodes_show_written (delivered_world_reachable fun _ => True) (peerNumber 1)
  exact ⟨by decide, shows.2 (peerNumber 2) (cursor_for_congr observed base) "task" "t1"⟩

variable {lowStores highStores : WriteFrame → Bool}

/-- A `Delta` carries frames of the histories. -/
def Genuine (logs : OriginLogs) : SyncMessage → Prop
  | .hello _ _ => True
  | .delta frames => ∀ frame ∈ frames, logs.Contains frame

theorem handle_recorded (stores : WriteFrame → Bool) {order : List PeerId} {state : SyncState}
    {message : SyncMessage} (visits : Visits order state.log.observed) (wallMs : Nat)
    (recorded : Recorded logs state) (genuine : Genuine logs message) :
    Recorded logs (handle stores order wallMs state message).1 ∧
      ∀ reply ∈ (handle stores order wallMs state message).2, Genuine logs reply := by
  cases message with
  | hello sender cursors =>
    refine ⟨recorded_same recorded rfl rfl, ?_⟩
    intro reply sent
    rcases mem_on_hello sent with delta | hello
    · rw [delta]
      intro frame inside
      have held := ((mem_delta_since _ visits cursors frame).mp inside).1
      exact holds_stored_contains recorded.holds held
    · rw [hello]
      trivial
  | delta frames =>
    exact ⟨apply_frames_recorded genuine _ wallMs recorded, List.forall_mem_nil _⟩

structure PairRecorded (logs : OriginLogs) (pair : Pair) : Prop where
  low : Recorded logs pair.low
  high : Recorded logs pair.high
  genuine : ∀ message ∈ pair.toHigh ++ pair.toLow, Genuine logs message

theorem deliver_recorded (pair next : Pair) (recorded : PairRecorded logs pair)
    (delivered : Deliver lowStores highStores pair next) : PairRecorded logs next := by
  have genuine := recorded.genuine
  cases delivered with
  | atHigh _ visits wallMs =>
    simp only [List.cons_append, List.forall_mem_cons] at genuine
    have handled := handle_recorded highStores visits wallMs recorded.high genuine.1
    refine ⟨recorded.low, handled.1, ?_⟩
    rw [← List.append_assoc]
    exact List.forall_mem_append.mpr ⟨genuine.2, handled.2⟩
  | atLow _ visits wallMs =>
    simp only [List.forall_mem_append, List.forall_mem_cons] at genuine
    have handled := handle_recorded lowStores visits wallMs recorded.low genuine.2.1
    refine ⟨handled.1, recorded.high, ?_⟩
    simp only [List.forall_mem_append]
    exact ⟨⟨genuine.1, handled.2⟩, genuine.2.2⟩
  | cutAtHigh | cutAtLow => exact ⟨recorded.low, recorded.high, List.forall_mem_nil _⟩

/-- The exchange is over, and both peers show the latest writes up to the cursors. -/
def ShowAlike (written : PeerId → List WriteFrame) (cursors : PeerId → Nat) (pair : Pair) : Prop :=
  Quiescent pair ∧ (∀ entity id, pair.low.visible entity id = pair.high.visible entity id) ∧
    ShowsWritten written cursors pair.low

/-- Two members that accept each other's frames and can carry them show the same records after one
`Hello` of the lower one and the messages that follow: the latest of what either had recorded. -/
theorem one_hello_same_records {members : List PeerId} {auth : PeerId → Option FrameAuth}
    {world : World} {low high : PeerId}
    (run : Reachable members (fun listed => ∀ member ∈ members, member ∈ listed) auth world)
    (lowMember : low ∈ members) (highMember : high ∈ members) (lower : low < high)
    (lowAccepts : ∀ origin, ∀ frame ∈ (world.node high).log.stored origin,
      (world.node low).accepts (lowStores frame) frame = true)
    (highAccepts : ∀ origin, ∀ frame ∈ (world.node low).log.stored origin,
      (world.node high).accepts (highStores frame) frame = true)
    (carried : Carried (world.node low) (world.node high)) :
    EndsWithin (Deliver lowStores highStores)
      (ShowAlike world.written (fun origin => max ((world.node low).log.cursorFor origin)
        ((world.node high).log.cursorFor origin)))
      4 (Pair.lowStarts (world.node low) (world.node high)) := by
  obtain ⟨logs, consistent, recorded⟩ := reachable_recorded run
  have covered := reachable_covered run
  have toLow := supplies_of_accepted (covered.bases high low lowMember) lowAccepts
  have toHigh := supplies_of_accepted (covered.bases low high highMember) highAccepts
  have start : PairRecorded logs (Pair.lowStarts (world.node low) (world.node high)) := by
    refine ⟨recorded low, recorded high, ?_⟩
    intro message sent
    rw [List.mem_singleton.mp sent]
    trivial
  have ids : (world.node low).selfId < (world.node high).selfId := by
    rw [consistent.identity, consistent.identity]
    exact lower
  refine ends_within_imp (ends_within_keeps deliver_recorded start (supplied_ends ids toLow)) ?_
  intro pair reached
  obtain ⟨⟨quiet, cursors⟩, kept⟩ := reached
  obtain ⟨lowCursors, highCursors⟩ := cursors carried
  obtain ⟨_, tracks⟩ := kept.low.tracks
  have shows := tracks_shows tracks
  rw [funext lowCursors, ← funext consistent.written] at shows
  refine ⟨quiet, recorded_same_visible kept.low kept.high ?_, shows⟩
  intro origin
  rw [lowCursors, highCursors toHigh]

/-- The write of peer 1 is still on its way to peer 2. -/
theorem pushed_write_levels :
    EndsWithin (Deliver (fun _ => true) (fun _ => true))
      (ShowAlike pushedWorld.written (fun origin =>
        max ((pushedWorld.node (peerNumber 1)).log.cursorFor origin)
          ((pushedWorld.node (peerNumber 2)).log.cursorFor origin)))
      4 (Pair.lowStarts (pushedWorld.node (peerNumber 1)) (pushedWorld.node (peerNumber 2))) := by
  have write : ((World.start fun _ => none).node (peerNumber 1)).localWrite true 1 .insert
      "task" "t1" [7] = (firstState [7], .ok (firstWrite [7])) := rfl
  have pushed : Reachable [peerNumber 1, peerNumber 2]
      (fun listed => ∀ member ∈ [peerNumber 1, peerNumber 2], member ∈ listed) (fun _ => none)
      pushedWorld := .step .start (.localWrite (by decide) write [peerNumber 2])
  exact one_hello_same_records pushed (by decide) (by decide) (by decide) (fun _ _ _ => rfl)
    (fun _ _ _ => rfl) (Or.inr ⟨by decide, by decide, fun _ => by decide⟩)

end

end Stitch.P2P.NetworkConvergence
