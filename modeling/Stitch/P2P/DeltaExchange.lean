import Stitch.Foundation.InOrder
import Stitch.P2P.SessionLoop

/-!
# What a delta does to its receiver

The frames `delta_since` selects, origin by origin, and the cursors of a node
that applies them.
-/

namespace Stitch.P2P.DeltaExchange

open Foundation.FiniteMap Foundation.InOrder HybridClock WireFormat ReplicationLog NodeState
open SessionLoop

section

variable (log : ReplLog) (origin : PeerId)

theorem stored_seqs :
    (log.stored origin).map WriteFrame.seq =
      List.range' (log.baseOf origin + 1) (log.stored origin).length := by
  apply List.ext_getElem
  · simp
  · intro index inside _
    rw [List.length_map] at inside
    have seq := (log.inOrder origin index _ (List.getElem?_eq_getElem inside)).2
    rw [List.getElem_map, List.getElem_range']
    refine seq.trans ?_
    change log.baseOf origin + index + 1 = _
    omega

variable {frame : WriteFrame}

theorem stored_seq_bounds (held : frame ∈ log.stored origin) :
    log.baseOf origin < frame.seq ∧ frame.seq ≤ log.cursorFor origin := by
  have seq := List.mem_map_of_mem (f := WriteFrame.seq) held
  rw [stored_seqs, List.mem_range'_1] at seq
  unfold ReplLog.cursorFor
  omega

theorem missing_seqs (cursor : Nat) :
    (log.missingFrom origin cursor).map WriteFrame.seq =
      List.range' (max (log.baseOf origin) (min cursor (log.cursorFor origin)) + 1)
        (log.cursorFor origin - max (log.baseOf origin) (min cursor (log.cursorFor origin))) := by
  simp only [ReplLog.missingFrom, List.map_drop, stored_seqs, List.drop_range']
  unfold ReplLog.cursorFor
  congr 1 <;> omega

theorem mem_missing_from (cursor : Nat) (frame : WriteFrame) :
    frame ∈ log.missingFrom origin cursor ↔
      frame ∈ log.stored origin ∧ cursor < frame.seq := by
  constructor
  · intro member
    have held : frame ∈ log.stored origin := List.mem_of_mem_drop member
    have seq := List.mem_map_of_mem (f := WriteFrame.seq) member
    rw [missing_seqs, List.mem_range'_1] at seq
    exact ⟨held, by omega⟩
  · intro lacked
    rcases lacked with ⟨held, later⟩
    obtain ⟨index, found⟩ := List.mem_iff_getElem?.mp held
    have seq : frame.seq = log.baseOf origin + index + 1 :=
      (log.inOrder origin index frame found).2
    rw [List.mem_iff_getElem?]
    refine ⟨index - min (cursor - log.baseOf origin) (log.stored origin).length, ?_⟩
    have position : min (cursor - log.baseOf origin) (log.stored origin).length +
        (index - min (cursor - log.baseOf origin) (log.stored origin).length) = index := by
      omega
    rw [ReplLog.missingFrom, List.getElem?_drop, position, found]

theorem mem_delta_since {order : List PeerId} (visits : Visits order log.observed)
    (their : Cursors) (frame : WriteFrame) :
    frame ∈ log.deltaSince order their ↔
      frame ∈ log.stored frame.stamp.peer ∧ getOr their frame.stamp.peer 0 < frame.seq := by
  simp only [ReplLog.deltaSince, List.mem_flatMap, mem_missing_from]
  constructor
  · intro lacked
    rcases lacked with ⟨origin, -, held, later⟩
    rw [stored_peer held]
    exact ⟨held, later⟩
  · intro lacked
    rcases lacked with ⟨held, later⟩
    refine ⟨frame.stamp.peer, ?_, held, later⟩
    rw [visits.2]
    by_contra absent
    rw [stored_of_lookup_none (Finmap.lookup_eq_none.mpr absent)] at held
    cases held

theorem delta_since_filter {order : List PeerId} (visits : Visits order log.observed)
    (their : Cursors) :
    (log.deltaSince order their).filter (fun frame => frame.stamp.peer = origin) =
      log.missingFrom origin (getOr their origin 0) := by
  have block : ∀ other, (log.missingFrom other (getOr their other 0)).filter
      (fun frame => frame.stamp.peer = origin) =
        if other = origin then log.missingFrom origin (getOr their origin 0) else [] := by
    intro other
    have peers : ∀ frame ∈ log.missingFrom other (getOr their other 0),
        frame.stamp.peer = other := by
      intro frame member
      exact stored_peer ((mem_missing_from log other _ frame).mp member).1
    split_ifs with same
    · subst same
      rw [List.filter_eq_self]
      intro frame member
      exact decide_eq_true (peers frame member)
    · rw [List.filter_eq_nil_iff]
      intro frame member
      rw [peers frame member]
      simp [same]
  rw [ReplLog.deltaSince, List.filter_flatMap]
  simp only [block]
  rw [flatMap_at_key visits.1]
  split_ifs with visited
  · rfl
  · rw [visits.2, ← Finmap.lookup_eq_none] at visited
    simp [ReplLog.missingFrom, stored_of_lookup_none visited]

end

section

theorem accepts_congr {left right : SyncState} (auth : left.auth = right.auth)
    (persisted : Bool) (frame : WriteFrame) :
    left.accepts persisted frame = right.accepts persisted frame := by
  simp only [SyncState.accepts, SyncState.refuses, auth]

theorem receive_cursor (state : SyncState) (persisted : Bool) (frame : WriteFrame)
    (wallMs : Nat) (origin : PeerId) :
    (state.receive persisted frame wallMs).1.log.cursorFor origin =
      if state.accepts persisted frame ∧ frame.stamp.peer = origin then
        advance (state.log.cursorFor origin) frame.seq
      else state.log.cursorFor origin := by
  rw [receive_log]
  by_cases accepted : state.accepts persisted frame = true
  · simp only [accepted, if_true, true_and]
    by_cases appended : state.log.classify frame = .appended
    · have seq := classify_appended appended
      rw [record_cursor_appended _ _ appended]
      by_cases same : frame.stamp.peer = origin
      · subst same
        simp [advance, seq]
      · simp [same, Ne.symm same]
    · rw [record_unchanged _ _ appended]
      split_ifs with same
      · subst same
        have other : frame.seq ≠ state.log.cursorFor frame.stamp.peer + 1 := by
          intro next
          exact appended (by simp [ReplLog.classify, next])
        rw [advance, if_neg other]
      · rfl
  · simp [accepted]

theorem apply_frames_cursor_mono (wallMs : Nat) (persists : Nat → Bool) (state : SyncState)
    (frames : List WriteFrame) (origin : PeerId) :
    state.log.cursorFor origin ≤
      (applyFrames wallMs persists state frames).log.cursorFor origin := by
  apply apply_frames_induction
    fun after => state.log.cursorFor origin ≤ after.log.cursorFor origin
  · intro current persisted frame _ kept
    rw [receive_cursor]
    split_ifs
    · exact kept.trans (advance_mono _ _)
    · exact kept
  · exact Nat.le_refl _

theorem apply_frames_base_of (wallMs : Nat) (persists : Nat → Bool) (state : SyncState)
    (frames : List WriteFrame) (origin : PeerId) :
    (applyFrames wallMs persists state frames).log.baseOf origin = state.log.baseOf origin := by
  apply apply_frames_induction
    fun after => after.log.baseOf origin = state.log.baseOf origin
  · intro current persisted frame _ kept
    rw [receive_log]
    split_ifs
    · rw [record_base_of, kept]
    · exact kept
  · rfl

/-- The node accepts every frame of one origin in a list, given the persister's
answers. -/
def AcceptsFrom (state : SyncState) (persists : Nat → Bool) (origin : PeerId)
    (frames : List WriteFrame) : Prop :=
  ∀ index frame, frames[index]? = some frame → frame.stamp.peer = origin →
    state.accepts (persists index) frame = true

theorem accepts_from_cons {state : SyncState} {persists : Nat → Bool} {origin : PeerId}
    {frame : WriteFrame} {frames : List WriteFrame}
    (accepted : AcceptsFrom state persists origin (frame :: frames)) (wallMs : Nat) :
    AcceptsFrom (state.receive (persists 0) frame wallMs).1
      (fun index => persists (index + 1)) origin frames := by
  intro index other found peer
  rw [accepts_congr (receive_frame state (persists 0) frame wallMs).2.1]
  exact accepted (index + 1) other found peer

theorem apply_frames_cursor (wallMs : Nat) (persists : Nat → Bool) (state : SyncState)
    (origin : PeerId) (frames : List WriteFrame)
    (accepted : AcceptsFrom state persists origin frames) :
    (applyFrames wallMs persists state frames).log.cursorFor origin =
      ((frames.filter (fun frame => frame.stamp.peer = origin)).map WriteFrame.seq).foldl
        advance (state.log.cursorFor origin) := by
  induction frames generalizing persists state with
  | nil => rfl
  | cons frame frames ih =>
    rw [applyFrames, ih _ _ (accepts_from_cons accepted wallMs), receive_cursor]
    by_cases same : frame.stamp.peer = origin
    · simp [accepted 0 frame rfl same, same]
    · simp [same]

section

variable (wallMs : Nat) (persists : Nat → Bool) (state : SyncState) {log : ReplLog}
  {order : List PeerId} (visits : Visits order log.observed)

include visits

theorem apply_delta_cursor {origin : PeerId}
    (accepted : AcceptsFrom state persists origin (log.deltaSince order state.cursors))
    (served : log.baseOf origin ≤ state.log.cursorFor origin) :
    (applyFrames wallMs persists state (log.deltaSince order state.cursors)).log.cursorFor
      origin = max (state.log.cursorFor origin) (log.cursorFor origin) := by
  rw [apply_frames_cursor _ _ _ _ _ accepted, delta_since_filter log origin visits,
    missing_seqs, SyncState.cursors, getOr_cursors, advance_consecutive _ (by omega)]
  omega

theorem delta_frame_in_reach {before after : List WriteFrame} {frame : WriteFrame}
    (split : log.deltaSince order state.cursors = before ++ frame :: after)
    (accepted : AcceptsFrom state persists frame.stamp.peer before)
    (served : log.baseOf frame.stamp.peer ≤ state.log.cursorFor frame.stamp.peer) :
    frame.seq ≤ (applyFrames wallMs persists state before).log.cursorFor frame.stamp.peer + 1 := by
  have seqs := missing_seqs log frame.stamp.peer (getOr state.cursors frame.stamp.peer 0)
  rw [← delta_since_filter log frame.stamp.peer visits, split] at seqs
  simp only [List.filter_append, List.filter_cons, decide_true, if_true, List.map_append,
    List.map_cons, SyncState.cursors, getOr_cursors] at seqs
  rw [apply_frames_cursor _ _ _ _ _ accepted]
  exact consecutive_offer_in_reach (by omega) seqs.symm

theorem delta_first_frame (cursors : Cursors) (origin : PeerId)
    (served : log.baseOf origin ≤ getOr cursors origin 0)
    (ahead : getOr cursors origin 0 < log.cursorFor origin) :
    ∃ first, ((log.deltaSince order cursors).filter
        (fun frame => frame.stamp.peer = origin)).head? = some first ∧
      first.seq = getOr cursors origin 0 + 1 := by
  have seqs := missing_seqs log origin (getOr cursors origin 0)
  rw [delta_since_filter log origin visits]
  cases missing : log.missingFrom origin (getOr cursors origin 0) with
  | nil =>
    rw [missing, List.map_nil, eq_comm, List.range'_eq_nil_iff] at seqs
    omega
  | cons first rest =>
    rw [missing, List.map_cons, eq_comm, List.range'_eq_cons_iff] at seqs
    refine ⟨first, rfl, ?_⟩
    omega

end

end

end Stitch.P2P.DeltaExchange
