import Stitch.Foundation.Segment
import Stitch.P2P.WireFormat

/-!
# Per-origin replication log

Transcription of `replog.rs`. For each origin a node stores a run of frames whose sequence numbers
follow its `base` without a gap. Iterating over the stored origins takes the visiting order as an
argument.
-/

namespace Stitch.P2P.ReplicationLog

open Foundation.FiniteMap Foundation.Segment HybridClock WireFormat

abbrev Cursors := HashMap PeerId Nat

inductive RecordOutcome where
  | appended
  | duplicate
  | gap (expected got : Nat)
  | rejected
  | unpersisted
  deriving DecidableEq

structure ReplLog where
  selfId : PeerId
  observed : HashMap PeerId (List WriteFrame)
  base : HashMap PeerId Nat
  inOrder : ∀ origin index frame, (getOr observed origin [])[index]? = some frame →
    frame.stamp.peer = origin ∧ frame.seq = getOr base origin 0 + index + 1

def ReplLog.new (selfId : PeerId) : ReplLog where
  selfId := selfId
  observed := ∅
  base := ∅
  inOrder := by simp

section

variable (log : ReplLog)

def ReplLog.baseOf (origin : PeerId) : Nat := getOr log.base origin 0

def ReplLog.stored (origin : PeerId) : List WriteFrame := getOr log.observed origin []

def ReplLog.cursorFor (origin : PeerId) : Nat :=
  log.baseOf origin + (log.stored origin).length

def ReplLog.nextSeq (origin : PeerId) : Nat := log.cursorFor origin + 1

def ReplLog.classify (frame : WriteFrame) : RecordOutcome :=
  let held := log.cursorFor frame.stamp.peer
  if frame.seq ≤ held then .duplicate
  else if frame.seq = held + 1 then .appended
  else .gap (held + 1) frame.seq

def ReplLog.cursors : Cursors :=
  tabulate (log.observed.keys ∪ log.base.keys) log.cursorFor

def ReplLog.framesForEntity (order : List PeerId) (entity : String) : List WriteFrame :=
  order.flatMap fun origin =>
    (log.stored origin).filter fun frame => frame.entity = entity

/-- The stored frames of one origin a peer with the given cursor lacks. -/
def ReplLog.missingFrom (origin : PeerId) (cursor : Nat) : List WriteFrame :=
  let frames := log.stored origin
  let skip := cursor - log.baseOf origin
  frames.drop (min skip frames.length)

def ReplLog.deltaSince (order : List PeerId) (their : Cursors) : List WriteFrame :=
  order.flatMap fun origin => log.missingFrom origin (getOr their origin 0)

end

theorem cursor_for_congr {left right : ReplLog} (observed : left.observed = right.observed)
    (base : left.base = right.base) (origin : PeerId) :
    left.cursorFor origin = right.cursorFor origin := by
  simp only [ReplLog.cursorFor, ReplLog.baseOf, ReplLog.stored, observed, base]

variable {frame : WriteFrame}

theorem classify_appended {log : ReplLog} (appended : log.classify frame = .appended) :
    frame.seq = log.cursorFor frame.stamp.peer + 1 := by
  simp only [ReplLog.classify] at appended
  split at appended
  · cases appended
  · split at appended
    · assumption
    · cases appended

theorem classify_gap {log : ReplLog} {expected got : Nat}
    (gap : log.classify frame = .gap expected got) :
    log.cursorFor frame.stamp.peer + 1 < frame.seq := by
  simp only [ReplLog.classify] at gap
  split_ifs at gap
  omega

def ReplLog.record (log : ReplLog) (frame : WriteFrame) : ReplLog × RecordOutcome :=
  if appended : log.classify frame = .appended then
    ({ selfId := log.selfId
       observed :=
        log.observed.insert frame.stamp.peer (log.stored frame.stamp.peer ++ [frame])
       base := log.base
       inOrder := by
        intro origin index other found
        by_cases same : origin = frame.stamp.peer
        · subst same
          rw [getOr_insert_self] at found
          by_cases earlier : index < (log.stored frame.stamp.peer).length
          · rw [List.getElem?_append_left earlier] at found
            exact log.inOrder _ index other found
          · have position : index = (log.stored frame.stamp.peer).length := by
              have bound := (List.getElem?_eq_some_iff.mp found).1
              simp only [List.length_append, List.length_cons, List.length_nil] at bound
              omega
            subst position
            simp only [List.getElem?_concat_length, Option.some.injEq] at found
            subst found
            exact ⟨rfl, classify_appended appended⟩
        · rw [getOr_insert_other _ _ _ same] at found
          exact log.inOrder origin index other found }, .appended)
  else (log, log.classify frame)

def ReplLog.truncate (log : ReplLog) (origin : PeerId) (upTo : Nat) : ReplLog × Nat :=
  let base := log.baseOf origin
  if upTo ≤ base then (log, 0)
  else
    match log.observed.lookup origin with
    | none => (log, 0)
    | some frames =>
      let drop := min (upTo - base) frames.length
      ({ selfId := log.selfId
         observed := log.observed.insert origin ((log.stored origin).drop drop)
         base := log.base.insert origin (base + drop)
         inOrder := by
          intro other index frame found
          by_cases same : other = origin
          · subst same
            rw [getOr_insert_self, List.getElem?_drop] at found
            rw [getOr_insert_self]
            obtain ⟨peer, seq⟩ := log.inOrder other (drop + index) frame found
            refine ⟨peer, ?_⟩
            rw [seq, ← Nat.add_assoc]
            rfl
          · rw [getOr_insert_other _ _ _ same] at found
            rw [getOr_insert_other _ _ _ same]
            exact log.inOrder other index frame found }, drop)

section

variable (log : ReplLog) (frame : WriteFrame)

theorem record_stored_appended (appended : log.classify frame = .appended)
    (origin : PeerId) :
    (log.record frame).1.stored origin =
      if origin = frame.stamp.peer then log.stored origin ++ [frame]
      else log.stored origin := by
  simp only [ReplLog.record, dif_pos appended]
  split_ifs with same
  · subst same
    exact getOr_insert_self _ _ _ _
  · exact getOr_insert_other _ _ _ same

@[simp] theorem record_base_of (origin : PeerId) :
    (log.record frame).1.baseOf origin = log.baseOf origin := by
  unfold ReplLog.record
  split_ifs <;> rfl

theorem record_unchanged (kept : log.classify frame ≠ .appended) :
    log.record frame = (log, log.classify frame) := by
  rw [ReplLog.record, dif_neg kept]

@[simp] theorem record_outcome : (log.record frame).2 = log.classify frame := by
  by_cases appended : log.classify frame = .appended
  · rw [ReplLog.record, dif_pos appended, appended]
  · rw [record_unchanged log frame appended]

theorem record_cursor_appended (appended : log.classify frame = .appended)
    (origin : PeerId) :
    (log.record frame).1.cursorFor origin =
      if origin = frame.stamp.peer then log.cursorFor origin + 1
      else log.cursorFor origin := by
  simp only [ReplLog.cursorFor, record_base_of, record_stored_appended log frame appended]
  split_ifs <;> simp [Nat.add_assoc]

theorem record_cursor_mono (origin : PeerId) :
    log.cursorFor origin ≤ (log.record frame).1.cursorFor origin := by
  by_cases appended : log.classify frame = .appended
  · rw [record_cursor_appended log frame appended]
    split_ifs <;> omega
  · rw [record_unchanged log frame appended]

variable {log} {origin : PeerId} {frame}

theorem stored_peer (stored : frame ∈ log.stored origin) : frame.stamp.peer = origin := by
  rcases List.mem_iff_getElem?.mp stored with ⟨index, found⟩
  exact (log.inOrder origin index frame found).1

theorem stored_seq_le (stored : frame ∈ log.stored origin) :
    frame.seq ≤ log.cursorFor origin := by
  rcases List.mem_iff_getElem?.mp stored with ⟨index, found⟩
  have seq : frame.seq = log.baseOf origin + index + 1 := (log.inOrder origin index frame found).2
  have bound := (List.getElem?_eq_some_iff.mp found).1
  rw [seq, ReplLog.cursorFor]
  omega

theorem stored_ascending :
    (log.stored origin).Pairwise fun left right => left.seq < right.seq := by
  rw [List.pairwise_iff_getElem]
  intro first second firstBound secondBound less
  have firstSeq := (log.inOrder origin first _ (List.getElem?_eq_getElem firstBound)).2
  have secondSeq := (log.inOrder origin second _ (List.getElem?_eq_getElem secondBound)).2
  omega

theorem stored_mem_drop {mark : Nat} (stored : frame ∈ log.stored origin)
    (above : mark < frame.seq) : frame ∈ (log.stored origin).drop (mark - log.baseOf origin) := by
  rcases List.mem_iff_getElem?.mp stored with ⟨index, found⟩
  have seq : frame.seq = log.baseOf origin + index + 1 := (log.inOrder origin index frame found).2
  apply List.mem_of_getElem? (i := index - (mark - log.baseOf origin))
  rw [List.getElem?_drop, Nat.add_sub_cancel' (by omega)]
  exact found

variable (log) (origin) (upTo : Nat)

theorem stored_of_lookup_none {log : ReplLog} {origin : PeerId}
    (absent : log.observed.lookup origin = none) : log.stored origin = [] := by
  simp [ReplLog.stored, getOr, absent]

theorem stored_of_lookup {log : ReplLog} {origin : PeerId} {frames : List WriteFrame}
    (held : log.observed.lookup origin = some frames) : log.stored origin = frames := by
  simp [ReplLog.stored, getOr, held]

@[simp] theorem getOr_cursors (log : ReplLog) (origin : PeerId) :
    getOr log.cursors origin 0 = log.cursorFor origin := by
  unfold ReplLog.cursors getOr
  rw [lookup_tabulate]
  split_ifs with listed
  · rfl
  · rw [Finset.mem_union, not_or, Finmap.mem_keys, Finmap.mem_keys] at listed
    have noFrames := stored_of_lookup_none (Finmap.lookup_eq_none.mpr listed.1)
    have noBase : log.baseOf origin = 0 := getOr_of_not_mem listed.2 0
    simp [ReplLog.cursorFor, noFrames, noBase]

theorem truncate_stored (other : PeerId) :
    (log.truncate origin upTo).1.stored other =
      if other = origin then (log.stored origin).drop (upTo - log.baseOf origin)
      else log.stored other := by
  unfold ReplLog.truncate
  simp only
  split_ifs with low same same
  · rw [same, Nat.sub_eq_zero_of_le low, List.drop_zero]
  · rfl
  · subst same
    cases held : log.observed.lookup other with
    | none => simp [stored_of_lookup_none held]
    | some frames =>
      simp only [ReplLog.stored, getOr_insert_self]
      change (log.stored other).drop _ = (log.stored other).drop _
      rw [stored_of_lookup held]
      by_cases far : upTo - log.baseOf other ≤ frames.length
      · rw [Nat.min_eq_left far]
      · rw [Nat.min_eq_right (by omega), List.drop_length,
          List.drop_eq_nil_of_le (by omega)]
  · cases log.observed.lookup origin with
    | none => rfl
    | some frames => exact getOr_insert_other _ _ _ same

theorem truncate_base_of (other : PeerId) :
    (log.truncate origin upTo).1.baseOf other =
      if other = origin then
        log.baseOf origin + min (upTo - log.baseOf origin) (log.stored origin).length
      else log.baseOf other := by
  unfold ReplLog.truncate
  simp only
  split_ifs with low same same
  · rw [same, Nat.sub_eq_zero_of_le low, Nat.zero_min, Nat.add_zero]
  · rfl
  · subst same
    cases held : log.observed.lookup other with
    | none => simp [stored_of_lookup_none held]
    | some frames =>
      refine (getOr_insert_self _ _ _ _).trans ?_
      rw [stored_of_lookup held]
  · cases log.observed.lookup origin with
    | none => rfl
    | some frames => exact getOr_insert_other _ _ _ same

@[simp] theorem truncate_cursor (other : PeerId) :
    (log.truncate origin upTo).1.cursorFor other = log.cursorFor other := by
  simp only [ReplLog.cursorFor, truncate_stored, truncate_base_of]
  split_ifs with same
  · subst same
    rw [List.length_drop]
    omega
  · rfl

end

/-- What every origin wrote: frame `i` of an origin's log carries that origin and number `i`. -/
structure OriginLogs where
  frames : PeerId → List WriteFrame
  numbered : ∀ origin index frame, (frames origin)[index]? = some frame →
    frame.stamp.peer = origin ∧ frame.seq = index + 1

def OriginLogs.Contains (logs : OriginLogs) (frame : WriteFrame) : Prop :=
  frame ∈ logs.frames frame.stamp.peer

instance (logs : OriginLogs) (frame : WriteFrame) : Decidable (logs.Contains frame) :=
  inferInstanceAs (Decidable (frame ∈ logs.frames frame.stamp.peer))

variable {logs : OriginLogs} {frame : WriteFrame}

theorem origin_log_get (written : logs.Contains frame) :
    0 < frame.seq ∧ (logs.frames frame.stamp.peer)[frame.seq - 1]? = some frame := by
  obtain ⟨index, found⟩ := List.mem_iff_getElem?.mp written
  obtain ⟨-, seq⟩ := logs.numbered _ index frame found
  rw [seq]
  exact ⟨Nat.succ_pos index, found⟩

theorem origin_log_contains {origin : PeerId} {index : Nat}
    (found : (logs.frames origin)[index]? = some frame) :
    logs.Contains frame := by
  obtain ⟨peer, -⟩ := logs.numbered origin index frame found
  unfold OriginLogs.Contains
  rw [peer]
  exact List.mem_of_getElem? found

theorem contains_unique {left right : WriteFrame} (leftWritten : logs.Contains left)
    (rightWritten : logs.Contains right) (peer : left.stamp.peer = right.stamp.peer)
    (seq : left.seq = right.seq) : left = right := by
  have leftFound := (origin_log_get leftWritten).2
  have rightFound := (origin_log_get rightWritten).2
  rw [peer, seq, rightFound] at leftFound
  exact (Option.some.inj leftFound).symm

theorem contains_seq_le (written : logs.Contains frame) :
    frame.seq ≤ (logs.frames frame.stamp.peer).length := by
  obtain ⟨positive, found⟩ := origin_log_get written
  have bound := (List.getElem?_eq_some_iff.mp found).1
  omega

def OriginLogs.append (logs : OriginLogs) (frame : WriteFrame)
    (next : frame.seq = (logs.frames frame.stamp.peer).length + 1) : OriginLogs where
  frames := Function.update logs.frames frame.stamp.peer
    (logs.frames frame.stamp.peer ++ [frame])
  numbered := by
    intro origin index other found
    by_cases same : origin = frame.stamp.peer
    · subst same
      rw [Function.update_self] at found
      by_cases earlier : index < (logs.frames frame.stamp.peer).length
      · rw [List.getElem?_append_left earlier] at found
        exact logs.numbered _ index other found
      · rw [List.getElem?_append_right (Nat.le_of_not_lt earlier), List.getElem?_singleton] at found
        split_ifs at found with last
        cases found
        exact ⟨rfl, by omega⟩
    · rw [Function.update_of_ne same] at found
      exact logs.numbered origin index other found

/-- The stored run of every origin is the part of that origin's history from the
base up to the cursor. -/
def ReplLog.Holds (log : ReplLog) (logs : OriginLogs) : Prop :=
  ∀ origin, log.cursorFor origin ≤ (logs.frames origin).length ∧
    log.stored origin =
      listSegment (logs.frames origin) (log.baseOf origin) (log.cursorFor origin)

theorem holds_new (selfId : PeerId) (logs : OriginLogs) : (ReplLog.new selfId).Holds logs := by
  intro origin
  simp [ReplLog.new, ReplLog.cursorFor, ReplLog.stored, ReplLog.baseOf, listSegment]

theorem holds_record {log : ReplLog} (holds : log.Holds logs) (written : logs.Contains frame) :
    (log.record frame).1.Holds logs := by
  by_cases appended : log.classify frame = .appended
  · intro origin
    rw [record_cursor_appended log frame appended, record_stored_appended log frame appended,
      record_base_of]
    obtain ⟨bound, run⟩ := holds origin
    split_ifs with same
    · subst same
      -- The recorded frame is the next one of its origin's history.
      have next : (logs.frames frame.stamp.peer)[log.cursorFor frame.stamp.peer]? =
          some frame := by
        have found := (origin_log_get written).2
        rwa [classify_appended appended, Nat.add_sub_cancel] at found
      refine ⟨(List.getElem?_eq_some_iff.mp next).1, ?_⟩
      have order : log.baseOf frame.stamp.peer ≤ log.cursorFor frame.stamp.peer :=
        Nat.le_add_right _ _
      rw [segment_snoc next order, ← run]
    · exact ⟨bound, run⟩
  · rw [record_unchanged log frame appended]
    exact holds

theorem holds_truncate {log : ReplLog} (holds : log.Holds logs) (origin : PeerId) (upTo : Nat) :
    (log.truncate origin upTo).1.Holds logs := by
  intro other
  obtain ⟨bound, run⟩ := holds other
  rw [truncate_cursor, truncate_stored, truncate_base_of]
  refine ⟨bound, ?_⟩
  split_ifs with same
  · subst same
    by_cases far : upTo - log.baseOf other ≤ (log.stored other).length
    · rw [Nat.min_eq_left far, ← segment_drop, ← run]
    · rw [Nat.min_eq_right (by omega), ← segment_drop, ← run, List.drop_length,
        List.drop_eq_nil_of_le (by omega)]
  · exact run

section

variable {logs : OriginLogs} {frame : WriteFrame}
  (next : frame.seq = (logs.frames frame.stamp.peer).length + 1)

theorem append_frames_self :
    (logs.append frame next).frames frame.stamp.peer =
      logs.frames frame.stamp.peer ++ [frame] :=
  Function.update_self _ _ _

theorem append_frames_other {origin : PeerId} (other : origin ≠ frame.stamp.peer) :
    (logs.append frame next).frames origin = logs.frames origin :=
  Function.update_of_ne other _ _

theorem append_extends (origin : PeerId) :
    ∃ more, (logs.append frame next).frames origin = logs.frames origin ++ more := by
  by_cases same : origin = frame.stamp.peer
  · subst same
    exact ⟨[frame], append_frames_self next⟩
  · exact ⟨[], by rw [append_frames_other next same, List.append_nil]⟩

theorem append_contains_self : (logs.append frame next).Contains frame := by
  unfold OriginLogs.Contains
  rw [append_frames_self]
  exact List.mem_append_right _ List.mem_cons_self

variable {other : WriteFrame}

theorem append_contains (written : logs.Contains other) :
    (logs.append frame next).Contains other := by
  obtain ⟨more, extended⟩ := append_extends next other.stamp.peer
  unfold OriginLogs.Contains
  rw [extended]
  exact List.mem_append_left more written

theorem contains_of_append (written : (logs.append frame next).Contains other) :
    logs.Contains other ∨ other = frame := by
  unfold OriginLogs.Contains at written ⊢
  by_cases same : other.stamp.peer = frame.stamp.peer
  · rw [same, append_frames_self, List.mem_append, List.mem_singleton] at written
    rw [same]
    exact written
  · rw [append_frames_other next same] at written
    exact Or.inl written

theorem contains_append_iff (other : WriteFrame) :
    (logs.append frame next).Contains other ↔ logs.Contains other ∨ some frame = some other := by
  constructor
  · intro written
    rcases contains_of_append next written with old | rfl
    · exact Or.inl old
    · exact Or.inr rfl
  · intro known
    rcases known with old | same
    · exact append_contains next old
    · cases same
      exact append_contains_self next

theorem holds_append {log : ReplLog} (holds : log.Holds logs) :
    log.Holds (logs.append frame next) := by
  intro origin
  obtain ⟨bound, run⟩ := holds origin
  obtain ⟨more, extended⟩ := append_extends next origin
  rw [extended, segment_append more _ bound]
  refine ⟨?_, run⟩
  rw [List.length_append]
  omega

end

theorem holds_stored_contains {log : ReplLog} {logs : OriginLogs} {origin : PeerId}
    {frame : WriteFrame} (holds : log.Holds logs) (member : frame ∈ log.stored origin) :
    logs.Contains frame := by
  rw [(holds origin).2, mem_segment] at member
  obtain ⟨index, -, -, found⟩ := member
  exact origin_log_contains found

end Stitch.P2P.ReplicationLog
