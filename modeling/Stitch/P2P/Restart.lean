import Mathlib.Logic.Relation
import Stitch.P2P.Convergence
import Stitch.P2P.DurableLog

/-!
# Restart of a persistent node

Every frame is appended to the store before it is recorded and merged, and `with_persister`
rebuilds the state by replaying what the store loads. Both states record the stored history, so
convergence makes them show the same values.
-/

namespace Stitch.P2P.Restart

open Foundation.FiniteMap HybridClock LastWriterWins WireFormat ReplicationLog NodeState Convergence
open DurableLog

structure DurableNode where
  store : FrameStore
  state : SyncState

def DurableNode.fresh (selfId : PeerId) (auth : Option FrameAuth) : DurableNode :=
  ⟨∅, { SyncState.new selfId with auth := auth }⟩

def replayAll (state : SyncState) (frames : List WriteFrame) : SyncState :=
  frames.foldl SyncState.replay state

/-- `SyncNode::with_persister`: replay every loaded frame into a fresh state. -/
def withPersister (selfId : PeerId) (store : FrameStore) (readable : List UInt8 → Bool)
    (order : List (List UInt8)) : Except LogError SyncState :=
  match load store readable order with
  | .error error => .error error
  | .ok frames => .ok (replayAll (SyncState.new selfId) frames)

/-- The frame `local_write` hands to the persister, if it gets that far. -/
def handedFrame (state : SyncState) (wallMs : Nat) (op : Op) (entity id : String)
    (data : List UInt8) : Option WriteFrame :=
  match checkLengths entity id data with
  | .error _ => none
  | .ok _ => (state.signFrame (state.unsignedFrame wallMs op entity id data)).toOption

section

variable (node : DurableNode) (answer : StorageAnswer)

def DurableNode.localWrite (wallMs : Nat) (op : Op) (entity id : String) (data : List UInt8) :
    DurableNode × Except WriteError WriteFrame :=
  let appended :=
    match handedFrame node.state wallMs op entity id data with
    | some frame => append node.store answer frame
    | none => (node.store, .ok ())
  let written := node.state.localWrite appended.2.isOk wallMs op entity id data
  (⟨appended.1, written.1⟩, written.2)

def DurableNode.receive (frame : WriteFrame) (wallMs : Nat) : DurableNode × RecordOutcome :=
  let appended :=
    if node.state.refuses frame = false ∧ node.state.log.classify frame = .appended then
      append node.store answer frame
    else (node.store, .ok ())
  let received := node.state.receive appended.2.isOk frame wallMs
  (⟨appended.1, received.1⟩, received.2)

end

/-- An operation on the state hands the frame to the persister. -/
inductive Hands (state : SyncState) : WriteFrame → Prop where
  | localWrite {wallMs : Nat} {op : Op} {entity id : String} {data : List UInt8}
      {frame : WriteFrame} (handed : handedFrame state wallMs op entity id data = some frame) :
      Hands state frame
  | receive {frame : WriteFrame} (passed : state.refuses frame = false)
      (next : state.log.classify frame = .appended) : Hands state frame

/-- What a crash leaves on disk and the state it destroys. `unrecorded` is the
frame that is stored but not in the log, `unmerged` the one that is stored but
not in the applier. -/
structure Crash where
  store : FrameStore
  state : SyncState
  unrecorded : Option WriteFrame
  unmerged : Option WriteFrame

/-- The points at which a node can crash. An operation first moves the clock,
then appends, then records, then merges. -/
inductive Crashes (node : DurableNode) : Crash → Prop where
  | beforeAppend (clock : Hlc) :
      Crashes node ⟨node.store, { node.state with clock := clock }, none, none⟩
  | beforeRecord (clock : Hlc) {frame : WriteFrame} {bytes : List UInt8}
      (handed : Hands node.state frame) (fits : frame.FitsWidths)
      (encoded : frame.encode = .ok bytes) :
      Crashes node ⟨node.store.insert (frameKey frame) bytes,
        { node.state with clock := clock }, some frame, some frame⟩
  | beforeMerge (clock : Hlc) {frame : WriteFrame} {bytes : List UInt8}
      (handed : Hands node.state frame) (fits : frame.FitsWidths)
      (encoded : frame.encode = .ok bytes) :
      Crashes node ⟨node.store.insert (frameKey frame) bytes,
        { node.state with clock := clock, log := (node.state.log.record frame).1 },
        none, some frame⟩

def ReplayFits (state : SyncState) : List WriteFrame → Prop
  | [] => True
  | frame :: rest =>
    state.clock.ObserveFits frame.stamp.hlc frame.stamp.hlc.physical ∧
      ReplayFits (state.replay frame) rest

/-- The steps of a persistent node. A failing append stores nothing, clock
counters do not wrap, and the fields of a frame have their machine widths. -/
inductive Step : DurableNode → DurableNode → Prop where
  | localWrite (node : DurableNode) (answer : StorageAnswer)
      (atomic : answer.insert = true → answer.sync = true)
      (wallMs : Nat) (op : Op) (entity id : String) (data : List UInt8)
      (noWrap : checkLengths entity id data = .ok () → node.state.clock.TickFits wallMs)
      (fits : ∀ frame, handedFrame node.state wallMs op entity id data = some frame →
        frame.FitsWidths) :
      Step node (node.localWrite answer wallMs op entity id data).1
  | receive (node : DurableNode) (answer : StorageAnswer)
      (atomic : answer.insert = true → answer.sync = true)
      (frame : WriteFrame) (wallMs : Nat)
      (noWrap : node.state.refuses frame = false →
        node.state.clock.ObserveFits frame.stamp.hlc wallMs)
      (fits : frame.FitsWidths) :
      Step node (node.receive answer frame wallMs).1
  | notePeerCursors (node : DurableNode) (peer : PeerId) (cursors : Cursors) :
      Step node { node with state := node.state.notePeerCursors peer cursors }
  | reclaim (node : DurableNode) (origins members : List PeerId) :
      Step node { node with state := (node.state.reclaim origins members).1 }
  | collectTombstone (node : DurableNode) (entity id : String) :
      Step node { node with state := (node.state.collectTombstone entity id).1 }
  | restart {node : DurableNode} {crash : Crash} (crashed : Crashes node crash)
      (selfId : PeerId) (auth : Option FrameAuth) (readable : List UInt8 → Bool)
      {order : List (List UInt8)} (byteOrder : ByteOrder order crash.store)
      {frames : List WriteFrame} (loaded : load crash.store readable order = .ok frames)
      (noWrap : ReplayFits (SyncState.new selfId) frames) :
      Step node ⟨crash.store, { replayAll (SyncState.new selfId) frames with auth := auth }⟩

abbrev Runs := Relation.ReflTransGen Step

/-- One for the origin of the frame that is stored but not recorded. -/
def Crash.pendingFor (crash : Crash) (origin : PeerId) : Nat :=
  match crash.unrecorded with
  | some frame => if frame.stamp.peer = origin then 1 else 0
  | none => 0

section

variable {state : SyncState} {wallMs : Nat} {op : Op} {entity id : String} {data : List UInt8}
variable {frame : WriteFrame}

variable (handed : handedFrame state wallMs op entity id data = some frame)

include handed

theorem handed_frame_signed :
    checkLengths entity id data = .ok () ∧
      state.signFrame (state.unsignedFrame wallMs op entity id data) = .ok frame := by
  unfold handedFrame at handed
  cases lengths : checkLengths entity id data with
  | error error => simp [lengths] at handed
  | ok checked =>
    simp only [lengths] at handed
    cases signed : state.signFrame (state.unsignedFrame wallMs op entity id data) with
    | error error => simp [signed, Except.toOption] at handed
    | ok built =>
      simp only [signed, Except.toOption, Option.some.injEq] at handed
      subst handed
      exact ⟨rfl, rfl⟩

theorem handed_frame_stamp :
    frame.stamp = ⟨state.clock.tick wallMs, state.selfId⟩ ∧
      frame.seq = state.log.cursorFor state.selfId + 1 := by
  have signed := sign_frame_ok (handed_frame_signed handed).2
  exact ⟨signed.1, signed.2.1⟩

theorem local_write_stored :
    state.localWrite true wallMs op entity id data =
      (({ state with
        clock := state.clock.tick wallMs
        log := (state.log.record frame).1
        applier := (state.applier.merge frame.intoStamped).1 }).emit frame .localWrite,
        .ok frame) := by
  have signed := handed_frame_signed handed
  simp [SyncState.localWrite, signed.1, signed.2]

theorem local_write_unstored :
    state.localWrite false wallMs op entity id data =
      ({ state with clock := state.clock.tick wallMs }, .error .persist) := by
  have signed := handed_frame_signed handed
  simp [SyncState.localWrite, signed.1, signed.2]

omit handed

theorem local_write_not_handed (persisted : Bool)
    (handed : handedFrame state wallMs op entity id data = none) :
    ∃ error, checkLengths entity id data = .error error ∧
      state.localWrite persisted wallMs op entity id data = (state, .error (.wire error)) := by
  unfold handedFrame at handed
  cases lengths : checkLengths entity id data with
  | error error => exact ⟨error, rfl, by simp [SyncState.localWrite, lengths]⟩
  | ok checked =>
    -- A frame whose lengths were checked is always signed.
    exfalso
    have bytes : (state.unsignedFrame wallMs op entity id data).signingBytes =
        .ok (state.unsignedFrame wallMs op entity id data).signingFields.flatten := by
      simp [WriteFrame.signingBytes, SyncState.unsignedFrame, lengths]
    cases auth : state.auth <;>
      simp [lengths, SyncState.signFrame, auth, bytes, Except.toOption] at handed

theorem hands_next (handed : Hands state frame) :
    state.log.classify frame = .appended := by
  cases handed with
  | localWrite handed =>
    have built := handed_frame_stamp handed
    simp [ReplLog.classify, built.1, built.2]
  | receive passed next => exact next

end

theorem append_atomic {answer : StorageAnswer}
    (atomic : answer.insert = true → answer.sync = true) (store : FrameStore)
    (frame : WriteFrame) :
    (∃ bytes, frame.encode = .ok bytes ∧
      append store answer frame = (store.insert (frameKey frame) bytes, .ok ())) ∨
      ∃ error, append store answer frame = (store, .error error) := by
  unfold append
  cases encoded : frame.encode with
  | error error => exact Or.inr ⟨.invalidInput error, rfl⟩
  | ok bytes =>
    by_cases inserted : answer.insert = true
    · exact Or.inl ⟨bytes, rfl, by simp [inserted, atomic inserted]⟩
    · exact Or.inr ⟨.other, by simp [inserted]⟩

/-- The store holds a history and the state has recorded exactly that history. -/
structure Backed (logs : OriginLogs) (store : FrameStore) (state : SyncState) : Prop where
  stores : Stores store logs
  cursors : ∀ origin, state.log.cursorFor origin = (logs.frames origin).length
  tracks : ∃ delivered, Tracks logs delivered state

def Covers (logs : OriginLogs) (state : SyncState) : Prop :=
  ∀ frame, logs.Contains frame → frame.stamp.hlc ≤ state.clock

theorem fresh_backed (selfId : PeerId) (auth : Option FrameAuth) :
    Backed emptyLogs ∅ { SyncState.new selfId with auth := auth } where
  stores := empty_stores
  cursors origin := by
    simp [emptyLogs, SyncState.new, ReplLog.new, ReplLog.cursorFor, ReplLog.baseOf,
      ReplLog.stored]
  tracks := ⟨[], new_tracks emptyLogs selfId auth⟩

variable {delivered frames : List WriteFrame} {frame : WriteFrame} {next : SyncState}

theorem tracks_extend {logs : OriginLogs} {state : SyncState} (tracks : Tracks logs delivered state)
    (next : frame.seq = (logs.frames frame.stamp.peer).length + 1)
    (unrecorded : state.log.cursorFor frame.stamp.peer < frame.seq) :
    Tracks (logs.append frame next) delivered state := by
  refine ⟨?_, tracks.cells⟩
  intro other
  rw [tracks.recorded other]
  constructor
  · intro recorded
    exact ⟨append_contains next recorded.1, recorded.2⟩
  · intro recorded
    rcases contains_of_append next recorded.1 with old | rfl
    · exact ⟨old, recorded.2⟩
    · exact absurd recorded.2 (Nat.not_le_of_lt unrecorded)

section

variable {logs : OriginLogs} {store : FrameStore} {state : SyncState}
variable {frame : WriteFrame} {next : SyncState}

variable (backed : Backed logs store state)

include backed

theorem backed_next (appended : state.log.classify frame = .appended) :
    frame.seq = (logs.frames frame.stamp.peer).length + 1 := by
  rw [classify_appended appended, backed.cursors]

theorem backed_record {bytes : List UInt8} (appended : state.log.classify frame = .appended)
    (fits : frame.FitsWidths) (encoded : frame.encode = .ok bytes)
    (log : next.log = (state.log.record frame).1)
    (applier : next.applier = (state.applier.merge frame.intoStamped).1) :
    Backed (logs.append frame (backed_next backed appended))
      (store.insert (frameKey frame) bytes) next where
  stores := stores_insert backed.stores _ fits encoded
  cursors origin := by
    rw [log, record_cursor_appended _ _ appended, backed.cursors]
    split_ifs with same
    · rw [same, append_frames_self, List.length_append, List.length_singleton]
    · rw [append_frames_other _ same]
  tracks := by
    rcases backed.tracks with ⟨delivered, tracks⟩
    have seq := classify_appended appended
    have extended := tracks_extend tracks (backed_next backed appended) (by omega)
    exact ⟨_, tracks_append extended (append_contains_self _) appended log applier⟩

theorem backed_same (cursors : ∀ origin, next.log.cursorFor origin = state.log.cursorFor origin)
    (applier : next.applier = state.applier) : Backed logs store next where
  stores := backed.stores
  cursors origin := by rw [cursors, backed.cursors]
  tracks := by
    rcases backed.tracks with ⟨delivered, tracks⟩
    exact ⟨delivered, tracks_same tracks cursors applier⟩

theorem backed_collect (entity id : String) :
    Backed logs store (state.collectTombstone entity id).1 where
  stores := backed.stores
  cursors := backed.cursors
  tracks := by
    rcases backed.tracks with ⟨delivered, tracks⟩
    exact ⟨delivered, collect_tracks tracks entity id⟩

end

variable {logs : OriginLogs} {state : SyncState}

/-- Replaying the rest of every origin's log records the whole history. -/
theorem replay_all_tracks (tracks : Tracks logs delivered state) {rest : List WriteFrame}
    (ahead : ∀ origin, rest.filter (fun frame => frame.stamp.peer = origin) = (logs.frames
      origin).drop (state.log.cursorFor origin))
    (bounded : ∀ origin, state.log.cursorFor origin ≤ (logs.frames origin).length) :
    (∃ recorded, Tracks logs recorded (replayAll state rest)) ∧
      ∀ origin, (replayAll state rest).log.cursorFor origin = (logs.frames origin).length := by
  induction rest generalizing delivered state with
  | nil =>
    refine ⟨⟨delivered, tracks⟩, ?_⟩
    intro origin
    have done := (ahead origin).symm
    rw [List.filter_nil, List.drop_eq_nil_iff] at done
    exact Nat.le_antisymm (bounded origin) done
  | cons frame rest ih =>
    -- The frame is the first one of its origin's log the state lacks.
    have here := ahead frame.stamp.peer
    rw [List.filter_cons_of_pos (by simp)] at here
    have found : (logs.frames frame.stamp.peer)[state.log.cursorFor frame.stamp.peer]? =
        some frame := by
      rw [← List.head?_drop, ← here, List.head?_cons]
    have written := origin_log_contains found
    have seq := (logs.numbered _ _ _ found).2
    have appended : state.log.classify frame = .appended := by
      simp [ReplLog.classify, seq]
    have applier := replay_applier state frame
    rw [if_pos appended] at applier
    have recorded := tracks_append tracks written appended (replay_log state frame) applier
    apply ih recorded
    · intro origin
      rw [replay_log, record_cursor_appended _ _ appended]
      split_ifs with same
      · rw [same, ← List.tail_drop, ← here, List.tail_cons]
      · have other := ahead origin
        rw [List.filter_cons_of_neg (by simpa using Ne.symm same)] at other
        exact other
    · intro origin
      rw [replay_log, record_cursor_appended _ _ appended]
      split_ifs with same
      · rw [same]
        exact (List.getElem?_eq_some_iff.mp found).1
      · exact bounded origin

theorem replay_all_clock (fits : ReplayFits state frames) :
    state.clock ≤ (replayAll state frames).clock ∧
      ∀ frame ∈ frames, frame.stamp.hlc ≤ (replayAll state frames).clock := by
  induction frames generalizing state with
  | nil => exact ⟨le_refl _, by simp⟩
  | cons frame rest ih =>
    have observed := lt_observe fits.1
    have later := ih fits.2
    have reached : (state.replay frame).clock ≤ (replayAll state (frame :: rest)).clock :=
      later.1
    refine ⟨observed.1.le.trans reached, ?_⟩
    intro other member
    rcases List.mem_cons.mp member with rfl | listed
    · exact observed.2.le.trans reached
    · exact later.2 other listed

theorem replay_all_holds (holds : state.log.Holds logs)
    (written : ∀ frame ∈ frames, logs.Contains frame) :
    (replayAll state frames).log.Holds logs ∧
      ∀ origin, (replayAll state frames).log.baseOf origin = state.log.baseOf origin := by
  induction frames generalizing state with
  | nil => exact ⟨holds, fun _ => rfl⟩
  | cons frame rest ih =>
    have recorded : (state.replay frame).log.Holds logs :=
      holds_record holds (written frame List.mem_cons_self)
    have later := ih recorded fun other member => written other (List.mem_cons_of_mem _ member)
    refine ⟨later.1, ?_⟩
    intro origin
    exact (later.2 origin).trans (record_base_of state.log frame origin)

theorem reopen_backed {store : FrameStore} (stores : Stores store logs) {order : List (List UInt8)}
    (byteOrder : ByteOrder order store) (selfId : PeerId) (auth : Option FrameAuth) :
    ∃ frames, load store (fun _ => true) order = .ok frames ∧
      (∀ frame, frame ∈ frames ↔ logs.Contains frame) ∧
      Backed logs store { replayAll (SyncState.new selfId) frames with auth := auth } := by
  rcases load_origin_logs stores byteOrder with ⟨frames, loaded, ordered⟩
  have fresh : ∀ origin, (SyncState.new selfId).log.cursorFor origin = 0 :=
    (fresh_backed selfId none).cursors
  have ahead : ∀ origin, frames.filter (fun frame => frame.stamp.peer = origin) =
      (logs.frames origin).drop ((SyncState.new selfId).log.cursorFor origin) := by
    intro origin
    rw [fresh, List.drop_zero, ordered]
  have bounded : ∀ origin,
      (SyncState.new selfId).log.cursorFor origin ≤ (logs.frames origin).length := by
    intro origin
    exact Nat.zero_le _
  have replayed := replay_all_tracks (new_tracks logs selfId none) ahead bounded
  refine ⟨frames, loaded, ?_, stores, replayed.2, ?_⟩
  · intro frame
    unfold OriginLogs.Contains
    rw [← ordered, List.mem_filter]
    simp
  · rcases replayed.1 with ⟨recorded, tracks⟩
    exact ⟨recorded, tracks_same tracks (fun _ => rfl) rfl⟩

/-- What a crash leaves is backed by the lost state with the interrupted frame
recorded and merged. -/
theorem crash_backed {node : DurableNode} {crash : Crash}
    (backed : Backed logs node.store node.state) (crashed : Crashes node crash) :
    ∃ history completed, Backed history crash.store completed ∧
      (∀ origin, completed.log.cursorFor origin =
        crash.state.log.cursorFor origin + crash.pendingFor origin) ∧
      completed.applier = mergeAll crash.state.applier crash.unmerged.toList := by
  cases crashed with
  | beforeAppend clock => exact ⟨logs, node.state, backed, fun _ => rfl, rfl⟩
  | beforeRecord clock handed fits encoded =>
    rename_i frame bytes
    have appended := hands_next handed
    let completed := { node.state with
      log := (node.state.log.record frame).1
      applier := (node.state.applier.merge frame.intoStamped).1 }
    have recorded : Backed _ _ completed := backed_record backed appended fits encoded rfl rfl
    refine ⟨_, completed, recorded, ?_, rfl⟩
    intro origin
    simp only [completed, Crash.pendingFor]
    rw [record_cursor_appended _ _ appended]
    by_cases same : origin = frame.stamp.peer
    · simp [same]
    · simp [same, Ne.symm same]
  | beforeMerge clock handed fits encoded =>
    rename_i frame bytes
    have appended := hands_next handed
    let completed := { node.state with
      log := (node.state.log.record frame).1
      applier := (node.state.applier.merge frame.intoStamped).1 }
    have recorded : Backed _ _ completed := backed_record backed appended fits encoded rfl rfl
    exact ⟨_, completed, recorded, fun _ => rfl, rfl⟩

theorem covers_append (number : frame.seq = (logs.frames frame.stamp.peer).length + 1)
    (covers : Covers logs state) (later : state.clock ≤ next.clock)
    (above : frame.stamp.hlc ≤ next.clock) :
    Covers (logs.append frame number) next := by
  intro other written
  rcases contains_of_append number written with old | rfl
  · exact (covers other old).trans later
  · exact above

theorem covers_later (covers : Covers logs state) (later : state.clock ≤ next.clock) :
    Covers logs next :=
  fun frame written => (covers frame written).trans later

section

variable {logs : OriginLogs} {node : DurableNode} {answer : StorageAnswer}

variable {wallMs : Nat}

theorem local_write_backed (backed : Backed logs node.store node.state)
    (atomic : answer.insert = true → answer.sync = true) {op : Op} {entity id : String}
    {data : List UInt8}
    (noWrap : checkLengths entity id data = .ok () → node.state.clock.TickFits wallMs)
    (fits : ∀ frame, handedFrame node.state wallMs op entity id data = some frame →
      frame.FitsWidths) :
    let next := (node.localWrite answer wallMs op entity id data).1
    ∃ history, Backed history next.store next.state ∧
      (Covers logs node.state → Covers history next.state) := by
  unfold DurableNode.localWrite
  cases handed : handedFrame node.state wallMs op entity id data with
  | none =>
    rcases local_write_not_handed true handed with ⟨error, -, refused⟩
    simp only [Except.isOk, Except.toBool, refused]
    exact ⟨logs, backed, fun covers => covers⟩
  | some frame =>
    have ticked := lt_tick (noWrap (handed_frame_signed handed).1)
    rcases append_atomic atomic node.store frame with ⟨bytes, encoded, stored⟩ | ⟨error, failed⟩
    · have appended := hands_next (.localWrite handed)
      simp only [stored, Except.isOk, Except.toBool, local_write_stored handed]
      refine ⟨_, backed_record backed appended (fits frame handed) encoded rfl rfl, ?_⟩
      intro covers
      apply covers_append _ covers ticked.le
      rw [(handed_frame_stamp handed).1]
      exact le_refl _
    · simp only [failed, Except.isOk, Except.toBool, local_write_unstored handed]
      exact ⟨logs, backed_same backed (fun _ => rfl) rfl,
        fun covers => covers_later covers ticked.le⟩

variable {frame : WriteFrame}

theorem receive_unrecorded {store : FrameStore} {state : SyncState}
    (backed : Backed logs store state) {persisted : Bool}
    (unrecorded : (state.receive persisted frame wallMs).2 ≠ .appended) :
    Backed logs store (state.receive persisted frame wallMs).1 := by
  rw [Ne, receive_appended_iff] at unrecorded
  apply backed_same backed
  · intro origin
    rw [receive_log]
    split_ifs with accepted
    · rw [record_unchanged _ _ fun appended => unrecorded ⟨accepted, appended⟩]
    · rfl
  · rw [receive_applier, if_neg unrecorded]

theorem receive_covers (state : SyncState) (persisted : Bool)
    (noWrap : state.refuses frame = false → state.clock.ObserveFits frame.stamp.hlc wallMs) :
    state.clock ≤ (state.receive persisted frame wallMs).1.clock ∧
      (state.refuses frame = false →
        frame.stamp.hlc ≤ (state.receive persisted frame wallMs).1.clock) := by
  rw [receive_clock]
  cases refused : state.refuses frame with
  | true => exact ⟨le_refl _, fun passed => by cases passed⟩
  | false =>
    have observed := lt_observe (noWrap refused)
    exact ⟨observed.1.le, fun _ => observed.2.le⟩

theorem receive_backed (backed : Backed logs node.store node.state)
    (atomic : answer.insert = true → answer.sync = true)
    (noWrap : node.state.refuses frame = false → node.state.clock.ObserveFits frame.stamp.hlc
      wallMs)
    (fits : frame.FitsWidths) :
    let next := (node.receive answer frame wallMs).1
    ∃ history, Backed history next.store next.state ∧
      (Covers logs node.state → Covers history next.state) := by
  have clock := fun persisted => receive_covers node.state persisted noWrap
  unfold DurableNode.receive
  by_cases handed : node.state.refuses frame = false ∧ node.state.log.classify frame = .appended
  · rw [if_pos handed]
    rcases append_atomic atomic node.store frame with ⟨bytes, encoded, stored⟩ | ⟨error, failed⟩
    · simp only [stored, Except.isOk, Except.toBool]
      have accepted : node.state.accepts true frame = true := by
        simp [SyncState.accepts, handed.1]
      have log := receive_log node.state true frame wallMs
      have applier := receive_applier node.state true frame wallMs
      rw [if_pos accepted] at log
      rw [if_pos ⟨accepted, handed.2⟩] at applier
      refine ⟨_, backed_record backed handed.2 fits encoded log applier, ?_⟩
      intro covers
      exact covers_append _ covers (clock true).1 ((clock true).2 handed.1)
    · simp only [failed, Except.isOk, Except.toBool]
      have unrecorded : (node.state.receive false frame wallMs).2 ≠ .appended := by
        simp [receive_appended_iff, SyncState.accepts]
      exact ⟨logs, receive_unrecorded backed unrecorded,
        fun covers => covers_later covers (clock false).1⟩
  · rw [if_neg handed]
    have unrecorded : (node.state.receive true frame wallMs).2 ≠ .appended := by
      rw [Ne, receive_appended_iff]
      simpa [SyncState.accepts] using handed
    exact ⟨logs, receive_unrecorded backed unrecorded,
      fun covers => covers_later covers (clock true).1⟩

end

variable {logs : OriginLogs}

/-- Every step keeps store and state on one history, and the clock ahead of it. -/
theorem step_backed {node next : DurableNode} (backed : Backed logs node.store node.state)
    (step : Step node next) :
    ∃ history, Backed history next.store next.state ∧
      (Covers logs node.state → Covers history next.state) := by
  cases step with
  | localWrite answer atomic wallMs op entity id data noWrap fits =>
    exact local_write_backed backed atomic noWrap fits
  | receive answer atomic frame wallMs noWrap fits =>
    exact receive_backed backed atomic noWrap fits
  | notePeerCursors peer cursors =>
    exact ⟨logs, backed_same backed (fun _ => rfl) rfl, fun covers => covers⟩
  | reclaim origins members =>
    have kept := reclaim_frame node.state origins members
    have clock := reclaim_clock node.state origins members
    refine ⟨logs, backed_same backed kept.2.2.2.2 kept.2.2.1, ?_⟩
    intro covers
    exact covers_later covers clock.ge
  | collectTombstone entity id =>
    exact ⟨logs, backed_collect backed entity id, fun covers => covers⟩
  | restart crashed selfId auth readable byteOrder loaded noWrap =>
    rcases crash_backed backed crashed with ⟨history, completed, kept, -, -⟩
    rcases reopen_backed kept.stores byteOrder selfId auth with
      ⟨frames, reloaded, listed, rebuilt⟩
    rw [load_readable loaded, Except.ok.injEq] at reloaded
    subst reloaded
    refine ⟨history, rebuilt, ?_⟩
    intro covers frame written
    exact (replay_all_clock noWrap).2 frame ((listed frame).mpr written)

theorem runs_backed {node later : DurableNode} (backed : Backed logs node.store node.state)
    (run : Runs node later) :
    ∃ history, Backed history later.store later.state ∧
      (Covers logs node.state → Covers history later.state) := by
  induction run with
  | refl => exact ⟨logs, backed, fun covers => covers⟩
  | tail prior step ih =>
    rcases ih with ⟨history, reached, covered⟩
    rcases step_backed reached step with ⟨extended, next, carried⟩
    exact ⟨extended, next, fun covers => carried (covered covers)⟩

theorem handed_frame_new {store : FrameStore} {state : SyncState} (backed : Backed logs store state)
    {wallMs : Nat} {op : Op} {entity id : String} {data : List UInt8} {kept : WriteFrame}
    (handed : handedFrame state wallMs op entity id data = some frame) (keeps : Keeps store kept) :
    (kept.stamp.peer, kept.seq) ≠ (frame.stamp.peer, frame.seq) ∧
      (Covers logs state → state.clock.TickFits wallMs → kept.stamp < frame.stamp) := by
  have written := (stores_keeps_iff backed.stores kept).mp keeps
  have built := handed_frame_stamp handed
  constructor
  · intro same
    rw [Prod.mk.injEq] at same
    have bound := contains_seq_le written
    rw [same.1, same.2, built.2, built.1, backed.cursors] at bound
    simp only at bound
    omega
  · intro covers noWrap
    apply stamp_lt_of_hlc_lt
    rw [built.1]
    exact (covers kept written).trans_lt (lt_tick noWrap)

/-- Restart refinement. Whatever a run of a persistent node did and wherever it
crashed, reopening the store succeeds, moves the cursor of an origin only by the
frame that was stored and not yet recorded, shows what the lost state would have
shown with that frame merged, and no write from then on reuses the number of a
stored frame or falls behind its stamp. -/
theorem restart_refines {selfId : PeerId} {auth : Option FrameAuth} {node : DurableNode}
    (run : Runs (DurableNode.fresh selfId auth) node) {crash : Crash}
    (crashed : Crashes node crash) {order : List (List UInt8)}
    (byteOrder : ByteOrder order crash.store) (newId : PeerId) :
    ∃ rebuilt, withPersister newId crash.store (fun _ => true) order = .ok rebuilt ∧
      (∀ origin, rebuilt.log.cursorFor origin =
        crash.state.log.cursorFor origin + crash.pendingFor origin) ∧
      (∀ entity id, rebuilt.visible entity id =
        (mergeAll crash.state.applier crash.unmerged.toList).visible entity id) ∧
      ∀ (newAuth : Option FrameAuth) (later : DurableNode),
        Runs ⟨crash.store, { rebuilt with auth := newAuth }⟩ later →
        ∀ wallMs op entity id data frame,
          handedFrame later.state wallMs op entity id data = some frame →
          ∀ kept, Keeps later.store kept →
            (kept.stamp.peer, kept.seq) ≠ (frame.stamp.peer, frame.seq) ∧
              ((∀ frames, load crash.store (fun _ => true) order = .ok frames →
                  ReplayFits (SyncState.new newId) frames) →
                later.state.clock.TickFits wallMs → kept.stamp < frame.stamp) := by
  rcases runs_backed (fresh_backed selfId auth) run with ⟨logs, backed, -⟩
  rcases crash_backed backed crashed with ⟨history, completed, kept, cursors, applier⟩
  rcases reopen_backed kept.stores byteOrder newId none with ⟨frames, loaded, listed, rebuilt⟩
  refine ⟨replayAll (SyncState.new newId) frames, by simp [withPersister, loaded], ?_, ?_, ?_⟩
  · intro origin
    rw [← cursors, kept.cursors]
    exact rebuilt.cursors origin
  · intro entity id
    have sameCursors : ∀ origin, (replayAll (SyncState.new newId) frames).log.cursorFor origin =
        completed.log.cursorFor origin := by
      intro origin
      rw [kept.cursors]
      exact rebuilt.cursors origin
    rcases rebuilt.tracks with ⟨replayed, rebuiltTracks⟩
    rcases kept.tracks with ⟨recorded, keptTracks⟩
    have shown := same_cursors_same_shown rebuiltTracks keptTracks sameCursors (entity, id)
    simp only [SyncState.visible, visible_eq_shown, ← applier]
    rw [← shown]
  · intro newAuth later continued wallMs op entity id data frame handed stored keeps
    have reopened : Backed history crash.store
        { replayAll (SyncState.new newId) frames with auth := newAuth } :=
      backed_same rebuilt (fun _ => rfl) rfl
    rcases runs_backed reopened continued with ⟨extended, reached, covered⟩
    have new := handed_frame_new reached handed keeps
    refine ⟨new.1, ?_⟩
    intro noWrap ticks
    apply new.2 _ ticks
    apply covered
    intro other written
    exact (replay_all_clock (noWrap frames loaded)).2 other ((listed other).mpr written)

def oneWrite : DurableNode :=
  ((DurableNode.fresh (peerNumber 1) none).localWrite ⟨true, true⟩ 5 .insert "task" "t1" [7]).1

def secondFrame : WriteFrame where
  stamp := ⟨⟨5, 1⟩, peerNumber 1⟩
  seq := 2
  op := .update
  entity := "task"
  id := "t1"
  data := [8]
  signature := none

def crashInSecond : Crash where
  store := oneWrite.store.insert (frameKey secondFrame) secondFrame.fields.flatten
  state := { oneWrite.state with clock := ⟨5, 1⟩ }
  unrecorded := some secondFrame
  unmerged := some secondFrame

def firstTwoKeys : List (List UInt8) :=
  [(peerNumber 1).bytes ++ [0, 0, 0, 0, 0, 0, 0, 1], (peerNumber 1).bytes ++ [0, 0, 0, 0, 0, 0, 0, 2]]

theorem restart_with_second_write :
    ∃ rebuilt,
      withPersister (peerNumber 1) crashInSecond.store (fun _ => true) firstTwoKeys = .ok rebuilt ∧
      oneWrite.state.log.cursorFor (peerNumber 1) = 1 ∧
      rebuilt.log.cursorFor (peerNumber 1) = 2 ∧
      oneWrite.state.visible "task" "t1" = some [7] ∧
      rebuilt.visible "task" "t1" = some [8] := by
  have run : Runs (DurableNode.fresh (peerNumber 1) none) oneWrite := by
    apply Relation.ReflTransGen.single
    apply Step.localWrite
    · decide
    · intro lengths
      decide
    · intro frame handed
      have built := handed_frame_stamp handed
      constructor
      · rw [built.1]
        decide
      · rw [built.1]
        decide
      · rw [built.2]
        decide
  have crashed : Crashes oneWrite crashInSecond := by
    apply Crashes.beforeRecord
    · have handed : handedFrame oneWrite.state 5 .update "task" "t1" [8] = some secondFrame := by
        decide
      exact .localWrite handed
    · exact ⟨by decide, by decide, by decide⟩
    · exact encode_of_check_lengths (by decide)
  have byteOrder : ByteOrder firstTwoKeys crashInSecond.store :=
    ⟨visits_of_keys (by decide) (by decide), by decide⟩
  rcases restart_refines run crashed byteOrder (peerNumber 1) with
    ⟨rebuilt, opened, cursors, visible, -⟩
  refine ⟨rebuilt, opened, by decide, ?_, by decide, ?_⟩
  · rw [cursors]
    decide
  · rw [visible]
    decide

end Stitch.P2P.Restart
