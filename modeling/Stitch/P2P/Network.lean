import Stitch.P2P.DeltaExchange

/-!
# A network of nodes

Any number of nodes exchange messages by the rules of `session.rs`. A message once sent may be
processed at any later time, any number of times, in any order, or never. `written` records the
frames each node returned from its own writes.
-/

namespace Stitch.P2P.Network

open Foundation.FiniteMap Foundation.Segment HybridClock LastWriterWins WireFormat ReplicationLog
open NodeState MessageFormat SessionLoop DeltaExchange

structure World where
  node : PeerId → SyncState
  written : PeerId → List WriteFrame
  inFlight : List (PeerId × SyncMessage)

def World.after (world : World) (actor : PeerId) (state : SyncState)
    (wrote : List WriteFrame) (sent : List (PeerId × SyncMessage)) : World where
  node := Function.update world.node actor state
  written := Function.update world.written actor (world.written actor ++ wrote)
  inFlight := world.inFlight ++ sent

section

variable (world : World) (actor : PeerId) (state : SyncState) (wrote : List WriteFrame)
  (sent : List (PeerId × SyncMessage))

@[simp] theorem after_node_self : (world.after actor state wrote sent).node actor = state :=
  Function.update_self _ _ _

variable {id : PeerId}

@[simp] theorem after_node_other (other : id ≠ actor) :
    (world.after actor state wrote sent).node id = world.node id :=
  Function.update_of_ne other _ _

@[simp] theorem after_written_self :
    (world.after actor state wrote sent).written actor = world.written actor ++ wrote :=
  Function.update_self _ _ _

@[simp] theorem after_written_other (other : id ≠ actor) :
    (world.after actor state wrote sent).written id = world.written id :=
  Function.update_of_ne other _ _

theorem after_node_forall (Good : PeerId → SyncState → Prop)
    (before : ∀ id, Good id (world.node id)) (changed : Good actor state) (id : PeerId) :
    Good id ((world.after actor state wrote sent).node id) := by
  by_cases same : id = actor
  · subst same
    rw [after_node_self]
    exact changed
  · rw [after_node_other _ _ _ _ _ same]
    exact before id

theorem after_written_nil (id : PeerId) :
    (world.after actor state [] sent).written id = world.written id := by
  by_cases same : id = actor
  · subst same
    rw [after_written_self, List.append_nil]
  · rw [after_written_other _ _ _ _ _ same]

end

def World.start (auth : PeerId → Option FrameAuth) : World where
  node id := { SyncState.new id with auth := auth id }
  written _ := []
  inFlight := []

/-- The steps of the nodes in `members`. `mayList` restricts the member lists
that `reclaim` is called with. -/
inductive Step (members : List PeerId) (mayList : List PeerId → Prop) : World → World → Prop where
  | localWrite {world : World} {actor : PeerId} {next : SyncState} {frame : WriteFrame}
      {persisted : Bool} {wallMs : Nat} {op : Op} {entity id : String} {data : List UInt8}
      (member : actor ∈ members)
      (returned : (world.node actor).localWrite persisted wallMs op entity id data =
        (next, .ok frame)) (pushedTo : List PeerId) :
      Step members mayList world
        (world.after actor next [frame] (pushedTo.map fun peer => (peer, .delta [frame])))
  | refusedWrite {world : World} {actor : PeerId} {next : SyncState} {error : WriteError}
      {persisted : Bool} {wallMs : Nat} {op : Op} {entity id : String} {data : List UInt8}
      (member : actor ∈ members)
      (returned : (world.node actor).localWrite persisted wallMs op entity id data =
        (next, .error error)) :
      Step members mayList world (world.after actor next [] [])
  | sendHello {world : World} {actor : PeerId} (member : actor ∈ members) (peer : PeerId) :
      Step members mayList world
        (world.after actor (world.node actor) [] [(peer, helloOf (world.node actor))])
  | receiveHello {world : World} {actor sender : PeerId} {cursors : Cursors}
      (member : actor ∈ members) (sent : (actor, .hello sender cursors) ∈ world.inFlight)
      {order : List PeerId} (visits : Visits order (world.node actor).log.observed) :
      Step members mayList world
        (world.after actor (onHello order (world.node actor) sender cursors).1 []
          ((onHello order (world.node actor) sender cursors).2.map fun reply => (sender, reply)))
  | receiveDelta {world : World} {actor : PeerId} {frames : List WriteFrame}
      (member : actor ∈ members) (sent : (actor, .delta frames) ∈ world.inFlight)
      (persists : Nat → Bool) (wallMs : Nat) :
      Step members mayList world
        (world.after actor (applyFrames wallMs persists (world.node actor) frames) [] [])
  | reclaim {world : World} {actor : PeerId} {origins listed : List PeerId}
      (member : actor ∈ members) (visits : Visits origins (world.node actor).cursors)
      (allowed : mayList listed) :
      Step members mayList world
        (world.after actor ((world.node actor).reclaim origins listed).1 [] [])
  | collectTombstone {world : World} {actor : PeerId} (member : actor ∈ members)
      (entity id : String) :
      Step members mayList world
        (world.after actor ((world.node actor).collectTombstone entity id).1 [] [])

inductive Reachable (members : List PeerId) (mayList : List PeerId → Prop)
    (auth : PeerId → Option FrameAuth) : World → Prop where
  | start : Reachable members mayList auth (World.start auth)
  | step {world next : World} (prior : Reachable members mayList auth world)
      (taken : Step members mayList world next) : Reachable members mayList auth next

section

/-- Every node holds a part of the history the origins wrote, an origin holds all
of its own, and only frames of the history travel. -/
structure Consistent (world : World) (logs : OriginLogs) : Prop where
  written : ∀ origin, world.written origin = logs.frames origin
  identity : ∀ id, (world.node id).selfId = id
  holds : ∀ id, (world.node id).log.Holds logs
  complete : ∀ origin, (world.node origin).log.cursorFor origin = (logs.frames origin).length
  genuine : ∀ receiver frames, (receiver, .delta frames) ∈ world.inFlight →
    ∀ frame ∈ frames, logs.Contains frame

variable {world next : World} {logs : OriginLogs}

theorem start_consistent (auth : PeerId → Option FrameAuth) :
    Consistent (World.start auth) ⟨fun _ => [], by simp⟩ := by
  constructor
  · exact fun _ => rfl
  · exact fun _ => rfl
  · exact fun id => holds_new id _
  · intro origin
    simp [World.start, SyncState.new, ReplLog.new, ReplLog.cursorFor, ReplLog.baseOf,
      ReplLog.stored]
  · intro receiver frames sent
    cases sent

variable {actor : PeerId} {state : SyncState}

theorem consistent_after (consistent : Consistent world logs) {sent : List (PeerId × SyncMessage)}
    (identity : state.selfId = actor) (holds : state.log.Holds logs)
    (complete : state.log.cursorFor actor = (logs.frames actor).length)
    (genuine : ∀ receiver frames, (receiver, .delta frames) ∈ sent → ∀ frame ∈ frames,
      logs.Contains frame) :
    Consistent (world.after actor state [] sent) logs := by
  constructor
  · intro origin
    rw [after_written_nil, consistent.written]
  · exact after_node_forall world actor state [] sent (fun id node => node.selfId = id)
      consistent.identity identity
  · exact after_node_forall world actor state [] sent (fun _ node => node.log.Holds logs)
      consistent.holds holds
  · exact after_node_forall world actor state [] sent
      (fun id node => node.log.cursorFor id = (logs.frames id).length)
      consistent.complete complete
  · intro receiver frames member
    rcases List.mem_append.mp member with old | new
    · exact consistent.genuine receiver frames old
    · exact genuine receiver frames new

theorem consistent_quiet (consistent : Consistent world logs)
    (identity : state.selfId = (world.node actor).selfId) (log : state.log = (world.node
      actor).log) :
    Consistent (world.after actor state [] []) logs := by
  apply consistent_after consistent
  · rw [identity, consistent.identity]
  · rw [log]
    exact consistent.holds actor
  · rw [log, consistent.complete]
  · intro receiver frames sent
    cases sent

theorem local_write_consistent (consistent : Consistent world logs) {frame : WriteFrame}
    {persisted : Bool} {wallMs : Nat} {op : Op} {entity id : String} {data : List UInt8}
    (returned : (world.node actor).localWrite persisted wallMs op entity id data = (state, .ok
      frame))
    (pushedTo : List PeerId) :
    ∃ extended, Consistent
      (world.after actor state [frame] (pushedTo.map fun peer => (peer, .delta [frame])))
      extended := by
  obtain ⟨-, -, peer, seq, after⟩ := local_write_ok returned
  rw [consistent.identity] at peer seq
  have isNext : frame.seq = (logs.frames frame.stamp.peer).length + 1 := by
    rw [seq, peer, consistent.complete]
  have appended : (world.node actor).log.classify frame = .appended := by
    simp [ReplLog.classify, peer, seq]
  have recorded : state.log = ((world.node actor).log.record frame).1 := by
    rw [after]
    rfl
  have identity : state.selfId = actor := by
    rw [after]
    exact consistent.identity actor
  have holds : ∀ id, (world.node id).log.Holds (logs.append frame isNext) := by
    intro id
    exact holds_append isNext (consistent.holds id)
  have written : (logs.append frame isNext).frames actor =
      logs.frames actor ++ [frame] := by
    subst peer
    exact append_frames_self isNext
  have others : ∀ origin, origin ≠ actor →
      (logs.append frame isNext).frames origin = logs.frames origin := by
    subst peer
    intro origin other
    exact append_frames_other isNext other
  refine ⟨logs.append frame isNext, ?_, ?_, ?_, ?_, ?_⟩
  · intro origin
    by_cases same : origin = actor
    · subst same
      rw [after_written_self, consistent.written, written]
    · rw [after_written_other _ _ _ _ _ same, consistent.written, others origin same]
  · exact after_node_forall world actor state _ _ (fun id node => node.selfId = id)
      consistent.identity identity
  · apply after_node_forall world actor state _ _
      (fun _ node => node.log.Holds (logs.append frame isNext)) holds
    rw [recorded]
    exact holds_record (holds actor) (append_contains_self isNext)
  · intro origin
    by_cases same : origin = actor
    · subst same
      rw [after_node_self, recorded, record_cursor_appended _ _ appended, if_pos peer.symm,
        written, List.length_append, consistent.complete]
      rfl
    · rw [after_node_other _ _ _ _ _ same, others origin same, consistent.complete]
  · intro receiver frames member
    rcases List.mem_append.mp member with old | new
    · intro other inside
      exact append_contains isNext (consistent.genuine receiver frames old other inside)
    · intro other inside
      obtain ⟨peer, -, same⟩ := List.mem_map.mp new
      cases same
      rw [List.mem_singleton] at inside
      subst inside
      exact append_contains_self isNext

theorem apply_frames_holds (holds : state.log.Holds logs) {frames : List WriteFrame}
    (written : ∀ frame ∈ frames, logs.Contains frame) (persists : Nat → Bool) (wallMs : Nat) :
    (applyFrames wallMs persists state frames).log.Holds logs := by
  apply apply_frames_induction (fun current => current.log.Holds logs) _ persists state holds
  intro current persisted frame member kept
  rw [receive_log]
  split_ifs
  · exact holds_record kept (written frame member)
  · exact kept

theorem reclaim_holds (holds : state.log.Holds logs) (origins listed : List PeerId) :
    (state.reclaim origins listed).1.log.Holds logs := by
  apply reclaim_induction (fun current => current.log.Holds logs) _ state origins holds
  intro current origin kept
  rw [reclaim_origin_log]
  exact holds_truncate kept _ _

theorem cursor_le_written (consistent : Consistent world logs) (id origin : PeerId) :
    (world.node id).log.cursorFor origin ≤ (world.node origin).log.cursorFor origin := by
  rw [consistent.complete]
  exact (consistent.holds id origin).1

variable {mayList : List PeerId → Prop}

variable {members : List PeerId}

theorem step_consistent (consistent : Consistent world logs)
    (taken : Step members mayList world next) :
    ∃ extended, Consistent next extended := by
  cases taken with
  | localWrite member returned pushedTo =>
    exact local_write_consistent consistent returned pushedTo
  | refusedWrite member returned =>
    refine ⟨logs, ?_⟩
    rcases local_write_error returned with rfl | rfl
    · exact consistent_quiet consistent rfl rfl
    · exact consistent_quiet consistent rfl rfl
  | sendHello member peer =>
    rename_i actor
    refine ⟨logs, consistent_after consistent (consistent.identity actor)
      (consistent.holds actor) (consistent.complete actor) ?_⟩
    intro receiver frames sent
    rw [List.mem_singleton] at sent
    cases sent
  | receiveHello member sent visits =>
    rename_i actor sender cursors order
    refine ⟨logs, consistent_after consistent (consistent.identity actor)
      (consistent.holds actor) (consistent.complete actor) ?_⟩
    intro receiver frames reply frame inside
    obtain ⟨message, isReply, same⟩ := List.mem_map.mp reply
    cases same
    rcases mem_on_hello isReply with delta | hello
    · cases delta
      have held := ((mem_delta_since _ visits cursors frame).mp inside).1
      exact holds_stored_contains (consistent.holds actor) held
    · cases hello
  | receiveDelta member sent persists wallMs =>
    rename_i actor frames
    have written := consistent.genuine actor frames sent
    have holds := apply_frames_holds (consistent.holds actor) written persists wallMs
    refine ⟨logs, consistent_after consistent ?_ holds ?_ ?_⟩
    · rw [(apply_frames_frame wallMs persists (world.node actor) frames).1,
        consistent.identity]
    · have grown := apply_frames_cursor_mono wallMs persists (world.node actor) frames actor
      rw [consistent.complete] at grown
      exact Nat.le_antisymm (holds actor).1 grown
    · intro receiver frames sent
      cases sent
  | reclaim member visits allowed =>
    rename_i actor origins listed
    obtain ⟨identity, -, -, -, cursors⟩ :=
      reclaim_frame (world.node actor) origins listed
    refine ⟨logs, consistent_after consistent ?_ ?_ ?_ ?_⟩
    · rw [identity, consistent.identity]
    · exact reclaim_holds (consistent.holds actor) origins listed
    · rw [cursors, consistent.complete]
    · intro receiver frames sent
      cases sent
  | collectTombstone member entity id => exact ⟨logs, consistent_quiet consistent rfl rfl⟩

theorem reachable_consistent {auth : PeerId → Option FrameAuth}
    (run : Reachable members mayList auth world) :
    ∃ logs, Consistent world logs := by
  induction run with
  | start => exact ⟨_, start_consistent auth⟩
  | step prior taken ih =>
    obtain ⟨logs, consistent⟩ := ih
    exact step_consistent consistent taken

end

/-- The invariant of the network: an origin numbers its writes from 1, every node
stores, unchanged and in order, the writes from its base up to its cursor, and no
cursor is ahead of the origin's own. -/
theorem nodes_hold_origin_segments {members : List PeerId} {auth : PeerId → Option FrameAuth}
    {world : World} (run : Reachable members (fun _ => True) auth world) (id origin : PeerId) :
    (∀ index frame, (world.written origin)[index]? = some frame →
        frame.stamp.peer = origin ∧ frame.seq = index + 1) ∧
      (world.node id).log.stored origin =
        listSegment (world.written origin) ((world.node id).log.baseOf origin)
          ((world.node id).log.cursorFor origin) ∧
      (world.node id).log.cursorFor origin ≤ (world.node origin).log.cursorFor origin ∧
      (world.node origin).log.cursorFor origin = (world.written origin).length := by
  obtain ⟨logs, consistent⟩ := reachable_consistent run
  rw [consistent.written]
  exact ⟨logs.numbered origin, (consistent.holds id origin).2,
    cursor_le_written consistent id origin, consistent.complete origin⟩

def pushedWorld : World :=
  (World.start fun _ => none).after (peerNumber 1) (firstState [7]) [firstWrite [7]]
    [(peerNumber 2, .delta [firstWrite [7]])]

def deliveredWorld : World :=
  pushedWorld.after (peerNumber 2)
    (applyFrames 5 (fun _ => true) (pushedWorld.node (peerNumber 2)) [firstWrite [7]]) [] []

theorem delivered_world_reachable (mayList : List PeerId → Prop) :
    Reachable [peerNumber 1, peerNumber 2] mayList (fun _ => none) deliveredWorld := by
  have write : ((World.start fun _ => none).node (peerNumber 1)).localWrite true 1 .insert
      "task" "t1" [7] = (firstState [7], .ok (firstWrite [7])) := rfl
  have pushed : Reachable [peerNumber 1, peerNumber 2] mayList (fun _ => none) pushedWorld :=
    .step .start (.localWrite (by decide) write [peerNumber 2])
  exact .step pushed (.receiveDelta (by decide) (by decide) _ _)

theorem delivered_frame_is_segment :
    (deliveredWorld.node (peerNumber 2)).log.stored (peerNumber 1) = [firstWrite [7]] ∧
      (deliveredWorld.node (peerNumber 2)).log.stored (peerNumber 1) =
        listSegment (deliveredWorld.written (peerNumber 1)) 0 1 := by
  have stored := (nodes_hold_origin_segments (delivered_world_reachable _) (peerNumber 2)
    (peerNumber 1)).2.1
  exact ⟨by decide, stored⟩

section

/-- No report, sent or noted, is ahead of the node it is about, and no node has
dropped a frame that a member lacks. -/
structure Covered (members : List PeerId) (world : World) : Prop where
  hellos : ∀ receiver sender cursors, (receiver, .hello sender cursors) ∈ world.inFlight →
    ∀ origin, getOr cursors origin 0 ≤ (world.node sender).log.cursorFor origin
  reports : ∀ id peer origin,
    (world.node id).reportedCursor peer origin ≤ (world.node peer).log.cursorFor origin
  bases : ∀ id, ∀ member ∈ members, ∀ origin,
    (world.node id).log.baseOf origin ≤ (world.node member).log.cursorFor origin

variable {members : List PeerId} {world next : World}

theorem start_covered (auth : PeerId → Option FrameAuth) :
    Covered members (World.start auth) := by
  constructor
  · intro receiver sender cursors sent
    cases sent
  · intro id peer origin
    simp [World.start, SyncState.new, SyncState.reportedCursor]
  · intro id member _ origin
    simp [World.start, SyncState.new, ReplLog.new, ReplLog.baseOf]

variable {actor : PeerId} {state : SyncState}

theorem covered_after (covered : Covered members world) (wrote : List WriteFrame)
    {sent : List (PeerId × SyncMessage)}
    (grown : ∀ origin, (world.node actor).log.cursorFor origin ≤ state.log.cursorFor origin)
    (reports : ∀ peer origin, state.reportedCursor peer origin ≤ (world.node peer).log.cursorFor
      origin)
    (bases : ∀ member ∈ members, ∀ origin, state.log.baseOf origin ≤ (world.node
      member).log.cursorFor origin)
    (hellos : ∀ receiver sender cursors, (receiver, .hello sender cursors) ∈ sent → sender = actor
      ∧ ∀ origin, getOr cursors origin 0 ≤ state.log.cursorFor origin) :
    Covered members (world.after actor state wrote sent) := by
  have mono : ∀ id origin, (world.node id).log.cursorFor origin ≤
      ((world.after actor state wrote sent).node id).log.cursorFor origin := by
    intro id
    exact after_node_forall world actor state wrote sent
      (fun id node => ∀ origin, (world.node id).log.cursorFor origin ≤ node.log.cursorFor origin)
      (fun _ _ => Nat.le_refl _) grown id
  constructor
  · intro receiver sender cursors member origin
    rcases List.mem_append.mp member with old | new
    · exact (covered.hellos receiver sender cursors old origin).trans (mono sender origin)
    · obtain ⟨own, bound⟩ := hellos receiver sender cursors new
      rw [own, after_node_self]
      exact bound origin
  · intro id peer origin
    refine le_trans ?_ (mono peer origin)
    exact after_node_forall world actor state wrote sent
      (fun _ node => node.reportedCursor peer origin ≤ (world.node peer).log.cursorFor origin)
      (fun id => covered.reports id peer origin) (reports peer origin) id
  · intro id member listed origin
    refine le_trans ?_ (mono member origin)
    exact after_node_forall world actor state wrote sent
      (fun _ node => node.log.baseOf origin ≤ (world.node member).log.cursorFor origin)
      (fun id => covered.bases id member listed origin) (bases member listed origin) id

theorem covered_quiet (covered : Covered members world) (log : state.log = (world.node actor).log)
    (told : state.peerCursors = (world.node actor).peerCursors) :
    Covered members (world.after actor state [] []) := by
  apply covered_after covered
  · intro origin
    rw [log]
  · intro peer origin
    unfold SyncState.reportedCursor
    rw [told]
    exact covered.reports actor peer origin
  · rw [log]
    exact covered.bases actor
  · intro receiver sender cursors sent
    cases sent

theorem reclaim_bases (covered : Covered members world)
    (identity : (world.node actor).selfId = actor) {listed : List PeerId}
    (all : ∀ member ∈ members, member ∈ listed) (origins : List PeerId) {member : PeerId}
    (isMember : member ∈ members) (origin : PeerId) :
    ((world.node actor).reclaim origins listed).1.log.baseOf origin ≤
      (world.node member).log.cursorFor origin := by
  apply reclaim_base_le _ _ _ (covered.bases actor member isMember)
  intro other
  by_cases own : member = (world.node actor).selfId
  · rw [own, identity]
    exact low_water_mark_le_own _ _ _
  · exact (low_water_mark_le_reported _ _ (all member isMember) own).trans
      (covered.reports actor member other)

theorem hello_of_covered (identity : state.selfId = actor) {sender : PeerId} {cursors : Cursors}
    (hello : .hello sender cursors = helloOf state) :
    sender = actor ∧ ∀ origin, getOr cursors origin 0 ≤ state.log.cursorFor origin := by
  cases hello
  refine ⟨identity, ?_⟩
  intro origin
  rw [SyncState.cursors, getOr_cursors]

theorem step_covered {logs : OriginLogs} (consistent : Consistent world logs)
    (covered : Covered members world)
    (taken : Step members (fun listed => ∀ member ∈ members, member ∈ listed) world next) :
    Covered members next := by
  cases taken with
  | localWrite member returned pushedTo =>
    rename_i actor state frame persisted wallMs op entity id data
    obtain ⟨-, -, -, -, rfl⟩ := local_write_ok returned
    apply covered_after covered
    · exact record_cursor_mono _ frame
    · exact covered.reports actor
    · intro other listed origin
      refine (record_base_of _ _ _).trans_le ?_
      exact covered.bases actor other listed origin
    · intro receiver sender cursors sent
      obtain ⟨peer, -, same⟩ := List.mem_map.mp sent
      cases same
  | refusedWrite member returned =>
    rcases local_write_error returned with rfl | rfl
    · exact covered_quiet covered rfl rfl
    · exact covered_quiet covered rfl rfl
  | sendHello member peer =>
    rename_i actor
    apply covered_after covered [] (fun _ => Nat.le_refl _) (covered.reports actor)
      (covered.bases actor)
    intro receiver sender cursors sent
    rw [List.mem_singleton, Prod.mk.injEq] at sent
    exact hello_of_covered (consistent.identity actor) sent.2
  | receiveHello member sent visits =>
    rename_i actor sender cursors order
    apply covered_after covered
    · exact fun _ => Nat.le_refl _
    · intro peer origin
      refine (note_reported_cursor _ _ _ _ _).trans_le ?_
      split_ifs with same
      · rw [same]
        exact covered.hellos actor sender cursors sent origin
      · exact covered.reports actor peer origin
    · exact covered.bases actor
    · intro receiver author reported reply
      obtain ⟨message, isReply, same⟩ := List.mem_map.mp reply
      cases same
      rcases mem_on_hello isReply with delta | hello
      · cases delta
      · exact hello_of_covered (consistent.identity actor) hello
  | receiveDelta member sent persists wallMs =>
    rename_i actor frames
    obtain ⟨-, -, reports⟩ := apply_frames_frame wallMs persists (world.node actor) frames
    apply covered_after covered
    · exact apply_frames_cursor_mono wallMs persists (world.node actor) frames
    · intro peer origin
      unfold SyncState.reportedCursor
      rw [reports]
      exact covered.reports actor peer origin
    · intro other listed origin
      rw [apply_frames_base_of]
      exact covered.bases actor other listed origin
    · intro receiver sender cursors sent
      cases sent
  | reclaim member visits allowed =>
    rename_i actor origins listed
    obtain ⟨-, -, -, reports, cursors⟩ := reclaim_frame (world.node actor) origins listed
    apply covered_after covered
    · intro origin
      rw [cursors]
    · intro peer origin
      unfold SyncState.reportedCursor
      rw [reports]
      exact covered.reports actor peer origin
    · intro other isMember origin
      exact reclaim_bases covered (consistent.identity actor) allowed origins isMember origin
    · intro receiver sender cursors sent
      cases sent
  | collectTombstone member entity id => exact covered_quiet covered rfl rfl

theorem reachable_covered {auth : PeerId → Option FrameAuth}
    (run : Reachable members (fun listed => ∀ member ∈ members, member ∈ listed) auth world) :
    Covered members world := by
  induction run with
  | start => exact start_covered auth
  | step prior taken ih =>
    obtain ⟨logs, consistent⟩ := reachable_consistent prior
    exact step_covered consistent ih taken

/-- As long as every `reclaim` lists all members, no node drops a frame that a
member lacks. What a node serves to a member then continues the member's log at
every origin, and the member meets a gap in it only behind a frame of the same
origin that it refused itself. -/
theorem reclaim_strands_no_member {auth : PeerId → Option FrameAuth}
    (run : Reachable members (fun listed => ∀ member ∈ members, member ∈ listed) auth world)
    (id : PeerId) {member : PeerId} (isMember : member ∈ members) :
    (∀ origin, (world.node id).log.baseOf origin ≤ (world.node member).log.cursorFor origin) ∧
      ∀ order, Visits order (world.node id).log.observed →
        (∀ origin, (world.node member).log.cursorFor origin <
            (world.node id).log.cursorFor origin →
          ∃ first, (((world.node id).deltaSince order (world.node member).cursors).filter
              (fun frame => frame.stamp.peer = origin)).head? = some first ∧
            first.seq = (world.node member).log.cursorFor origin + 1) ∧
        ∀ before frame after persists wallMs persisted expected got,
          (world.node id).deltaSince order (world.node member).cursors =
            before ++ frame :: after →
          ((applyFrames wallMs persists (world.node member) before).receive persisted frame
            wallMs).2 = .gap expected got →
          ∃ index refused, before[index]? = some refused ∧
            refused.stamp.peer = frame.stamp.peer ∧
            (world.node member).accepts (persists index) refused = false := by
  have bases := (reachable_covered run).bases id member isMember
  refine ⟨bases, ?_⟩
  intro order visits
  constructor
  · intro origin ahead
    have first := delta_first_frame visits (world.node member).cursors origin
    rw [SyncState.cursors, getOr_cursors] at first
    exact first (bases origin) ahead
  · intro before frame after persists wallMs persisted expected got split gap
    by_contra none
    have accepted : AcceptsFrom (world.node member) persists frame.stamp.peer before := by
      intro index other found peer
      by_contra refused
      exact none ⟨index, other, found, peer, Bool.eq_false_iff.mpr refused⟩
    have reach := delta_frame_in_reach wallMs persists (world.node member) visits split accepted
      (bases frame.stamp.peer)
    have beyond := receive_gap _ _ _ _ gap
    omega

end

def reportedWorld : World :=
  deliveredWorld.after (peerNumber 2) (deliveredWorld.node (peerNumber 2)) []
    [(peerNumber 1, helloOf (deliveredWorld.node (peerNumber 2)))]

def notedWorld : World :=
  let noted := onHello [peerNumber 1] (reportedWorld.node (peerNumber 1)) (peerNumber 2)
    (deliveredWorld.node (peerNumber 2)).cursors
  reportedWorld.after (peerNumber 1) noted.1 [] (noted.2.map fun reply => (peerNumber 2, reply))

def reclaimedWorld : World :=
  notedWorld.after (peerNumber 1)
    ((notedWorld.node (peerNumber 1)).reclaim [peerNumber 1] [peerNumber 1, peerNumber 2]).1
    [] []

theorem reclaimed_world_reachable :
    Reachable [peerNumber 1, peerNumber 2]
      (fun listed => ∀ member ∈ [peerNumber 1, peerNumber 2], member ∈ listed) (fun _ => none)
      reclaimedWorld := by
  have first : peerNumber 1 ∈ [peerNumber 1, peerNumber 2] := by decide
  have second : peerNumber 2 ∈ [peerNumber 1, peerNumber 2] := by decide
  have reported := Reachable.step (delivered_world_reachable
    (fun listed => ∀ member ∈ [peerNumber 1, peerNumber 2], member ∈ listed))
      (.sendHello second (peerNumber 1))
  have sent : (peerNumber 1, .hello (peerNumber 2) (deliveredWorld.node (peerNumber 2)).cursors) ∈
      reportedWorld.inFlight := by
    decide
  have stored : Visits [peerNumber 1] (reportedWorld.node (peerNumber 1)).log.observed :=
    visits_of_keys (List.nodup_singleton _) (by decide)
  have noted := Reachable.step reported (.receiveHello first sent stored)
  have known : Visits [peerNumber 1] (notedWorld.node (peerNumber 1)).cursors :=
    visits_of_keys (List.nodup_singleton _) (by decide)
  exact .step noted (.reclaim first known (fun _ member => member))

theorem reclaimed_frame_is_delivered :
    (reclaimedWorld.node (peerNumber 1)).log.baseOf (peerNumber 1) = 1 ∧
      (reclaimedWorld.node (peerNumber 1)).log.baseOf (peerNumber 1) ≤
        (reclaimedWorld.node (peerNumber 2)).log.cursorFor (peerNumber 1) := by
  have isMember : peerNumber 2 ∈ [peerNumber 1, peerNumber 2] := by decide
  have bases := (reclaim_strands_no_member reclaimed_world_reachable (peerNumber 1) isMember).1
  exact ⟨by decide, bases (peerNumber 1)⟩

end Stitch.P2P.Network
