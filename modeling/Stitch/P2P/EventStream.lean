import Stitch.P2P.LocalWrites

/-!
# Events reproduce the visible records

An event sets the record it names, or removes it when it carries no data. `receive` emits for
the writes that win, `local_write` emits without asking: a local write always wins.
-/

namespace Stitch.P2P.EventStream

open Foundation.GuardedRuns HybridClock LastWriterWins WireFormat NodeState NodeCalls
open LocalWrites

/-- Every call of a running node: a stored frame is replayed only before it starts. -/
def Live : Call → Prop
  | .replay _ => False
  | _ => True

def visibleRecords (state : SyncState) (key : RecordKey) : Option (List UInt8) :=
  state.visible key.1 key.2

def applyEvent (copy : RecordKey → Option (List UInt8)) (event : MutationEvent) :
    RecordKey → Option (List UInt8) :=
  Function.update copy (event.entity, event.id) event.data

/-- The events sent between the two states turn a copy of the first into one of the second. -/
def Follows (before after : SyncState) : Prop :=
  ∃ emitted, after.events = before.events ++ emitted ∧
    emitted.foldl applyEvent (visibleRecords before) = visibleRecords after

section

variable {before middle after : SyncState}

theorem visible_records_shown (state : SyncState) (key : RecordKey) :
    visibleRecords state key = (state.applier.cell key).shown.map (·.data) :=
  visible_eq_shown state.applier key.1 key.2

theorem follows_quiet (events : after.events = before.events)
    (visible : ∀ key, (after.applier.cell key).shown = (before.applier.cell key).shown) :
    Follows before after := by
  refine ⟨[], by rw [events, List.append_nil], ?_⟩
  funext key
  rw [List.foldl_nil, visible_records_shown, visible_records_shown, visible]

theorem follows_trans (first : Follows before middle) (second : Follows middle after) :
    Follows before after := by
  obtain ⟨earlier, firstEvents, firstCopy⟩ := first
  obtain ⟨later, secondEvents, secondCopy⟩ := second
  refine ⟨earlier ++ later, ?_, ?_⟩
  · rw [secondEvents, firstEvents, List.append_assoc]
  · rw [List.foldl_append, firstCopy, secondCopy]

theorem follows_announced {frame : WriteFrame} {origin : WriteOrigin}
    (events : middle.events = before.events)
    (merged : middle.applier = (before.applier.merge frame.intoStamped).1)
    (admitted : (before.applier.cell (frame.entity, frame.id)).admits frame.stamp = true) :
    Follows before (middle.emit frame origin) := by
  let event : MutationEvent := ⟨frame.op, frame.entity, frame.id,
    if frame.op = .delete then none else some frame.data, origin⟩
  have announced : (middle.emit frame origin).events = before.events ++ [event] := by
    rw [← events]
    rfl
  refine ⟨[event], announced, ?_⟩
  funext key
  have applier : (middle.emit frame origin).applier =
      (before.applier.merge frame.intoStamped).1 := merged
  rw [List.foldl_cons, List.foldl_nil, applyEvent, visible_records_shown, applier,
    merge_shown_at]
  by_cases keyed : key = (frame.entity, frame.id)
  · rw [if_pos ⟨keyed, by rw [keyed]; exact admitted⟩, keyed, Function.update_self]
    cases op : frame.op <;> simp [event, op, WriteFrame.intoStamped, Op.isDelete]
  · rw [if_neg (fun here => keyed here.1), Function.update_of_ne keyed, visible_records_shown]

theorem collect_follows (state : SyncState) (entity id : String) :
    Follows state (state.collectTombstone entity id).1 := by
  refine follows_quiet rfl ?_
  intro key
  have cell := collect_cell state.applier entity id key
  simp only [SyncState.collectTombstone]
  rw [cell]
  split_ifs
  · exact collect_shown _
  · rfl

theorem receive_follows (state : SyncState) (persisted : Bool) (frame : WriteFrame)
    (wallMs : Nat) : Follows state (state.receive persisted frame wallMs).1 := by
  by_cases refused : state.refuses frame = true
  · simp only [SyncState.receive, refused, if_true]
    exact follows_quiet rfl fun _ => rfl
  by_cases appended : state.log.classify frame = .appended
  · cases persisted with
    | false =>
      simp only [SyncState.receive, refused, appended]
      exact follows_quiet rfl fun _ => rfl
    | true =>
      simp only [SyncState.receive, refused, appended]
      by_cases applied : (state.applier.merge frame.intoStamped).2 = .applied
      · simp only [applied, if_true]
        exact follows_announced rfl rfl ((merge_applied_iff _ _).mp applied)
      · simp only [applied, if_false]
        refine follows_quiet rfl ?_
        intro key
        refine (merge_shown_at state.applier frame.intoStamped key).trans (if_neg ?_)
        intro wins
        rw [wins.1] at wins
        exact applied ((merge_applied_iff _ _).mpr wins.2)
  · simp only [SyncState.receive, refused, ne_eq, appended, not_false_eq_true, if_true]
    exact follows_quiet rfl fun _ => rfl

end

section

variable {selfId : PeerId} {start node after : Node}

theorem local_write_follows (dominated : Dominated node) {persisted : Bool} {wallMs : Nat}
    {op : Op} {entity id : String} {data : List UInt8}
    (fits : (Call.localWrite persisted wallMs op entity id data).Fits node.state) :
    Follows node.state (node.state.localWrite persisted wallMs op entity id data).1 := by
  cases outcome : node.state.localWrite persisted wallMs op entity id data with
  | mk written result =>
    cases result with
    | error error =>
      rcases local_write_error outcome with same | same
      · rw [same]
        exact follows_quiet rfl fun _ => rfl
      · rw [same]
        exact follows_quiet rfl fun _ => rfl
    | ok frame =>
      obtain ⟨-, -, -, -, same⟩ := local_write_ok outcome
      have wrote : writtenBy node.state (.localWrite persisted wallMs op entity id data) =
          some frame := by
        rw [writtenBy, outcome]
        rfl
      obtain ⟨held, collected⟩ := written_above_cells dominated fits wrote
        (frame.entity, frame.id)
      rw [same]
      exact follows_announced rfl rfl ((admits_iff _ _).mpr ⟨collected, held⟩)

theorem call_follows (dominated : Dominated node) {next : Call} (live : Live next)
    (fits : next.Fits node.state) : Follows node.state (call node.state next).1 := by
  cases next with
  | localWrite persisted wallMs op entity id data => exact local_write_follows dominated fits
  | receive persisted frame wallMs => exact receive_follows node.state persisted frame wallMs
  | replay frame => exact live.elim
  | collectTombstone entity id => exact collect_follows node.state entity id
  | reclaim origins members =>
    refine follows_quiet (reclaim_field SyncState.events (fun _ _ => rfl) _ _ _) ?_
    intro key
    have applier := reclaim_field SyncState.applier (fun _ _ => rfl) node.state origins members
    exact congrArg (fun held => (held.cell key).shown) applier
  | notePeerCursors peer cursors | setAuth auth => exact follows_quiet rfl fun _ => rfl

/-- From any state of a node, whatever calls follow: the events they emit, applied in order
to the records visible at the start, give the records visible at the end. -/
theorem events_reproduce_visible (reached : Runs selfId start)
    (run : Reaches Node.step (fun node next => Live next ∧ next.Fits node.state) start after) :
    ∃ emitted, after.state.events = start.state.events ++ emitted ∧
      emitted.foldl applyEvent (visibleRecords start.state) = visibleRecords after.state := by
  have kept : Dominated after ∧ Follows start.state after.state := by
    refine reaches_invariant (fun node => Dominated node ∧ Follows start.state node.state)
      ⟨runs_dominated reached, follows_quiet rfl fun _ => rfl⟩ ?_ run
    intro before next later holds allowed taken
    obtain ⟨dominated, followed⟩ := holds
    refine ⟨step_dominated dominated allowed.2 taken, follows_trans followed ?_⟩
    cases taken
    exact call_follows dominated allowed.1 allowed.2
  exact kept.2

def rewrittenNode : Node :=
  let received := (call (SyncState.new (peerNumber 1)) (.receive true futureDelete 0)).1
  let collected := (call received (.collectTombstone "task" "t1")).1
  ⟨(call collected (.localWrite true 5 .insert "task" "t1" [8])).1,
    [futureDelete, ⟨⟨⟨9, 5⟩, peerNumber 1⟩, 1, .insert, "task", "t1", [8], none⟩],
    [⟨⟨⟨9, 5⟩, peerNumber 1⟩, 1, .insert, "task", "t1", [8], none⟩]⟩

theorem rewritten_node_followed :
    ∃ emitted, rewrittenNode.state.events = [] ++ emitted ∧
      emitted.foldl applyEvent (visibleRecords (SyncState.new (peerNumber 1))) =
        visibleRecords rewrittenNode.state := by
  have seen : Hlc.zero.ObserveFits futureDelete.stamp.hlc 0 := by decide
  have ticked : Hlc.TickFits ⟨9, 4⟩ 5 := by decide
  have reached : Runs (peerNumber 1) (Node.start (peerNumber 1)) := .start
  have run : Reaches Node.step (fun node next => Live next ∧ next.Fits node.state)
      (Node.start (peerNumber 1)) rewrittenNode := by
    refine Reaches.next (.localWrite true 5 .insert "task" "t1" [8])
      (Reaches.next (.collectTombstone "task" "t1")
        (Reaches.next (.receive true futureDelete 0) .start ⟨trivial, ?_⟩ rfl) ⟨trivial, ?_⟩ rfl)
      ⟨trivial, ?_⟩ rfl
    · intro advance made
      cases made
      exact seen
    · intro advance made
      cases made
    · intro advance made
      cases made
      exact ticked
  exact events_reproduce_visible reached run

end

end Stitch.P2P.EventStream
