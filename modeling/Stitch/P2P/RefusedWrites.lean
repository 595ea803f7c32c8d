import Stitch.P2P.Restart

/-!
# Refused writes and the durable log

`append` inserts an entry and then syncs the database, and nothing takes the entry back when the
sync fails. A refused write takes no sequence number, so the next insert lands on the same key.
-/

namespace Stitch.P2P.RefusedWrites

open Foundation.FiniteMap Foundation.Segment HybridClock LastWriterWins WireFormat ReplicationLog
open NodeState DurableLog Restart

/-- The arguments of one `local_write` and what the storage engine answers to it. -/
structure WriteCall where
  wallMs : Nat
  op : Op
  entity : String
  id : String
  data : List UInt8
  answer : StorageAnswer
  deriving DecidableEq

def WriteCall.frameFrom (call : WriteCall) (state : SyncState) : Option WriteFrame :=
  handedFrame state call.wallMs call.op call.entity call.id call.data

def WriteCall.writeOn (call : WriteCall) (node : DurableNode) :
    DurableNode × Except WriteError WriteFrame :=
  node.localWrite call.answer call.wallMs call.op call.entity call.id call.data

/-- The node that writes leave, the frames handed to the persister, those returned to the caller,
and those refused with `Persist`. -/
structure Outcome where
  node : DurableNode
  handed : List WriteFrame
  returned : List WriteFrame
  refused : List WriteFrame

def Outcome.start (node : DurableNode) : Outcome := ⟨node, [], [], []⟩

def Outcome.then (before : Outcome) (call : WriteCall) : Outcome :=
  let frame := call.frameFrom before.node.state
  let written := call.writeOn before.node
  { node := written.1
    handed := before.handed ++ frame.toList
    returned := before.returned ++ written.2.toOption.toList
    refused :=
      match written.2 with
      | .error .persist => before.refused ++ frame.toList
      | _ => before.refused }

def writeAll (node : DurableNode) (calls : List WriteCall) : Outcome :=
  calls.foldl Outcome.then (Outcome.start node)

def WriteCall.inserts (call : WriteCall) : Bool :=
  checkLengths call.entity call.id call.data = .ok () && call.answer.insert

/-- The last call that put an entry into the keyspace also synced it. -/
def LastInsertSynced (calls : List WriteCall) : Prop :=
  ∀ call, (calls.filter WriteCall.inserts).getLast? = some call → call.answer.sync = true

def TicksFit (node : DurableNode) (calls : List WriteCall) : Prop :=
  ∀ before call after, calls = before ++ call :: after →
    checkLengths call.entity call.id call.data = .ok () →
      (writeAll node before).node.state.clock.TickFits call.wallMs

def Recorded (state : SyncState) (frame : WriteFrame) : Prop :=
  frame ∈ state.log.stored frame.stamp.peer

instance (state : SyncState) (frame : WriteFrame) : Decidable (Recorded state frame) :=
  inferInstanceAs (Decidable (frame ∈ state.log.stored frame.stamp.peer))

theorem write_on_cases (call : WriteCall) (node : DurableNode) :
    (call.inserts = false ∧ (call.writeOn node).1.store = node.store ∧
        (call.writeOn node).2.toOption = none ∧
        ∃ clock, (call.writeOn node).1.state = { node.state with clock := clock }) ∨
      ∃ frame, call.frameFrom node.state = some frame ∧ call.inserts = true ∧
        frame.encode = .ok frame.fields.flatten ∧
        (call.writeOn node).1.store =
          node.store.insert (frameKey frame) frame.fields.flatten ∧
        ((call.answer.sync = true ∧ (call.writeOn node).2 = .ok frame ∧
            (call.writeOn node).1.state.log = (node.state.log.record frame).1 ∧
            (call.writeOn node).1.state.applier =
              (node.state.applier.merge frame.intoStamped).1) ∨
          (call.answer.sync = false ∧ (call.writeOn node).2 = .error .persist ∧
            ∃ clock, (call.writeOn node).1.state = { node.state with clock := clock })) := by
  unfold WriteCall.writeOn DurableNode.localWrite WriteCall.frameFrom WriteCall.inserts
  cases handed : handedFrame node.state call.wallMs call.op call.entity call.id call.data with
  | none =>
    rcases local_write_not_handed true handed with ⟨error, lengths, refused⟩
    left
    simp only [Except.isOk, Except.toBool, refused, lengths]
    exact ⟨by simp, trivial, rfl, node.state.clock, rfl⟩
  | some frame =>
    have signed := handed_frame_signed handed
    have stamped := (sign_frame_ok signed.2).2.2
    have encoded : frame.encode = .ok frame.fields.flatten := by
      apply encode_of_check_lengths
      have entity : frame.entity = call.entity := congrArg StampedWrite.entity stamped
      have id : frame.id = call.id := congrArg StampedWrite.id stamped
      have data : frame.data = call.data := congrArg StampedWrite.data stamped
      rw [entity, id, data]
      exact signed.1
    cases inserted : call.answer.insert with
    | false =>
      left
      simp [append, encoded, inserted, Except.isOk, Except.toBool, Except.toOption,
        local_write_unstored handed]
    | true =>
      right
      refine ⟨frame, rfl, by simp [signed.1], encoded, ?_⟩
      cases synced : call.answer.sync with
      | true =>
        simp [append, encoded, inserted, synced, Except.isOk, Except.toBool,
          local_write_stored handed, SyncState.emit]
      | false =>
        simp [append, encoded, inserted, synced, Except.isOk, Except.toBool,
          local_write_unstored handed]

/-- The store backs the state, with at most one entry beyond it: the next frame
of this node, inserted and not synced. -/
inductive Dangling (logs : OriginLogs) (node : DurableNode) : Option WriteFrame → Prop where
  | settled (backed : Backed logs node.store node.state) : Dangling logs node none
  | pending {base : FrameStore} {frame : WriteFrame} (backed : Backed logs base node.state)
      (peer : frame.stamp.peer = node.state.selfId)
      (next : node.state.log.classify frame = .appended) (fits : frame.FitsWidths)
      (encoded : frame.encode = .ok frame.fields.flatten)
      (store : node.store = base.insert (frameKey frame) frame.fields.flatten) :
      Dangling logs node (some frame)

theorem write_all_snoc (node : DurableNode) (calls : List WriteCall) (call : WriteCall) :
    writeAll node (calls ++ [call]) = (writeAll node calls).then call := by
  simp [writeAll, List.foldl_append]

variable {logs : OriginLogs} {node : DurableNode} {pending : Option WriteFrame} {frame : WriteFrame}

theorem dangling_base (dangling : Dangling logs node pending) {call : WriteCall}
    (handed : call.frameFrom node.state = some frame) :
    ∃ base, Backed logs base node.state ∧
      ∀ bytes, node.store.insert (frameKey frame) bytes = base.insert (frameKey frame) bytes := by
  cases dangling with
  | settled backed => exact ⟨node.store, backed, fun _ => rfl⟩
  | pending backed otherPeer next fits encoded store =>
    rename_i base other
    have built := handed_frame_stamp handed
    have otherSeq := classify_appended next
    have sameKey : frameKey other = frameKey frame := by
      simp only [frameKey, built.1, built.2, otherPeer, otherSeq]
    refine ⟨base, backed, ?_⟩
    intro bytes
    rw [store, sameKey, Finmap.insert_insert]

theorem dangling_pending_new (dangling : Dangling logs node (some frame)) :
    ¬logs.Contains frame := by
  intro written
  cases dangling with
  | pending backed peer next fits encoded store =>
    have number := backed_next backed next
    have bound := contains_seq_le written
    omega

theorem dangling_clock {node next : DurableNode} (dangling : Dangling logs node pending)
    {clock : Hlc} (store : next.store = node.store)
    (state : next.state = { node.state with clock := clock }) : Dangling logs next pending := by
  cases dangling with
  | settled backed =>
    refine .settled ?_
    rw [store, state]
    exact backed_same backed (fun _ => rfl) rfl
  | pending backed peer number fits encoded held =>
    rename_i base frame
    have kept : Backed logs base next.state := by
      rw [state]
      exact backed_same backed (fun _ => rfl) rfl
    apply Dangling.pending kept
    · rw [peer, state]
    · rw [state]
      exact number
    · exact fits
    · exact encoded
    · rw [store, held]

section

variable (before : Outcome) (call : WriteCall) (frame : WriteFrame)

theorem mem_then_handed :
    frame ∈ (before.then call).handed ↔
      frame ∈ before.handed ∨ call.frameFrom before.node.state = some frame := by
  simp [Outcome.then]

theorem mem_then_returned :
    frame ∈ (before.then call).returned ↔
      frame ∈ before.returned ∨ (call.writeOn before.node).2.toOption = some frame := by
  simp [Outcome.then]

theorem mem_then_refused :
    frame ∈ (before.then call).refused ↔
      frame ∈ before.refused ∨
        (call.writeOn before.node).2 = .error .persist ∧
          call.frameFrom before.node.state = some frame := by
  simp only [Outcome.then]
  cases result : (call.writeOn before.node).2 with
  | ok returned => simp
  | error error => cases error <;> simp

end

theorem last_insert_snoc (calls : List WriteCall) (call : WriteCall) :
    LastInsertSynced (calls ++ [call]) ↔
      if call.inserts then call.answer.sync = true else LastInsertSynced calls := by
  unfold LastInsertSynced
  cases inserts : call.inserts with
  | true | false => simp [List.filter_append, inserts]

structure Summary (logs : OriginLogs) (calls : List WriteCall) (outcome : Outcome)
    (history : OriginLogs) (pending : Option WriteFrame) : Prop where
  dangling : Dangling history outcome.node pending
  settled : pending = none ↔ LastInsertSynced calls
  pendingRefused : ∀ frame, pending = some frame → frame ∈ outcome.refused
  written : ∀ frame, history.Contains frame ↔ logs.Contains frame ∨ frame ∈ outcome.returned
  refusedNew : ∀ frame ∈ outcome.refused, ¬logs.Contains frame

variable {logs : OriginLogs} {node : DurableNode}

theorem summary_start (backed : Backed logs node.store node.state) :
    Summary logs [] (Outcome.start node) logs none where
  dangling := .settled backed
  settled := by simp [LastInsertSynced]
  pendingRefused := by simp
  written frame := by simp [Outcome.start]
  refusedNew := by simp [Outcome.start]

theorem dangling_frame_new {pending : Option WriteFrame} (dangling : Dangling logs node pending)
    {call : WriteCall} {frame : WriteFrame} (handed : call.frameFrom node.state = some frame) :
    ¬logs.Contains frame := by
  intro written
  have built := handed_frame_stamp handed
  have bound := contains_seq_le written
  rcases dangling_base dangling handed with ⟨base, backed, -⟩
  rw [← backed.cursors, built.1, built.2] at bound
  simp only at bound
  omega

section

variable {logs history : OriginLogs} {calls : List WriteCall} {before : Outcome}
  {pending : Option WriteFrame} {call : WriteCall} {frame : WriteFrame}

theorem then_refused_new (summary : Summary logs calls before history pending) :
    ∀ frame ∈ (before.then call).refused, ¬logs.Contains frame := by
  intro frame refused written
  rcases (mem_then_refused before call frame).mp refused with old | ⟨-, handed⟩
  · exact summary.refusedNew frame old written
  · exact dangling_frame_new summary.dangling handed ((summary.written frame).mpr (.inl written))

variable {clock : Hlc}

variable (summary : Summary logs calls before history pending)

include summary

theorem summary_no_insert (noInsert : call.inserts = false)
    (store : (call.writeOn before.node).1.store = before.node.store)
    (unreturned : (call.writeOn before.node).2.toOption = none)
    (state : (call.writeOn before.node).1.state = { before.node.state with clock := clock }) :
    Summary logs (calls ++ [call]) (before.then call) history pending where
  dangling := dangling_clock summary.dangling store state
  settled := by
    rw [last_insert_snoc, noInsert]
    exact summary.settled
  pendingRefused := by
    intro other isPending
    exact (mem_then_refused before call other).mpr (.inl (summary.pendingRefused other isPending))
  written := by
    intro other
    rw [mem_then_returned, unreturned, summary.written other]
    simp
  refusedNew := then_refused_new summary

variable (handed : call.frameFrom before.node.state = some frame) (fits : frame.FitsWidths)
  (encoded : frame.encode = .ok frame.fields.flatten) (inserts : call.inserts = true)
  (store : (call.writeOn before.node).1.store = before.node.store.insert (frameKey frame) frame.fields.flatten)

include handed fits encoded inserts store

theorem summary_accepted (synced : call.answer.sync = true)
    (result : (call.writeOn before.node).2 = .ok frame)
    (log : (call.writeOn before.node).1.state.log = (before.node.state.log.record frame).1)
    (applier : (call.writeOn before.node).1.state.applier = (before.node.state.applier.merge
      frame.intoStamped).1) :
    ∃ extended, Summary logs (calls ++ [call]) (before.then call) extended none := by
  rcases dangling_base summary.dangling handed with ⟨base, backed, replaced⟩
  have next := hands_next (.localWrite handed)
  have number := backed_next backed next
  have recorded := backed_record backed next fits encoded log applier
  rw [← replaced, ← store] at recorded
  refine ⟨history.append frame number, .settled recorded, ?_, by simp, ?_, then_refused_new summary⟩
  · rw [last_insert_snoc, inserts]
    simp [synced]
  · intro other
    rw [mem_then_returned, result, ← or_assoc, ← summary.written other]
    exact contains_append_iff number other

theorem summary_unsynced (unsynced : call.answer.sync = false)
    (result : (call.writeOn before.node).2 = .error .persist)
    (state : (call.writeOn before.node).1.state = { before.node.state with clock := clock }) :
    Summary logs (calls ++ [call]) (before.then call) history (some frame) := by
  rcases dangling_base summary.dangling handed with ⟨base, backed, replaced⟩
  have next := hands_next (.localWrite handed)
  have node : (before.then call).node = (call.writeOn before.node).1 := rfl
  have kept : Backed history base (before.then call).node.state := by
    rw [node, state]
    exact backed_same backed (fun _ => rfl) rfl
  constructor
  · apply Dangling.pending kept
    · rw [node, state, (handed_frame_stamp handed).1]
    · rw [node, state]
      exact next
    · exact fits
    · exact encoded
    · exact store.trans (replaced _)
  · rw [last_insert_snoc, inserts]
    simp [unsynced]
  · intro other isPending
    cases isPending
    exact (mem_then_refused before call frame).mpr (.inr ⟨result, handed⟩)
  · intro other
    rw [mem_then_returned, result, summary.written other]
    simp [Except.toOption]
  · exact then_refused_new summary

omit handed fits encoded inserts store

theorem summary_then (call : WriteCall)
    (fits : ∀ frame, call.frameFrom before.node.state = some frame → frame.FitsWidths) :
    ∃ extended left, Summary logs (calls ++ [call]) (before.then call) extended left := by
  rcases write_on_cases call before.node with
    ⟨noInsert, store, unreturned, clock, state⟩ |
    ⟨frame, handed, inserts, encoded, store, ⟨synced, result, log, applier⟩ |
      ⟨unsynced, result, clock, state⟩⟩
  · exact ⟨history, pending, summary_no_insert summary noInsert store unreturned state⟩
  · rcases summary_accepted summary handed (fits frame handed) encoded inserts store synced result
      log applier with ⟨extended, accepted⟩
    exact ⟨extended, none, accepted⟩
  · exact ⟨history, some frame, summary_unsynced summary handed (fits frame handed) encoded
      inserts store unsynced result state⟩

end

theorem write_all_summary {logs : OriginLogs} {node : DurableNode}
    (backed : Backed logs node.store node.state) (calls : List WriteCall)
    (fits : ∀ frame ∈ (writeAll node calls).handed, frame.FitsWidths) :
    ∃ history pending, Summary logs calls (writeAll node calls) history pending := by
  induction calls using List.reverseRecOn with
  | nil => exact ⟨logs, none, summary_start backed⟩
  | append_singleton calls call ih =>
    rw [write_all_snoc] at fits ⊢
    have fitsBefore : ∀ frame ∈ (writeAll node calls).handed, frame.FitsWidths := by
      intro frame handed
      exact fits frame ((mem_then_handed _ call frame).mpr (.inl handed))
    rcases ih fitsBefore with ⟨history, pending, summary⟩
    apply summary_then summary call
    intro frame handed
    exact fits frame ((mem_then_handed _ call frame).mpr (.inr handed))

section

variable {node : DurableNode} {calls : List WriteCall}

theorem write_on_clock (call : WriteCall) (node : DurableNode) :
    (call.writeOn node).1.state.clock =
      if (call.frameFrom node.state).isSome then node.state.clock.tick call.wallMs
      else node.state.clock := by
  unfold WriteCall.writeOn DurableNode.localWrite WriteCall.frameFrom
  cases handed : handedFrame node.state call.wallMs call.op call.entity call.id call.data with
  | none =>
    rcases local_write_not_handed true handed with ⟨error, -, refused⟩
    simp [Except.isOk, Except.toBool, refused]
  | some frame =>
    simp only [Option.isSome_some, if_true]
    cases (append node.store call.answer frame).2.isOk with
    | true => simp [local_write_stored handed, SyncState.emit]
    | false => simp [local_write_unstored handed]

variable {call : WriteCall}

theorem ticks_fit_snoc (noWrap : TicksFit node (calls ++ [call])) :
    TicksFit node calls ∧
      (checkLengths call.entity call.id call.data = .ok () →
        (writeAll node calls).node.state.clock.TickFits call.wallMs) := by
  constructor
  · intro before other after split
    apply noWrap before other (after ++ [call])
    rw [split, List.append_assoc, List.cons_append]
  · exact noWrap calls call [] rfl

theorem write_on_returned {frame : WriteFrame}
    (returned : (call.writeOn node).2.toOption = some frame) :
    call.frameFrom node.state = some frame ∧ (call.writeOn node).2 ≠ .error .persist := by
  rcases write_on_cases call node with
    ⟨-, -, unreturned, -⟩ |
    ⟨other, handed, -, -, -, ⟨-, result, -, -⟩ | ⟨-, result, -⟩⟩
  · rw [unreturned] at returned
    cases returned
  · rw [result] at returned ⊢
    cases returned
    exact ⟨handed, by simp⟩
  · rw [result] at returned
    cases returned

/-- The clock is not behind a frame handed over, and no frame is both refused
and returned. -/
structure Distinct (outcome : Outcome) : Prop where
  below : ∀ frame ∈ outcome.handed, frame.stamp.hlc ≤ outcome.node.state.clock
  refusedHanded : ∀ frame ∈ outcome.refused, frame ∈ outcome.handed
  returnedHanded : ∀ frame ∈ outcome.returned, frame ∈ outcome.handed
  disjoint : ∀ frame ∈ outcome.refused, frame ∉ outcome.returned

theorem distinct_then {before : Outcome} (distinct : Distinct before)
    (fits : checkLengths call.entity call.id call.data = .ok () → before.node.state.clock.TickFits
      call.wallMs) :
    Distinct (before.then call) := by
  have ticked : ∀ frame, call.frameFrom before.node.state = some frame →
      before.node.state.clock < frame.stamp.hlc ∧
        (before.then call).node.state.clock = frame.stamp.hlc := by
    intro frame handed
    have clock := write_on_clock call before.node
    rw [handed] at clock
    rw [(handed_frame_stamp handed).1]
    exact ⟨lt_tick (fits (handed_frame_signed handed).1), clock⟩
  have newFrame : ∀ frame, call.frameFrom before.node.state = some frame →
      frame ∉ before.handed := by
    intro frame handed listed
    exact absurd (ticked frame handed).1 (not_lt_of_ge (distinct.below frame listed))
  constructor
  · intro frame listed
    rcases (mem_then_handed before call frame).mp listed with old | handed
    · cases current : call.frameFrom before.node.state with
      | none =>
        have clock := write_on_clock call before.node
        rw [current] at clock
        exact (distinct.below frame old).trans clock.ge
      | some other =>
        have later := ticked other current
        rw [later.2]
        exact (distinct.below frame old).trans later.1.le
    · rw [(ticked frame handed).2]
  · intro frame listed
    rw [mem_then_handed]
    rcases (mem_then_refused before call frame).mp listed with old | ⟨-, handed⟩
    · exact .inl (distinct.refusedHanded frame old)
    · exact .inr handed
  · intro frame listed
    rw [mem_then_handed]
    rcases (mem_then_returned before call frame).mp listed with old | returned
    · exact .inl (distinct.returnedHanded frame old)
    · exact .inr (write_on_returned returned).1
  · intro frame refused returned
    rcases (mem_then_refused before call frame).mp refused with old | ⟨failed, handed⟩
    · rcases (mem_then_returned before call frame).mp returned with earlier | now
      · exact distinct.disjoint frame old earlier
      · exact newFrame frame (write_on_returned now).1 (distinct.refusedHanded frame old)
    · rcases (mem_then_returned before call frame).mp returned with earlier | now
      · exact newFrame frame handed (distinct.returnedHanded frame earlier)
      · exact (write_on_returned now).2 failed

theorem write_all_distinct (noWrap : TicksFit node calls) : Distinct (writeAll node calls) := by
  induction calls using List.reverseRecOn with
  | nil => constructor <;> simp [writeAll, Outcome.start]
  | append_singleton calls call ih =>
    have fits := ticks_fit_snoc noWrap
    rw [write_all_snoc]
    exact distinct_then (ih fits.1) fits.2

end

variable {store : FrameStore}

variable {logs : OriginLogs}

theorem reopen_recorded (stores : Stores store logs) {order : List (List UInt8)}
    (byteOrder : ByteOrder order store) {selfId : PeerId} {readable : List UInt8 → Bool}
    {rebuilt : SyncState} (opened : withPersister selfId store readable order = .ok rebuilt)
    (frame : WriteFrame) :
    Recorded rebuilt frame ↔ logs.Contains frame := by
  rcases reopen_backed stores byteOrder selfId none with ⟨frames, reloaded, listed, backed⟩
  have same : rebuilt = replayAll (SyncState.new selfId) frames := by
    unfold withPersister at opened
    cases loaded : load store readable order with
    | error error => simp [loaded] at opened
    | ok others =>
      rw [load_readable loaded, Except.ok.injEq] at reloaded
      rw [loaded, reloaded] at opened
      exact (Except.ok.inj opened).symm
  have fresh : (SyncState.new selfId).log.Holds logs := holds_new selfId logs
  have replayed := replay_all_holds fresh fun other => (listed other).mp
  have base : (replayAll (SyncState.new selfId) frames).log.baseOf frame.stamp.peer = 0 :=
    (replayed.2 frame.stamp.peer).trans (getOr_empty _ _)
  have whole : (replayAll (SyncState.new selfId) frames).log.cursorFor frame.stamp.peer =
      (logs.frames frame.stamp.peer).length := backed.cursors frame.stamp.peer
  unfold Recorded OriginLogs.Contains
  rw [same, (replayed.1 frame.stamp.peer).2, base, whole]
  simp [listSegment]

theorem dangling_stores {node : DurableNode} {pending : Option WriteFrame}
    (dangling : Dangling logs node pending) :
    ∃ history, Stores node.store history ∧
      ∀ frame, history.Contains frame ↔ logs.Contains frame ∨ pending = some frame := by
  cases dangling with
  | settled backed => exact ⟨logs, backed.stores, fun frame => by simp⟩
  | pending backed peer next fits encoded store =>
    rename_i base frame
    have number := backed_next backed next
    refine ⟨logs.append frame number, ?_, ?_⟩
    · rw [store]
      exact stores_insert backed.stores number fits encoded
    · exact contains_append_iff number

/-- A refused write stays out of the rebuilt state exactly when the last inserted
entry was synced. A frame that was refused and also returned is the same write
accepted later, which takes a clock that wrapped. -/
theorem refused_writes_stay_refused_iff {selfId : PeerId} {auth : Option FrameAuth}
    {node : DurableNode} (run : Runs (DurableNode.fresh selfId auth) node)
    (calls : List WriteCall)
    (fits : ∀ frame ∈ (writeAll node calls).handed, frame.FitsWidths)
    {order : List (List UInt8)} (byteOrder : ByteOrder order (writeAll node calls).node.store)
    {newId : PeerId} {readable : List UInt8 → Bool} {rebuilt : SyncState}
    (opened : withPersister newId (writeAll node calls).node.store readable order = .ok rebuilt) :
    ((∀ frame ∈ (writeAll node calls).refused,
        Recorded rebuilt frame → frame ∈ (writeAll node calls).returned) ↔
      LastInsertSynced calls) ∧
    (TicksFit node calls →
      ((∀ frame ∈ (writeAll node calls).refused, ¬Recorded rebuilt frame) ↔
        LastInsertSynced calls)) := by
  rcases runs_backed (fresh_backed selfId auth) run with ⟨logs, backed, -⟩
  rcases write_all_summary backed calls fits with ⟨history, pending, summary⟩
  rcases dangling_stores summary.dangling with ⟨kept, stores, contained⟩
  have recorded : ∀ frame, Recorded rebuilt frame ↔
      history.Contains frame ∨ pending = some frame := by
    intro frame
    rw [reopen_recorded stores byteOrder opened, contained]
  have unreturned : ∀ frame, pending = some frame → frame ∉ (writeAll node calls).returned := by
    intro frame isPending returned
    have dangling := summary.dangling
    rw [isPending] at dangling
    exact dangling_pending_new dangling ((summary.written frame).mpr (.inr returned))
  have loose : (∀ frame ∈ (writeAll node calls).refused,
      Recorded rebuilt frame → frame ∈ (writeAll node calls).returned) ↔
      LastInsertSynced calls := by
    rw [← summary.settled]
    constructor
    · intro clean
      cases dangling : pending with
      | none => rfl
      | some frame =>
        have refused := summary.pendingRefused frame dangling
        have returned := clean frame refused ((recorded frame).mpr (.inr dangling))
        exact (unreturned frame dangling returned).elim
    · intro settled frame refused isRecorded
      rcases (recorded frame).mp isRecorded with old | dangling
      · rcases (summary.written frame).mp old with prior | returned
        · exact (summary.refusedNew frame refused prior).elim
        · exact returned
      · rw [settled] at dangling
        cases dangling
  refine ⟨loose, ?_⟩
  intro noWrap
  rw [← loose]
  constructor
  · intro clean frame refused isRecorded
    exact (clean frame refused isRecorded).elim
  · intro clean frame refused isRecorded
    exact (write_all_distinct noWrap).disjoint frame refused (clean frame refused isRecorded)

def failedSync : WriteCall := ⟨5, .insert, "task", "t1", [7], ⟨true, false⟩⟩

def nextWrite : WriteCall := ⟨6, .insert, "task", "t2", [8], ⟨true, true⟩⟩

def refusedFrame : WriteFrame :=
  ⟨⟨⟨5, 0⟩, peerNumber 1⟩, 1, .insert, "task", "t1", [7], none⟩

def acceptedFrame : WriteFrame :=
  ⟨⟨⟨6, 0⟩, peerNumber 1⟩, 1, .insert, "task", "t2", [8], none⟩

def firstFrameKey : List UInt8 := (peerNumber 1).bytes ++ [0, 0, 0, 0, 0, 0, 0, 1]

theorem open_single_entry {frame : WriteFrame} (fits : frame.FitsWidths)
    (lengths : checkLengths frame.entity frame.id frame.data = .ok ())
    (held : store.lookup firstFrameKey = some frame.fields.flatten) :
    withPersister (peerNumber 1) store (fun _ => true) [firstFrameKey] =
      .ok (replayAll (SyncState.new (peerNumber 1)) [frame]) := by
  have decoded := decode_encode_append fits (encode_of_check_lengths lengths) []
  rw [List.append_nil] at decoded
  have read : readEntry store (fun _ => true) firstFrameKey = .ok frame := by
    simp [readEntry, getOr_of_lookup held, decoded]
  have loaded : load store (fun _ => true) [firstFrameKey] = .ok [frame] := by
    rw [load, List.mapM_cons, read]
    rfl
  rw [withPersister, loaded]

/-- The only write is refused because its sync fails, and a reopened node shows it. -/
theorem failed_sync_write_returns_after_reopen :
    let outcome := writeAll (DurableNode.fresh (peerNumber 1) none) [failedSync]
    ∃ rebuilt, outcome.refused = [refusedFrame] ∧ outcome.returned = [] ∧
      outcome.node.state.visible "task" "t1" = none ∧
      ByteOrder [firstFrameKey] outcome.node.store ∧
      withPersister (peerNumber 1) outcome.node.store (fun _ => true) [firstFrameKey] =
        .ok rebuilt ∧
      Recorded rebuilt refusedFrame ∧ rebuilt.visible "task" "t1" = some [7] := by
  intro outcome
  have byteOrder : ByteOrder [firstFrameKey] outcome.node.store :=
    ⟨visits_of_keys (by decide) (by decide), by decide⟩
  have held : outcome.node.store.lookup firstFrameKey = some refusedFrame.fields.flatten := by
    decide
  have opened := open_single_entry ⟨by decide, by decide, by decide⟩ (by decide) held
  exact ⟨_, by decide, by decide, by decide, byteOrder, opened, by decide, by decide⟩

/-- A later write that is synced takes the key of the refused one. -/
theorem failed_sync_write_overwritten :
    let outcome := writeAll (DurableNode.fresh (peerNumber 1) none) [failedSync, nextWrite]
    outcome.refused = [refusedFrame] ∧ ∃ rebuilt,
      withPersister (peerNumber 1) outcome.node.store (fun _ => true) [firstFrameKey] =
        .ok rebuilt ∧ ¬Recorded rebuilt refusedFrame := by
  intro outcome
  have fits : ∀ frame ∈ outcome.handed, frame.FitsWidths := by
    have handed : outcome.handed = [refusedFrame, acceptedFrame] := by decide
    rw [handed, List.forall_mem_cons, List.forall_mem_singleton]
    exact ⟨⟨by decide, by decide, by decide⟩, ⟨by decide, by decide, by decide⟩⟩
  have byteOrder : ByteOrder [firstFrameKey] outcome.node.store :=
    ⟨visits_of_keys (by decide) (by decide), by decide⟩
  have held : outcome.node.store.lookup firstFrameKey = some acceptedFrame.fields.flatten := by
    decide
  have opened := open_single_entry ⟨by decide, by decide, by decide⟩ (by decide) held
  have lastSynced : LastInsertSynced [failedSync, nextWrite] := by
    intro call last
    have isNext : ([failedSync, nextWrite].filter WriteCall.inserts).getLast? = some nextWrite := by
      decide
    rw [isNext] at last
    cases last
    rfl
  have refused : outcome.refused = [refusedFrame] := by decide
  have stays := (refused_writes_stay_refused_iff .refl _ fits byteOrder opened).1.mpr lastSynced
  refine ⟨refused, _, opened, ?_⟩
  intro recorded
  have returned := stays refusedFrame (by rw [refused]; exact List.mem_singleton_self _) recorded
  revert returned
  decide

end Stitch.P2P.RefusedWrites
