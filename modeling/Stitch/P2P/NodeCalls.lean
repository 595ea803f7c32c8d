import Stitch.P2P.FrameCodec
import Stitch.P2P.NodeState

/-!
# Calls on a node and what they do to its clock

Each call ticks the clock, lets it observe a stamp, or leaves it alone; `Call.advance` says
which. The counter of a stamp is a `u32` taken from the wire as it is. A write that fails to
persist has ticked the clock already.
-/

namespace Stitch.P2P.NodeCalls

open HybridClock LastWriterWins WireFormat ReplicationLog NodeState FrameCodec

/-- A call with what the persister and the wall clock answer to it. -/
inductive Call where
  | localWrite (persisted : Bool) (wallMs : Nat) (op : Op) (entity id : String)
      (data : List UInt8)
  | receive (persisted : Bool) (frame : WriteFrame) (wallMs : Nat)
  | replay (frame : WriteFrame)
  | collectTombstone (entity id : String)
  | reclaim (origins members : List PeerId)
  | notePeerCursors (peer : PeerId) (cursors : Cursors)
  | setAuth (auth : FrameAuth)

inductive Reply where
  | written (result : Except WriteError WriteFrame)
  | received (outcome : RecordOutcome)
  | collected (found : Bool)
  | reclaimed (dropped : Nat)
  | done

def call (state : SyncState) : Call → SyncState × Reply
  | .localWrite persisted wallMs op entity id data =>
    let written := state.localWrite persisted wallMs op entity id data
    (written.1, .written written.2)
  | .receive persisted frame wallMs =>
    let received := state.receive persisted frame wallMs
    (received.1, .received received.2)
  | .replay frame => (state.replay frame, .done)
  | .collectTombstone entity id =>
    let collected := state.collectTombstone entity id
    (collected.1, .collected collected.2)
  | .reclaim origins members =>
    let reclaimed := state.reclaim origins members
    (reclaimed.1, .reclaimed reclaimed.2)
  | .notePeerCursors peer cursors => (state.notePeerCursors peer cursors, .done)
  | .setAuth auth => (state.setAuth auth, .done)

def callAll (state : SyncState) (calls : List Call) : SyncState :=
  calls.foldl (fun current next => (call current next).1) state

def replies (state : SyncState) : List Call → List Reply
  | [] => []
  | next :: rest => (call state next).2 :: replies (call state next).1 rest

inductive Advance where
  | tick (wallMs : Nat)
  | observe (remote : Hlc) (wallMs : Nat)

section

def Advance.apply (clock : Hlc) : Advance → Hlc
  | .tick wallMs => clock.tick wallMs
  | .observe remote wallMs => clock.observe remote wallMs

def Advance.Fits (clock : Hlc) : Advance → Prop
  | .tick wallMs => clock.TickFits wallMs
  | .observe remote wallMs => clock.ObserveFits remote wallMs

def Advance.remote : Advance → Option Hlc
  | .tick _ => none
  | .observe remote _ => some remote

def Call.advance (state : SyncState) : Call → Option Advance
  | .localWrite _ wallMs _ entity id data =>
    match checkLengths entity id data with
    | .error _ => none
    | .ok _ => some (.tick wallMs)
  | .receive _ frame wallMs =>
    if state.refuses frame then none else some (.observe frame.stamp.hlc wallMs)
  | .replay frame => some (.observe frame.stamp.hlc frame.stamp.hlc.physical)
  | _ => none

def Call.remote : Call → Option Hlc
  | .receive _ frame _ => some frame.stamp.hlc
  | .replay frame => some frame.stamp.hlc
  | _ => none

def Call.Fits (state : SyncState) (next : Call) : Prop :=
  ∀ advance ∈ next.advance state, advance.Fits state.clock

variable {state : SyncState} {clock : Hlc}

theorem local_write_clock (persisted : Bool) (wallMs : Nat) (op : Op) (entity id : String)
    (data : List UInt8) :
    (state.localWrite persisted wallMs op entity id data).1.clock =
      match checkLengths entity id data with
      | .error _ => state.clock
      | .ok _ => state.clock.tick wallMs := by
  unfold SyncState.localWrite
  cases checkLengths entity id data with
  | error error => rfl
  | ok checked =>
    cases state.signFrame (state.unsignedFrame wallMs op entity id data) with
    | error error => rfl
    | ok frame => cases persisted <;> rfl

theorem call_clock (state : SyncState) (next : Call) :
    (call state next).1.clock =
      ((next.advance state).map (Advance.apply state.clock)).getD state.clock := by
  cases next with
  | localWrite persisted wallMs op entity id data =>
    simp only [call, local_write_clock, Call.advance]
    cases checkLengths entity id data <;> rfl
  | receive persisted frame wallMs =>
    simp only [call, receive_clock, Call.advance]
    split_ifs <;> rfl
  | replay frame | collectTombstone entity id => rfl
  | reclaim origins members => exact reclaim_clock state origins members
  | notePeerCursors peer cursors | setAuth auth => rfl

variable {advance : Advance}

theorem advance_remote {next : Call} (made : advance ∈ next.advance state) :
    advance.remote = next.remote := by
  cases next with
  | localWrite persisted wallMs op entity id data =>
    simp only [Call.advance] at made
    cases checked : checkLengths entity id data with
    | error error => simp [checked] at made
    | ok checked =>
      simp only [*, Option.mem_some_iff] at made
      rw [← made]
      rfl
  | receive persisted frame wallMs =>
    simp only [Call.advance] at made
    split_ifs at made
    · cases made
    · cases made
      rfl
  | replay frame =>
    cases made
    rfl
  | _ => cases made

theorem lt_apply (fits : advance.Fits clock) :
    clock < advance.apply clock ∧ ∀ remote ∈ advance.remote, remote < advance.apply clock := by
  cases advance with
  | tick wallMs => exact ⟨lt_tick fits, by simp [Advance.remote]⟩
  | observe remote wallMs =>
    obtain ⟨own, theirs⟩ := lt_observe fits
    refine ⟨own, ?_⟩
    intro other same
    cases same
    exact theirs

theorem fits_of_lt_apply (width : clock.logical < u32Size)
    (remoteWidth : ∀ remote ∈ advance.remote, remote.logical < u32Size)
    (ahead : clock < advance.apply clock)
    (past : ∀ remote ∈ advance.remote, remote < advance.apply clock) : advance.Fits clock := by
  cases advance with
  | tick wallMs =>
    intro still
    rw [hlc_lt_iff] at ahead
    simp only [Advance.apply, Hlc.tick, if_pos still] at ahead
    unfold u32Size at *
    omega
  | observe remote wallMs =>
    have beyond := past remote rfl
    rw [hlc_lt_iff] at ahead beyond
    simp only [Advance.apply, Hlc.observe] at ahead beyond
    constructor
    · intro own
      unfold u32Size at *
      split_ifs at ahead beyond <;> omega
    · intro theirs
      unfold u32Size at *
      split_ifs at ahead beyond <;> omega

theorem apply_logical (clock : Hlc) (advance : Advance) :
    (advance.apply clock).logical < u32Size ∧
      ∀ bound, clock.logical ≤ bound →
        (∀ remote ∈ advance.remote, remote.logical ≤ bound) →
        (advance.apply clock).logical ≤ bound + 1 := by
  have size : 0 < u32Size := by decide
  have wraps (value : Nat) : value % u32Size < u32Size ∧ value % u32Size ≤ value :=
    ⟨Nat.mod_lt _ size, Nat.mod_le _ _⟩
  cases advance with
  | tick wallMs =>
    have own := wraps (clock.logical + 1)
    simp only [Advance.apply, Hlc.tick]
    split_ifs
    · exact ⟨own.1, fun bound low _ => by omega⟩
    · exact ⟨size, fun bound low _ => by omega⟩
  | observe remote wallMs =>
    have both := wraps (max clock.logical remote.logical + 1)
    have own := wraps (clock.logical + 1)
    have theirs := wraps (remote.logical + 1)
    simp only [Advance.apply, Hlc.observe, Advance.remote, Option.mem_some_iff, forall_eq']
    split_ifs
    · exact ⟨both.1, fun bound low remoteLow => by omega⟩
    · exact ⟨own.1, fun bound low remoteLow => by omega⟩
    · exact ⟨theirs.1, fun bound low remoteLow => by omega⟩
    · exact ⟨size, fun bound low remoteLow => by omega⟩

theorem fits_of_logical {bound : Nat} (own : clock.logical ≤ bound)
    (remote : ∀ remote ∈ advance.remote, remote.logical ≤ bound) (room : bound + 1 < u32Size) :
    advance.Fits clock := by
  cases advance with
  | tick wallMs =>
    intro _
    omega
  | observe stamp wallMs =>
    have theirs := remote stamp rfl
    exact ⟨fun _ => by omega, fun _ => by omega⟩

variable {calls : List Call}

theorem call_all_snoc (state : SyncState) (calls : List Call) (last : Call) :
    callAll state (calls ++ [last]) = (call (callAll state calls) last).1 := by
  simp [callAll, List.foldl_append]

/-- The counter exceeds the largest one that came in by at most the number of calls. -/
theorem call_all_logical (selfId : PeerId) (calls : List Call) :
    (callAll (SyncState.new selfId) calls).clock.logical < u32Size ∧
      ∀ bound, (∀ next ∈ calls, ∀ remote ∈ next.remote, remote.logical ≤ bound) →
        (callAll (SyncState.new selfId) calls).clock.logical ≤ bound + calls.length := by
  induction calls using List.reverseRecOn with
  | nil =>
    have positive : 0 < u32Size := by decide
    exact ⟨positive, fun bound _ => Nat.zero_le _⟩
  | append_singleton calls last ih =>
    rw [call_all_snoc, call_clock, List.length_append, List.length_singleton]
    cases made : last.advance (callAll (SyncState.new selfId) calls) with
    | none =>
      refine ⟨ih.1, ?_⟩
      intro bound low
      have before := ih.2 bound (fun next member => low next (List.mem_append_left _ member))
      dsimp only [Option.map_none, Option.getD_none]
      omega
    | some advance =>
      have raised := apply_logical (callAll (SyncState.new selfId) calls).clock advance
      refine ⟨raised.1, ?_⟩
      intro bound low
      have before := ih.2 bound (fun next member => low next (List.mem_append_left _ member))
      have incoming : ∀ remote ∈ advance.remote, remote.logical ≤ bound := by
        rw [advance_remote made]
        exact low last (by simp)
      exact raised.2 (bound + calls.length) before
        (fun remote given => (incoming remote given).trans (Nat.le_add_right _ _))

/-- After any calls, a change of the clock by any stamp of a decodable frame exceeds the
clock and the stamp exactly when the increment does not wrap, and it does not wrap while
the counters received and the number of calls stay below the width of the counter. -/
theorem clock_advances_while_counters_fit (selfId : PeerId) (calls : List Call)
    (advance : Advance)
    (decodable : ∀ remote ∈ advance.remote, ∃ buf frame,
      WriteFrame.decode buf = .ok frame ∧ frame.stamp.hlc = remote) :
    let clock := (callAll (SyncState.new selfId) calls).clock
    (advance.Fits clock ↔ clock < advance.apply clock ∧
      ∀ remote ∈ advance.remote, remote < advance.apply clock) ∧
    ∀ bound, (∀ next ∈ calls, ∀ remote ∈ next.remote, remote.logical ≤ bound) →
      (∀ remote ∈ advance.remote, remote.logical ≤ bound) →
      bound + calls.length + 1 < u32Size → advance.Fits clock := by
  intro clock
  obtain ⟨width, raised⟩ := call_all_logical selfId calls
  constructor
  · constructor
    · exact lt_apply
    · intro ahead
      refine fits_of_lt_apply width ?_ ahead.1 ahead.2
      intro remote given
      obtain ⟨buf, frame, decoded, same⟩ := decodable remote given
      rw [← same]
      exact (decode_stands_in decoded).1.widths.logical
  · intro bound counters incoming room
    apply fits_of_logical (raised bound counters) _ room
    intro remote given
    exact (incoming remote given).trans (Nat.le_add_right _ _)

def counterFrame (logical : Nat) : WriteFrame where
  stamp := ⟨⟨9, logical⟩, peerNumber 2⟩
  seq := 1
  op := .insert
  entity := "task"
  id := "t1"
  data := [7]
  signature := none

theorem counter_frame_decodable {logical : Nat} (width : logical < u32Size) :
    ∃ buf, WriteFrame.decode buf = .ok (counterFrame logical) := by
  have lengths : checkLengths "task" "t1" [7] = .ok () := by decide
  have encoded : (counterFrame logical).encode = .ok (counterFrame logical).fields.flatten :=
    encode_of_check_lengths lengths
  have instant : (9 : Nat) < 256 ^ 8 := by decide
  have first : (1 : Nat) < 256 ^ 8 := by decide
  exact ⟨_, decode_encode_append ⟨instant, width, first⟩ encoded []⟩

/-- A node that received counter 3 still observes counter 3 of the same instant. -/
theorem small_counters_advance :
    let clock := (callAll (SyncState.new (peerNumber 1)) [.receive true (counterFrame 3) 0]).clock
    clock = ⟨9, 4⟩ ∧ (Advance.observe ⟨9, 3⟩ 0).Fits clock ∧
      clock < clock.observe ⟨9, 3⟩ 0 := by
  intro clock
  have three : 3 < u32Size := by decide
  obtain ⟨buf, decoded⟩ := counter_frame_decodable three
  have next := clock_advances_while_counters_fit (peerNumber 1)
    [.receive true (counterFrame 3) 0] (.observe ⟨9, 3⟩ 0) (by
      intro remote given
      cases given
      exact ⟨buf, counterFrame 3, decoded, rfl⟩)
  have fits := next.2 3 (by simp [Call.remote, counterFrame]) (by simp [Advance.remote])
    (by decide)
  exact ⟨by decide, fits, (next.1.mp fits).1⟩

/-- A frame with the last counter makes `observe` wrap below the stamp it observed. After a
frame with the counter before it, the next local write moves the clock back. -/
theorem last_counter_moves_clock_back :
    let fresh := SyncState.new (peerNumber 1)
    let wrapped := (fresh.receive true (counterFrame (u32Size - 1)) 0).1
    let full := (fresh.receive true (counterFrame (u32Size - 2)) 0).1
    let written := full.localWrite true 5 .insert "task" "t2" [8]
    (∃ buf, WriteFrame.decode buf = .ok (counterFrame (u32Size - 1))) ∧
      ¬fresh.clock.ObserveFits (counterFrame (u32Size - 1)).stamp.hlc 0 ∧
      wrapped.clock < (counterFrame (u32Size - 1)).stamp.hlc ∧
    (∃ buf, WriteFrame.decode buf = .ok (counterFrame (u32Size - 2))) ∧
      fresh.clock.ObserveFits (counterFrame (u32Size - 2)).stamp.hlc 0 ∧
      ¬full.clock.TickFits 5 ∧ written.1.clock < full.clock := by
  intro fresh wrapped full written
  refine ⟨counter_frame_decodable (by decide), by decide, ?_,
    counter_frame_decodable (by decide), by decide, ?_, ?_⟩
  · rw [hlc_lt_iff]
    decide
  · decide
  · rw [hlc_lt_iff]
    decide

end

section

variable {state next : SyncState} {persisted : Bool} {wallMs : Nat} {op : Op}
  {entity id : String} {data : List UInt8} {error : WriteError}

theorem sign_frame_of_check_lengths (state : SyncState) (frame : WriteFrame)
    (lengths : checkLengths frame.entity frame.id frame.data = .ok ()) :
    ∃ signed, state.signFrame frame = .ok signed := by
  unfold SyncState.signFrame
  cases state.auth with
  | none => exact ⟨frame, rfl⟩
  | some auth =>
    have bytes : frame.signingBytes = .ok frame.signingFields.flatten := by
      rw [WriteFrame.signingBytes, lengths]
    rw [bytes]
    exact ⟨_, rfl⟩

theorem local_write_refused
    (refused : state.localWrite persisted wallMs op entity id data = (next, .error error)) :
    (checkLengths entity id data ≠ .ok () ∧ next = state) ∨
      (checkLengths entity id data = .ok () ∧
        next = { state with clock := state.clock.tick wallMs }) := by
  unfold SyncState.localWrite at refused
  cases lengths : checkLengths entity id data with
  | error wire =>
    simp only [lengths, Prod.mk.injEq, Except.error.injEq] at refused
    exact Or.inl ⟨nofun, refused.1.symm⟩
  | ok checked =>
    obtain ⟨frame, signed⟩ := sign_frame_of_check_lengths state
      (state.unsignedFrame wallMs op entity id data) lengths
    cases persisted with
    | true => simp [lengths, signed] at refused
    | false =>
      simp only [lengths, signed, Bool.false_eq_true, if_false, Prod.mk.injEq,
        Except.error.injEq] at refused
      exact Or.inr ⟨rfl, refused.1.symm⟩

theorem tick_ne {clock : Hlc} (width : clock.logical < u32Size) (wallMs : Nat) :
    clock.tick wallMs ≠ clock := by
  intro same
  have physical := congrArg Hlc.physical same
  have logical := congrArg Hlc.logical same
  simp only [Hlc.tick] at physical logical
  rw [if_pos physical] at logical
  have below : clock.logical < 2 ^ 32 := width
  unfold u32Size at logical
  omega

/-- A refused write changes nothing but the clock, and leaves the clock alone exactly when
`check_lengths` refuses its arguments. -/
theorem refused_write_unchanged_iff (width : state.clock.logical < u32Size)
    (refused : state.localWrite persisted wallMs op entity id data = (next, .error error)) :
    { next with clock := state.clock } = state ∧
      (next = state ↔ checkLengths entity id data ≠ .ok ()) ∧
      (checkLengths entity id data ≠ .ok () → ∀ calls, replies next calls = replies state calls) := by
  rcases local_write_refused refused with ⟨lengths, same⟩ | ⟨fits, ticked⟩
  · rw [same]
    exact ⟨rfl, ⟨fun _ => lengths, fun _ => rfl⟩, fun _ _ => rfl⟩
  · refine ⟨by rw [ticked], ⟨?_, fun other => absurd fits other⟩, fun other => absurd fits other⟩
    intro same
    rw [ticked] at same
    exact absurd (congrArg SyncState.clock same) (tick_ne width wallMs)

/-- A name of 256 bytes is refused and leaves a fresh node as it is. -/
theorem long_name_refused_unchanged :
    let fresh := SyncState.new (peerNumber 1)
    let long := String.ofList (List.replicate 256 'a')
    let refused := fresh.localWrite true 5 .insert long "t1" [7]
    refused.2 = .error (.wire .entityTooLong) ∧ refused.1 = fresh := by
  intro fresh long refused
  have lengths : checkLengths long "t1" [7] = .error .entityTooLong := by
    decide +kernel
  have outcome : refused = (fresh, .error (.wire .entityTooLong)) := by
    simp only [refused, SyncState.localWrite, lengths]
  have unchanged := refused_write_unchanged_iff (by decide) outcome
  rw [outcome]
  exact ⟨rfl, unchanged.2.1.mpr (by rw [lengths]; nofun)⟩

/-- A write the persister refuses leaves its tick behind: the next write at the same wall
time gets another stamp than it would have had. -/
theorem unpersisted_write_moves_next_stamp :
    let fresh := SyncState.new (peerNumber 1)
    let refused := fresh.localWrite false 5 .insert "task" "t1" [7]
    let next : Call := .localWrite true 5 .insert "task" "t2" [8]
    refused.2 = .error .persist ∧ fresh.clock = ⟨0, 0⟩ ∧ refused.1.clock = ⟨5, 0⟩ ∧
      (fresh.localWrite true 5 .insert "task" "t2" [8]).2.toOption.map WriteFrame.stamp =
        some ⟨⟨5, 0⟩, peerNumber 1⟩ ∧
      (refused.1.localWrite true 5 .insert "task" "t2" [8]).2.toOption.map WriteFrame.stamp =
        some ⟨⟨5, 1⟩, peerNumber 1⟩ ∧
      replies refused.1 [next] ≠ replies fresh [next] := by
  intro fresh refused next
  have before : (fresh.localWrite true 5 .insert "task" "t2" [8]).2.toOption.map
      WriteFrame.stamp = some ⟨⟨5, 0⟩, peerNumber 1⟩ := by decide
  have after : (refused.1.localWrite true 5 .insert "task" "t2" [8]).2.toOption.map
      WriteFrame.stamp = some ⟨⟨5, 1⟩, peerNumber 1⟩ := by decide
  refine ⟨rfl, rfl, by decide, before, after, ?_⟩
  intro same
  simp only [replies, call, next, List.cons.injEq, Reply.written.injEq, and_true] at same
  rw [same, before] at after
  exact absurd after (by decide)

end

end Stitch.P2P.NodeCalls
