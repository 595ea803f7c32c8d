import Stitch.P2P.ReplicationLog

/-!
# Sync state of one node

Transcription of `sync_state.rs`. An operation that persists takes the answer of `append` as the
argument `persisted`, which is `true` when no persister is attached. The event bus is the list of
events sent so far.
-/

namespace Stitch.P2P.NodeState

open Foundation.FiniteMap HybridClock LastWriterWins WireFormat ReplicationLog

inductive WriteError where
  | wire (error : WireError)
  | persist
  deriving DecidableEq

structure FrameAuth where
  sign : List UInt8 → Signature
  verify : WriteFrame → Bool

def signedOnly : FrameAuth where
  sign _ := ⟨List.replicate 64 0, rfl⟩
  verify frame := frame.signature.isSome

inductive WriteOrigin where
  | localWrite
  | remote
  deriving DecidableEq

structure MutationEvent where
  op : Op
  entity : String
  id : String
  data : Option (List UInt8)
  origin : WriteOrigin
  deriving DecidableEq

structure SyncState where
  selfId : PeerId
  clock : Hlc
  log : ReplLog
  applier : Applier
  events : List MutationEvent
  auth : Option FrameAuth
  peerCursors : HashMap PeerId Cursors

def SyncState.new (selfId : PeerId) : SyncState where
  selfId := selfId
  clock := Hlc.zero
  log := ReplLog.new selfId
  applier := Applier.new
  events := []
  auth := none
  peerCursors := ∅

section

variable (state : SyncState)

def SyncState.setAuth (auth : FrameAuth) : SyncState := { state with auth := some auth }

def SyncState.notePeerCursors (peer : PeerId) (cursors : Cursors) : SyncState :=
  { state with peerCursors := state.peerCursors.insert peer cursors }

/-- The cursor a peer last reported for an origin, 0 when it never did. -/
def SyncState.reportedCursor (peer origin : PeerId) : Nat :=
  getOr (getOr state.peerCursors peer ∅) origin 0

/-- The minimum cursor for an origin over this node and the listed members. -/
def SyncState.lowWaterMark (members : List PeerId) (origin : PeerId) : Nat :=
  members.foldl
    (fun lwm member =>
      if member = state.selfId then lwm else min lwm (state.reportedCursor member origin))
    (state.log.cursorFor origin)

def SyncState.reclaimOrigin (members : List PeerId) (origin : PeerId) : SyncState × Nat :=
  let lwm := state.lowWaterMark members origin
  if 0 < lwm then
    let truncated := state.log.truncate origin lwm
    ({ state with log := truncated.1 }, truncated.2)
  else (state, 0)

/-- `origins` is the order in which the keys of `cursors()` were collected. -/
def SyncState.reclaim (origins members : List PeerId) : SyncState × Nat :=
  origins.foldl
    (fun (current : SyncState × Nat) origin =>
      let next := current.1.reclaimOrigin members origin
      (next.1, current.2 + next.2))
    (state, 0)

def SyncState.replay (frame : WriteFrame) : SyncState :=
  let clock := state.clock.observe frame.stamp.hlc frame.stamp.hlc.physical
  let recorded := state.log.record frame
  { state with
    clock := clock
    log := recorded.1
    applier :=
      if recorded.2 = .appended then (state.applier.merge frame.intoStamped).1
      else state.applier }

def SyncState.emit (frame : WriteFrame) (origin : WriteOrigin) : SyncState :=
  let data := if frame.op = .delete then none else some frame.data
  { state with events := state.events ++ [⟨frame.op, frame.entity, frame.id, data, origin⟩] }

def SyncState.unsignedFrame (wallMs : Nat) (op : Op) (entity id : String)
    (data : List UInt8) : WriteFrame where
  stamp := ⟨state.clock.tick wallMs, state.selfId⟩
  seq := state.log.nextSeq state.selfId
  op := op
  entity := entity
  id := id
  data := data
  signature := none

def SyncState.signFrame (frame : WriteFrame) : Except WireError WriteFrame :=
  match state.auth with
  | none => .ok frame
  | some auth =>
    match frame.signingBytes with
    | .error error => .error error
    | .ok bytes => .ok { frame with signature := some (auth.sign bytes) }

/-- The clock is advanced before signing and persisting, so a write refused
there leaves the advanced clock behind. -/
def SyncState.localWrite (persisted : Bool) (wallMs : Nat) (op : Op) (entity id : String)
    (data : List UInt8) : SyncState × Except WriteError WriteFrame :=
  match checkLengths entity id data with
  | .error error => (state, .error (.wire error))
  | .ok _ =>
    let ticked := { state with clock := state.clock.tick wallMs }
    match state.signFrame (state.unsignedFrame wallMs op entity id data) with
    | .error error => (ticked, .error (.wire error))
    | .ok frame =>
      if persisted then
        let written := { ticked with
          log := (state.log.record frame).1
          applier := (state.applier.merge frame.intoStamped).1 }
        (written.emit frame .localWrite, .ok frame)
      else (ticked, .error .persist)

/-- Verification fails: `auth` is set and `verify` answers false. -/
def SyncState.refuses (frame : WriteFrame) : Bool :=
  match state.auth with
  | some auth => !auth.verify frame
  | none => false

def SyncState.receive (persisted : Bool) (frame : WriteFrame) (wallMs : Nat) :
    SyncState × RecordOutcome :=
  if state.refuses frame then (state, .rejected)
  else
    let observed := { state with clock := state.clock.observe frame.stamp.hlc wallMs }
    let outcome := state.log.classify frame
    if outcome ≠ .appended then (observed, outcome)
    else if persisted then
      let merged := state.applier.merge frame.intoStamped
      let applied := { observed with
        log := (state.log.record frame).1
        applier := merged.1 }
      (if merged.2 = .applied then applied.emit frame .remote else applied, outcome)
    else (observed, .unpersisted)

def SyncState.cursors : Cursors := state.log.cursors

def SyncState.deltaSince (order : List PeerId) (their : Cursors) : List WriteFrame :=
  state.log.deltaSince order their

def SyncState.framesForEntity (order : List PeerId) (entity : String) : List WriteFrame :=
  state.log.framesForEntity order entity

def SyncState.visible (entity id : String) : Option (List UInt8) :=
  state.applier.visible entity id

def SyncState.visibleWithAuthor (entity id : String) : Option (List UInt8 × PeerId) :=
  state.applier.visibleWithAuthor entity id

def SyncState.entriesWithAuthors (order : List RecordKey) (entity : String) :
    List (String × List UInt8 × PeerId) :=
  state.applier.entriesWithAuthors order entity

def mergeAll (applier : Applier) (extra : List WriteFrame) : Applier :=
  extra.foldl (fun scratch frame => (scratch.merge frame.intoStamped).1) applier

/-- `order` visits the cells of the scratch applier. -/
def SyncState.entriesWithAuthorsIncluding (order : List RecordKey) (entity : String)
    (extra : List WriteFrame) : List (String × List UInt8 × PeerId) :=
  if extra = [] then state.applier.entriesWithAuthors order entity
  else (mergeAll state.applier extra).entriesWithAuthors order entity

def SyncState.collectTombstone (entity id : String) : SyncState × Bool :=
  let collected := state.applier.collectTombstone entity id
  ({ state with applier := collected.1 }, collected.2)

variable (persisted : Bool) (frame : WriteFrame) (wallMs : Nat)

/-- The frame passes verification and the persister stores it. -/
def SyncState.accepts : Bool := !state.refuses frame && persisted

theorem receive_cases :
    let after := (state.receive persisted frame wallMs).1
    (state.refuses frame = true ∧ after = state) ∨
      (state.refuses frame = false ∧
        (state.log.classify frame ≠ .appended ∨ persisted = false) ∧
        after = { state with clock := state.clock.observe frame.stamp.hlc wallMs }) ∨
      (state.refuses frame = false ∧ persisted = true ∧ state.log.classify frame = .appended ∧
        ∃ events, after = { state with
          clock := state.clock.observe frame.stamp.hlc wallMs
          log := (state.log.record frame).1
          applier := (state.applier.merge frame.intoStamped).1
          events := events }) := by
  unfold SyncState.receive
  dsimp only
  split_ifs with refused kept stored applied
  · exact Or.inl ⟨refused, rfl⟩
  · exact Or.inr (Or.inl ⟨Bool.eq_false_of_not_eq_true refused, Or.inl kept, rfl⟩)
  · exact Or.inr (Or.inr
      ⟨Bool.eq_false_of_not_eq_true refused, stored, not_not.mp kept, _, rfl⟩)
  · exact Or.inr (Or.inr
      ⟨Bool.eq_false_of_not_eq_true refused, stored, not_not.mp kept, state.events, rfl⟩)
  · exact Or.inr (Or.inl ⟨Bool.eq_false_of_not_eq_true refused,
      Or.inr (Bool.eq_false_of_not_eq_true stored), rfl⟩)

theorem receive_log :
    (state.receive persisted frame wallMs).1.log =
      if state.accepts persisted frame then (state.log.record frame).1 else state.log := by
  rcases receive_cases state persisted frame wallMs with
    ⟨refused, same⟩ | ⟨_, kept, same⟩ | ⟨allowed, stored, _, _, same⟩
  · rw [same]
    simp [SyncState.accepts, refused]
  · rw [same]
    rcases kept with kept | unstored
    · simp [record_unchanged _ _ kept]
    · simp [SyncState.accepts, unstored]
  · rw [same]
    simp [SyncState.accepts, allowed, stored]

theorem receive_applier :
    (state.receive persisted frame wallMs).1.applier =
      if state.accepts persisted frame ∧ state.log.classify frame = .appended then
        (state.applier.merge frame.intoStamped).1
      else state.applier := by
  rcases receive_cases state persisted frame wallMs with
    ⟨refused, same⟩ | ⟨_, kept, same⟩ | ⟨allowed, stored, appended, _, same⟩
  · rw [same]
    simp [SyncState.accepts, refused]
  · rw [same]
    rcases kept with kept | unstored
    · simp [kept]
    · simp [SyncState.accepts, unstored]
  · rw [same]
    simp [SyncState.accepts, allowed, stored, appended]

theorem receive_clock :
    (state.receive persisted frame wallMs).1.clock =
      if state.refuses frame then state.clock
      else state.clock.observe frame.stamp.hlc wallMs := by
  rcases receive_cases state persisted frame wallMs with
    ⟨refused, same⟩ | ⟨allowed, _, same⟩ | ⟨allowed, _, _, _, same⟩
  · rw [same, refused, if_pos rfl]
  · simp [same, allowed]
  · simp [same, allowed]

theorem receive_frame :
    let after := (state.receive persisted frame wallMs).1
    after.selfId = state.selfId ∧ after.auth = state.auth ∧
      after.peerCursors = state.peerCursors := by
  rcases receive_cases state persisted frame wallMs with
    ⟨_, same⟩ | ⟨_, _, same⟩ | ⟨_, _, _, _, same⟩ <;>
  · rw [same]
    exact ⟨rfl, rfl, rfl⟩

theorem receive_outcome :
    (state.receive persisted frame wallMs).2 =
      if state.refuses frame then .rejected
      else if state.log.classify frame ≠ .appended then state.log.classify frame
      else if persisted then .appended else .unpersisted := by
  unfold SyncState.receive
  split_ifs <;> simp_all

theorem receive_appended_iff :
    (state.receive persisted frame wallMs).2 = .appended ↔
      state.accepts persisted frame ∧ state.log.classify frame = .appended := by
  rw [receive_outcome]
  by_cases refused : state.refuses frame = true
  · simp [SyncState.accepts, refused]
  · by_cases appended : state.log.classify frame = .appended
    · cases persisted <;> simp [SyncState.accepts, refused, appended]
    · simp [refused, appended]

theorem receive_gap {expected got : Nat}
    (gap : (state.receive persisted frame wallMs).2 = .gap expected got) :
    state.log.cursorFor frame.stamp.peer + 1 < frame.seq := by
  rw [receive_outcome] at gap
  split_ifs at gap
  exact classify_gap gap

theorem receive_shown (appended : (state.receive persisted frame wallMs).2 = .appended)
    (key : RecordKey) :
    ((state.receive persisted frame wallMs).1.applier.cell key).shown =
      if key = (frame.entity, frame.id) ∧
          (state.applier.cell key).admits frame.stamp = true then
        (if frame.op.isDelete then none else some frame.intoStamped)
      else (state.applier.cell key).shown := by
  have recorded : (state.receive persisted frame wallMs).1.applier =
      (state.applier.merge frame.intoStamped).1 := by
    rw [receive_applier, if_pos ((receive_appended_iff _ _ _ _).mp appended)]
  rw [recorded]
  exact merge_shown_at state.applier frame.intoStamped key

end

theorem note_reported_cursor (state : SyncState) (sender : PeerId) (cursors : Cursors)
    (peer origin : PeerId) :
    (state.notePeerCursors sender cursors).reportedCursor peer origin =
      if peer = sender then getOr cursors origin 0 else state.reportedCursor peer origin := by
  unfold SyncState.reportedCursor SyncState.notePeerCursors
  split_ifs with same
  · rw [same, getOr_insert_self]
  · rw [getOr_insert_other _ _ _ same]

section

variable (state : SyncState) (frame : WriteFrame)

@[simp] theorem replay_log : (state.replay frame).log = (state.log.record frame).1 := rfl

theorem replay_applier :
    (state.replay frame).applier =
      if state.log.classify frame = .appended then (state.applier.merge frame.intoStamped).1
      else state.applier := by
  simp [SyncState.replay]

variable {state} {persisted : Bool} {wallMs : Nat} {op : Op} {entity id : String}
  {data : List UInt8}

theorem sign_frame_ok {unsigned frame : WriteFrame}
    (signed : state.signFrame unsigned = .ok frame) :
    frame.stamp = unsigned.stamp ∧ frame.seq = unsigned.seq ∧
      frame.intoStamped = unsigned.intoStamped := by
  unfold SyncState.signFrame at signed
  cases auth : state.auth with
  | none =>
    simp only [auth, Except.ok.injEq] at signed
    simp [signed]
  | some auth =>
    cases bytes : unsigned.signingBytes with
    | error error => simp [*] at signed
    | ok bytes =>
      simp only [*, Except.ok.injEq] at signed
      subst signed
      exact ⟨rfl, rfl, rfl⟩

variable {next : SyncState}

theorem local_write_built {frame : WriteFrame}
    (written : state.localWrite persisted wallMs op entity id data = (next, .ok frame)) :
    checkLengths entity id data = .ok () ∧
      state.signFrame (state.unsignedFrame wallMs op entity id data) = .ok frame ∧
      next = ({ state with
        clock := state.clock.tick wallMs
        log := (state.log.record frame).1
        applier := (state.applier.merge frame.intoStamped).1 }).emit frame .localWrite := by
  unfold SyncState.localWrite at written
  cases lengths : checkLengths entity id data with
  | error error => simp [lengths] at written
  | ok checked =>
    cases signed : state.signFrame (state.unsignedFrame wallMs op entity id data) with
    | error error => simp [lengths, signed] at written
    | ok built =>
      cases persisted with
      | false => simp [lengths, signed] at written
      | true =>
        simp only [lengths, signed, if_true, Prod.mk.injEq, Except.ok.injEq] at written
        obtain ⟨after, same⟩ := written
        subst same
        exact ⟨rfl, rfl, after.symm⟩

/-- A write that returns a frame recorded and merged it, and the frame is the
next one of this node. -/
theorem local_write_ok {frame : WriteFrame}
    (written : state.localWrite persisted wallMs op entity id data = (next, .ok frame)) :
    checkLengths entity id data = .ok () ∧
      frame.intoStamped = (state.unsignedFrame wallMs op entity id data).intoStamped ∧
      frame.stamp.peer = state.selfId ∧
      frame.seq = state.log.cursorFor state.selfId + 1 ∧
      next = ({ state with
        clock := state.clock.tick wallMs
        log := (state.log.record frame).1
        applier := (state.applier.merge frame.intoStamped).1 }).emit frame .localWrite := by
  obtain ⟨lengths, signed, after⟩ := local_write_built written
  obtain ⟨stamp, seq, stamped⟩ := sign_frame_ok signed
  refine ⟨lengths, stamped, ?_, seq, after⟩
  rw [stamp]
  rfl

theorem local_write_error {error : WriteError}
    (refused : state.localWrite persisted wallMs op entity id data = (next, .error error)) :
    next = state ∨ next = { state with clock := state.clock.tick wallMs } := by
  unfold SyncState.localWrite at refused
  cases lengths : checkLengths entity id data with
  | error error =>
    simp only [lengths, Prod.mk.injEq] at refused
    exact Or.inl refused.1.symm
  | ok checked =>
    cases signed : state.signFrame (state.unsignedFrame wallMs op entity id data) with
    | error error =>
      simp only [lengths, signed, Prod.mk.injEq] at refused
      exact Or.inr refused.1.symm
    | ok built =>
      cases persisted with
      | true => simp [lengths, signed] at refused
      | false =>
        simp only [lengths, signed, Bool.false_eq_true, if_false, Prod.mk.injEq]
          at refused
        exact Or.inr refused.1.symm

end

section

theorem reclaim_induction (Kept : SyncState → Prop) {members : List PeerId}
    (step : ∀ state origin, Kept state → Kept (state.reclaimOrigin members origin).1)
    (state : SyncState) (origins : List PeerId) (start : Kept state) :
    Kept (state.reclaim origins members).1 := by
  suffices general : ∀ (current : SyncState × Nat), Kept current.1 →
      Kept (origins.foldl
        (fun (current : SyncState × Nat) origin =>
          let next := current.1.reclaimOrigin members origin
          (next.1, current.2 + next.2)) current).1 from general (state, 0) start
  induction origins with
  | nil => exact fun current kept => kept
  | cons origin rest ih => exact fun current kept => ih _ (step current.1 origin kept)

section

variable (state : SyncState) (origin : PeerId)

theorem low_water_mark_le_start (members : List PeerId) (start : Nat) :
    members.foldl
      (fun lwm member =>
        if member = state.selfId then lwm else min lwm (state.reportedCursor member origin))
      start ≤ start := by
  induction members generalizing start with
  | nil => exact Nat.le_refl _
  | cons member members ih =>
    rw [List.foldl_cons]
    split_ifs
    · exact ih start
    · exact (ih _).trans (Nat.min_le_left _ _)

theorem low_water_mark_le_own (members : List PeerId) :
    state.lowWaterMark members origin ≤ state.log.cursorFor origin :=
  low_water_mark_le_start state origin members _

theorem low_water_mark_le_reported {members : List PeerId} {member : PeerId}
    (listed : member ∈ members) (other : member ≠ state.selfId) :
    state.lowWaterMark members origin ≤ state.reportedCursor member origin := by
  obtain ⟨before, after, rfl⟩ := List.append_of_mem listed
  rw [SyncState.lowWaterMark, List.foldl_append, List.foldl_cons, if_neg other]
  exact (low_water_mark_le_start state origin after _).trans (Nat.min_le_right _ _)

theorem low_water_mark_congr {left right : SyncState} (selfId : left.selfId = right.selfId)
    (peerCursors : left.peerCursors = right.peerCursors)
    (cursor : left.log.cursorFor origin = right.log.cursorFor origin) (members : List PeerId) :
    left.lowWaterMark members origin = right.lowWaterMark members origin := by
  simp only [SyncState.lowWaterMark, SyncState.reportedCursor, selfId, peerCursors, cursor]

end

theorem reclaim_origin_log (state : SyncState) (members : List PeerId) (origin : PeerId) :
    (state.reclaimOrigin members origin).1.log =
      (state.log.truncate origin (state.lowWaterMark members origin)).1 := by
  unfold SyncState.reclaimOrigin
  simp only
  split_ifs with positive
  · rfl
  · have zero : state.lowWaterMark members origin = 0 := Nat.eq_zero_of_not_pos positive
    simp [zero, ReplLog.truncate]

theorem reclaim_origin_frame (state : SyncState) (members : List PeerId) (origin : PeerId) :
    let after := (state.reclaimOrigin members origin).1
    after.selfId = state.selfId ∧ after.auth = state.auth ∧
      after.applier = state.applier ∧ after.peerCursors = state.peerCursors := by
  intro after
  simp only [after, SyncState.reclaimOrigin]
  split_ifs <;> simp

theorem reclaim_frame (state : SyncState) (origins members : List PeerId) :
    let after := (state.reclaim origins members).1
    after.selfId = state.selfId ∧ after.auth = state.auth ∧ after.applier = state.applier ∧
      after.peerCursors = state.peerCursors ∧
      ∀ origin, after.log.cursorFor origin = state.log.cursorFor origin := by
  intro after
  apply reclaim_induction fun current =>
    current.selfId = state.selfId ∧ current.auth = state.auth ∧
      current.applier = state.applier ∧ current.peerCursors = state.peerCursors ∧
      ∀ origin, current.log.cursorFor origin = state.log.cursorFor origin
  · intro current origin kept
    rcases kept with ⟨selfId, auth, applier, peerCursors, cursors⟩
    obtain ⟨sameId, sameAuth, sameApplier, sameReports⟩ :=
      reclaim_origin_frame current members origin
    refine ⟨sameId.trans selfId, sameAuth.trans auth, sameApplier.trans applier,
      sameReports.trans peerCursors, ?_⟩
    intro other
    rw [reclaim_origin_log, truncate_cursor, cursors]
  · exact ⟨rfl, rfl, rfl, rfl, fun _ => rfl⟩

theorem reclaim_field {Value : Type} (field : SyncState → Value)
    (besideLog : ∀ state log, field { state with log := log } = field state)
    (state : SyncState) (origins members : List PeerId) :
    field (state.reclaim origins members).1 = field state := by
  apply reclaim_induction fun current => field current = field state
  · intro current origin kept
    rw [← kept, SyncState.reclaimOrigin]
    split_ifs
    · exact besideLog _ _
    · rfl
  · rfl

variable (state : SyncState) (origins members : List PeerId)

include state origins members

theorem reclaim_clock :
    (state.reclaim origins members).1.clock = state.clock :=
  reclaim_field SyncState.clock (fun _ _ => rfl) state origins members

theorem reclaim_base_le {bound : PeerId → Nat}
    (before : ∀ origin, state.log.baseOf origin ≤ bound origin)
    (marks : ∀ origin, state.lowWaterMark members origin ≤ bound origin) (origin : PeerId) :
    (state.reclaim origins members).1.log.baseOf origin ≤ bound origin := by
  suffices kept : (state.reclaim origins members).1.selfId = state.selfId ∧
      (state.reclaim origins members).1.peerCursors = state.peerCursors ∧
      (∀ other, (state.reclaim origins members).1.log.cursorFor other =
        state.log.cursorFor other) ∧
      ∀ other, (state.reclaim origins members).1.log.baseOf other ≤ bound other from
    kept.2.2.2 origin
  apply reclaim_induction fun current =>
    current.selfId = state.selfId ∧ current.peerCursors = state.peerCursors ∧
      (∀ other, current.log.cursorFor other = state.log.cursorFor other) ∧
      ∀ other, current.log.baseOf other ≤ bound other
  · intro current origin kept
    rcases kept with ⟨selfId, peerCursors, cursors, bases⟩
    obtain ⟨sameId, -, -, sameReports⟩ := reclaim_origin_frame current members origin
    refine ⟨sameId.trans selfId, sameReports.trans peerCursors, ?_, ?_⟩
    · intro other
      rw [reclaim_origin_log, truncate_cursor, cursors]
    · intro other
      rw [reclaim_origin_log, truncate_base_of]
      split_ifs with same
      · subst same
        have mark := marks other
        rw [← low_water_mark_congr other selfId peerCursors (cursors other)] at mark
        have base := bases other
        omega
      · exact bases other
  · exact ⟨rfl, rfl, fun _ => rfl, before⟩

theorem reclaim_stored (origin : PeerId) :
    (∀ frame ∈ (state.reclaim origins members).1.log.stored origin,
        frame ∈ state.log.stored origin) ∧
      ∀ frame ∈ state.log.stored origin, state.lowWaterMark members origin < frame.seq →
        frame ∈ (state.reclaim origins members).1.log.stored origin := by
  suffices kept : (state.reclaim origins members).1.selfId = state.selfId ∧
      (state.reclaim origins members).1.peerCursors = state.peerCursors ∧
      (state.reclaim origins members).1.log.cursorFor origin = state.log.cursorFor origin ∧
      (∀ frame ∈ (state.reclaim origins members).1.log.stored origin,
        frame ∈ state.log.stored origin) ∧
      ∀ frame ∈ state.log.stored origin, state.lowWaterMark members origin < frame.seq →
        frame ∈ (state.reclaim origins members).1.log.stored origin from kept.2.2.2
  apply reclaim_induction fun current =>
    current.selfId = state.selfId ∧ current.peerCursors = state.peerCursors ∧
      current.log.cursorFor origin = state.log.cursorFor origin ∧
      (∀ frame ∈ current.log.stored origin, frame ∈ state.log.stored origin) ∧
      ∀ frame ∈ state.log.stored origin, state.lowWaterMark members origin < frame.seq →
        frame ∈ current.log.stored origin
  · intro current other kept
    rcases kept with ⟨selfId, peerCursors, cursor, included, above⟩
    rcases reclaim_origin_frame current members other with ⟨sameId, -, -, sameReports⟩
    refine ⟨sameId.trans selfId, sameReports.trans peerCursors, ?_, ?_, ?_⟩
    · rw [reclaim_origin_log, truncate_cursor, cursor]
    · intro frame listed
      rw [reclaim_origin_log, truncate_stored] at listed
      split_ifs at listed with same
      · rw [← same] at listed
        exact included frame (List.mem_of_mem_drop listed)
      · exact included frame listed
    · intro frame listed higher
      have stored := above frame listed higher
      rw [reclaim_origin_log, truncate_stored]
      split_ifs with same
      · rw [← same, low_water_mark_congr origin selfId peerCursors cursor]
        exact stored_mem_drop stored higher
      · exact stored
  · exact ⟨rfl, rfl, rfl, fun _ listed => listed, fun _ listed _ => listed⟩

end

end Stitch.P2P.NodeState
