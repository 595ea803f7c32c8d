import Mathlib.Algebra.Order.BigOperators.Group.Finset
import Stitch.P2P.DeltaExchange

/-!
# What one peer serves another

A server answers the cursors of a receiver with the frames it stores above them, and the receiver
takes of these what it accepts. The payload of that `Delta`, and the origins the receiver knows
afterwards, follow from the two states alone.
-/

namespace Stitch.P2P.CatchUp

open Foundation.FiniteMap Foundation.InOrder HybridClock WireFormat ReplicationLog
open NodeState MessageFormat SessionLoop DeltaExchange

def answers (stores : WriteFrame → Bool) (frames : List WriteFrame) (index : Nat) : Bool :=
  (frames[index]?).elim true stores

/-- The receiver once it has applied the `Delta` that answers its cursors. -/
def served (stores : WriteFrame → Bool) (order : List PeerId) (wallMs : Nat)
    (server receiver : SyncState) : SyncState :=
  applyFrames wallMs (answers stores (server.deltaSince order receiver.cursors)) receiver
    (server.deltaSince order receiver.cursors)

/-- Every frame the receiver lacks up to the server's cursors is stored at the
server and accepted by the receiver. -/
def Supplies (stores : WriteFrame → Bool) (server receiver : SyncState) : Prop :=
  ∀ origin seq, receiver.log.cursorFor origin < seq → seq ≤ server.log.cursorFor origin →
    ∃ frame ∈ server.log.stored origin, frame.seq = seq ∧
      receiver.accepts (stores frame) frame = true

/-- The receiver takes the first frame it lacks of an origin. -/
def Takes (stores : WriteFrame → Bool) (server receiver : SyncState) (origin : PeerId) : Prop :=
  ∃ frame ∈ server.log.stored origin, frame.seq = receiver.log.cursorFor origin + 1 ∧
    receiver.accepts (stores frame) frame = true

instance (stores : WriteFrame → Bool) (server receiver : SyncState) :
    DecidablePred (Takes stores server receiver) :=
  fun origin => inferInstanceAs (Decidable (∃ frame ∈ server.log.stored origin, _))

/-- The origins the receiver has cursors for once it has been served. -/
def knownAfter (stores : WriteFrame → Bool) (server receiver : SyncState) : Finset PeerId :=
  receiver.cursors.keys ∪ server.log.observed.keys.filter (Takes stores server receiver)

def missingLen (server : SyncState) (origin : PeerId) (cursor : Nat) : Nat :=
  ((server.log.missingFrom origin cursor).map fun frame => 4 + frame.encodedLen).sum

/-- The payload bytes of the `Delta` for the receiver. -/
def catchUpLen (server receiver : SyncState) : Nat :=
  4 + ∑ origin ∈ server.log.observed.keys,
    missingLen server origin (receiver.log.cursorFor origin)

section

variable {stores : WriteFrame → Bool} {server receiver : SyncState}
variable {frames : List WriteFrame} {origin : PeerId} {order : List PeerId}

theorem apply_answers_induction (Kept : SyncState → Prop) (stores : WriteFrame → Bool)
    {wallMs : Nat} (step : ∀ state, ∀ frame ∈ frames, Kept state →
      Kept (state.receive (stores frame) frame wallMs).1) (state : SyncState) (start : Kept state) :
    Kept (applyFrames wallMs (answers stores frames) state frames) := by
  induction frames generalizing state with
  | nil => exact start
  | cons frame frames ih =>
    apply ih
    · intro current later member
      exact step current later (List.mem_cons_of_mem _ member)
    · exact step state frame List.mem_cons_self start

theorem stored_seq_unique (log : ReplLog) {left right : WriteFrame}
    (leftHeld : left ∈ log.stored origin) (rightHeld : right ∈ log.stored origin)
    (same : left.seq = right.seq) : left = right := by
  obtain ⟨leftIndex, leftFound⟩ := List.mem_iff_getElem?.mp leftHeld
  obtain ⟨rightIndex, rightFound⟩ := List.mem_iff_getElem?.mp rightHeld
  have leftSeq := (log.inOrder origin leftIndex left leftFound).2
  have rightSeq := (log.inOrder origin rightIndex right rightFound).2
  have index : leftIndex = rightIndex := by omega
  subst index
  rw [leftFound] at rightFound
  exact Option.some.inj rightFound

theorem supplies_base (supplied : Supplies stores server receiver) (origin : PeerId) :
    server.log.baseOf origin ≤ receiver.log.cursorFor origin := by
  by_cases ahead : receiver.log.cursorFor origin < server.log.cursorFor origin
  · obtain ⟨frame, held, seq, -⟩ := supplied origin _ (Nat.lt_succ_self _) ahead
    have bounds := stored_seq_bounds server.log origin held
    omega
  · have order : server.log.baseOf origin ≤ server.log.cursorFor origin :=
      Nat.le_add_right _ _
    omega

theorem supplied_cursor (supplied : Supplies stores server receiver)
    (visits : Visits order server.log.observed) (wallMs : Nat) (origin : PeerId) :
    (served stores order wallMs server receiver).log.cursorFor origin =
      max (receiver.log.cursorFor origin) (server.log.cursorFor origin) := by
  apply apply_delta_cursor wallMs _ receiver visits _ (supplies_base supplied origin)
  intro index frame found _
  have member := List.mem_of_getElem? found
  rw [mem_delta_since _ visits, SyncState.cursors, getOr_cursors] at member
  obtain ⟨held, lacking⟩ := member
  have bound := (stored_seq_bounds server.log _ held).2
  obtain ⟨other, otherHeld, same, accepted⟩ := supplied _ _ lacking bound
  rw [stored_seq_unique server.log otherHeld held same] at accepted
  have answer : answers stores (server.deltaSince order receiver.cursors) index =
      stores frame := congrArg (fun item => item.elim true stores) found
  rw [answer]
  exact accepted

theorem supplies_of_accepted
    (bases : ∀ origin, server.log.baseOf origin ≤ receiver.log.cursorFor origin)
    (accepted : ∀ origin, ∀ frame ∈ server.log.stored origin,
      receiver.accepts (stores frame) frame = true) : Supplies stores server receiver := by
  intro origin seq lacking bound
  have listed : seq ∈ (server.log.stored origin).map WriteFrame.seq := by
    rw [stored_seqs, List.mem_range'_1]
    have base := bases origin
    unfold ReplLog.cursorFor at bound
    omega
  obtain ⟨frame, held, same⟩ := List.mem_map.mp listed
  exact ⟨frame, held, same, accepted origin frame held⟩

variable {frame : WriteFrame}

theorem receive_other_origin (state : SyncState) (persisted : Bool) (wallMs : Nat)
    (other : frame.stamp.peer ≠ origin) :
    (state.receive persisted frame wallMs).1.log.stored origin = state.log.stored origin := by
  rw [receive_log]
  split_ifs
  · by_cases appended : state.log.classify frame = .appended
    · rw [record_stored_appended _ _ appended, if_neg (Ne.symm other)]
    · rw [record_unchanged _ _ appended]
  · rfl

variable (wallMs : Nat)

theorem served_stored (visits : Visits order server.log.observed)
    (level : server.log.cursorFor origin ≤ receiver.log.cursorFor origin) :
    (served stores order wallMs server receiver).log.stored origin =
      receiver.log.stored origin := by
  apply apply_frames_induction
    (fun after => after.log.stored origin = receiver.log.stored origin) _ _ receiver rfl
  intro current persisted frame member kept
  rw [receive_other_origin current persisted wallMs, kept]
  intro same
  have selected := (mem_delta_since _ visits _ frame).mp member
  rw [SyncState.cursors, getOr_cursors, same] at selected
  have bound := (stored_seq_bounds server.log _ selected.1).2
  omega

theorem served_cursor_le (visits : Visits order server.log.observed) (origin : PeerId) :
    (served stores order wallMs server receiver).log.cursorFor origin ≤
      max (receiver.log.cursorFor origin) (server.log.cursorFor origin) := by
  apply apply_frames_induction (fun after => after.log.cursorFor origin ≤
    max (receiver.log.cursorFor origin) (server.log.cursorFor origin)) _ _ receiver
      (Nat.le_max_left _ _)
  intro current persisted frame member kept
  rw [receive_cursor]
  split_ifs with own
  · have selected := (mem_delta_since _ visits _ frame).mp member
    rw [own.2] at selected
    have bound := (stored_seq_bounds server.log _ selected.1).2
    unfold advance
    split_ifs <;> omega
  · exact kept

theorem served_cursor_mono (origin : PeerId) : receiver.log.cursorFor origin ≤
    (served stores order wallMs server receiver).log.cursorFor origin :=
  apply_frames_cursor_mono _ _ _ _ _

@[simp] theorem served_self :
    (served stores order wallMs server receiver).selfId = receiver.selfId :=
  (apply_frames_frame wallMs _ receiver _).1

theorem served_accepts (persisted : Bool) (frame : WriteFrame) :
    (served stores order wallMs server receiver).accepts persisted frame =
      receiver.accepts persisted frame :=
  accepts_congr (apply_frames_frame wallMs _ receiver _).2.1 persisted frame

variable {other : WriteFrame → Bool}

theorem supplies_served_iff (visits : Visits order receiver.log.observed) :
    Supplies stores (served other order wallMs receiver server) receiver ↔
      Supplies stores server receiver := by
  have same : ∀ origin, receiver.log.cursorFor origin ≤ server.log.cursorFor origin →
      (served other order wallMs receiver server).log.stored origin =
        server.log.stored origin := fun origin => served_stored wallMs visits
  constructor
  · intro supplied origin seq lacking bound
    rw [← same origin (by omega)]
    exact supplied origin seq lacking (bound.trans (served_cursor_mono wallMs origin))
  · intro supplied origin seq lacking bound
    have limit : (served other order wallMs receiver server).log.cursorFor origin ≤ max _ _ :=
      served_cursor_le wallMs visits origin
    rw [same origin (by omega)]
    exact supplied origin seq lacking (by omega)

/-- What a receiver has taken was stored at the server and accepted. -/
theorem taken_accepted (visits : Visits order server.log.observed) {seq : Nat}
    (lacking : receiver.log.cursorFor origin < seq)
    (bound : seq ≤ (served stores order wallMs server receiver).log.cursorFor origin) :
    ∃ frame ∈ server.log.stored origin, frame.seq = seq ∧
      receiver.accepts (stores frame) frame = true := by
  refine (apply_answers_induction (fun after => after.auth = receiver.auth ∧
    ∀ seq, receiver.log.cursorFor origin < seq → seq ≤ after.log.cursorFor origin →
      ∃ frame ∈ server.log.stored origin, frame.seq = seq ∧
        receiver.accepts (stores frame) frame = true) stores ?_ receiver ⟨rfl, ?_⟩).2
          seq lacking bound
  · intro current frame member same
    rcases same with ⟨auth, kept⟩
    refine ⟨(receive_frame current _ frame wallMs).2.1.trans auth, ?_⟩
    intro seq lacking bound
    rw [receive_cursor] at bound
    split_ifs at bound with own
    · by_cases before : seq ≤ current.log.cursorFor origin
      · exact kept seq lacking before
      · have next : seq = frame.seq := by
          unfold advance at bound
          split_ifs at bound <;> omega
        have selected := ((mem_delta_since _ visits _ frame).mp member).1
        rw [own.2] at selected
        rw [accepts_congr auth] at own
        exact ⟨frame, selected, next.symm, own.1⟩
    · exact kept seq lacking bound
  · intro seq lacking bound
    omega

theorem supplies_of_served (visits : Visits order server.log.observed)
    (supplied : Supplies stores server (served stores order wallMs server receiver)) :
    Supplies stores server receiver := by
  intro origin seq lacking bound
  by_cases taken :
      seq ≤ (served stores order wallMs server receiver).log.cursorFor origin
  · exact taken_accepted wallMs visits lacking taken
  · obtain ⟨frame, held, same, accepted⟩ :=
      supplied origin seq (Nat.lt_of_not_le taken) bound
    rw [served_accepts] at accepted
    exact ⟨frame, held, same, accepted⟩

/-- A frame that is in reach and accepted is taken. -/
theorem applied_reaches (member : frame ∈ frames) (state : SyncState)
    (accepted : state.accepts (stores frame) frame = true)
    (reach : frame.seq ≤ state.log.cursorFor frame.stamp.peer + 1) :
    frame.seq ≤ (applyFrames wallMs (answers stores frames) state frames).log.cursorFor
      frame.stamp.peer := by
  induction frames generalizing state with
  | nil => cases member
  | cons first frames ih =>
    have step := receive_cursor state (stores first) first wallMs frame.stamp.peer
    rcases List.mem_cons.mp member with rfl | later
    · rw [accepted, if_pos ⟨rfl, rfl⟩, advance] at step
      have onward := apply_frames_cursor_mono wallMs (answers stores frames)
        (state.receive (stores frame) frame wallMs).1 frames frame.stamp.peer
      refine Nat.le_trans ?_ onward
      split_ifs at step <;> omega
    · apply ih later
      · exact (accepts_congr (receive_frame state _ first wallMs).2.1 _ _).trans accepted
      · have mono := apply_frames_cursor_mono wallMs (fun _ => stores first) state [first]
          frame.stamp.peer
        exact reach.trans (Nat.succ_le_succ mono)

theorem served_grows_iff (visits : Visits order server.log.observed) :
    receiver.log.cursorFor origin <
        (served stores order wallMs server receiver).log.cursorFor origin ↔
      Takes stores server receiver origin := by
  constructor
  · intro grows
    exact taken_accepted wallMs visits (Nat.lt_succ_self _) grows
  · intro takes
    obtain ⟨frame, held, next, accepted⟩ := takes
    have peer := stored_peer held
    have member : frame ∈ server.deltaSince order receiver.cursors := by
      rw [SyncState.deltaSince, mem_delta_since _ visits, SyncState.cursors, getOr_cursors, peer,
        next]
      exact ⟨held, Nat.lt_succ_self _⟩
    have reached := applied_reaches wallMs member receiver accepted (by rw [peer, next])
    rw [peer, next] at reached
    exact reached

theorem mem_cursors_keys (log : ReplLog) :
    origin ∈ log.cursors.keys ↔ origin ∈ log.observed ∨ origin ∈ log.base := by
  rw [Finmap.mem_keys, ← Finmap.lookup_isSome, ReplLog.cursors, lookup_tabulate]
  simp only [Finset.mem_union, Finmap.mem_keys]
  split_ifs with known <;> simp [known]

theorem applied_keys (persists : Nat → Bool) (state : SyncState) :
    origin ∈ (applyFrames wallMs persists state frames).cursors.keys ↔
      origin ∈ state.cursors.keys ∨ state.log.cursorFor origin <
        (applyFrames wallMs persists state frames).log.cursorFor origin := by
  refine (apply_frames_induction (fun after => state.log.cursorFor origin ≤
    after.log.cursorFor origin ∧ (origin ∈ after.cursors.keys ↔ origin ∈ state.cursors.keys ∨
      state.log.cursorFor origin < after.log.cursorFor origin)) ?_ persists state ?_).2
  · intro current persisted frame _ kept
    obtain ⟨mono, keys⟩ := kept
    simp only [SyncState.cursors, mem_cursors_keys] at keys ⊢
    rw [receive_log]
    split_ifs
    · by_cases appended : current.log.classify frame = .appended
      · rw [record_cursor_appended _ _ appended]
        simp only [ReplLog.record, dif_pos appended, Finmap.mem_insert]
        split_ifs with own
        · subst own
          exact ⟨by omega, iff_of_true (Or.inl (Or.inl rfl)) (Or.inr (by omega))⟩
        · simp only [own, false_or]
          exact ⟨mono, keys⟩
      · rw [record_unchanged _ _ appended]
        exact ⟨mono, keys⟩
    · exact ⟨mono, keys⟩
  · simp

theorem mem_known_after :
    origin ∈ knownAfter stores server receiver ↔
      origin ∈ receiver.cursors.keys ∨ Takes stores server receiver origin := by
  rw [knownAfter, Finset.mem_union, Finset.mem_filter]
  refine or_congr_right (and_iff_right_of_imp ?_)
  intro takes
  obtain ⟨frame, held, -⟩ := takes
  by_contra absent
  rw [stored_of_lookup_none (Finmap.lookup_eq_none.mpr absent)] at held
  cases held

theorem served_keys (visits : Visits order server.log.observed) :
    (served stores order wallMs server receiver).cursors.keys =
      knownAfter stores server receiver := by
  ext origin
  rw [mem_known_after, ← served_grows_iff wallMs visits]
  exact applied_keys wallMs _ receiver

theorem known_after_served (visits : Visits order server.log.observed) :
    knownAfter stores server (served stores order wallMs server receiver) =
      knownAfter stores server receiver := by
  ext origin
  rw [mem_known_after, served_keys wallMs visits, or_iff_left_iff_imp]
  intro takes
  rw [mem_known_after, ← served_grows_iff wallMs visits]
  by_contra unknown
  rw [not_or, Nat.not_lt] at unknown
  have same := Nat.le_antisymm unknown.2 (served_cursor_mono wallMs origin)
  obtain ⟨frame, held, next, accepted⟩ := takes
  rw [same] at next
  rw [served_accepts] at accepted
  exact absurd ((served_grows_iff wallMs visits).mpr ⟨frame, held, next, accepted⟩)
    (Nat.not_lt_of_le unknown.2)

theorem known_after_server (visits : Visits order receiver.log.observed) :
    knownAfter stores (served other order wallMs receiver server) receiver =
      knownAfter stores server receiver := by
  ext origin
  rw [mem_known_after, mem_known_after]
  refine or_congr_right ?_
  by_cases behind : receiver.log.cursorFor origin ≤ server.log.cursorFor origin
  · rw [Takes, Takes, served_stored wallMs visits behind]
  · have limit : (served other order wallMs receiver server).log.cursorFor origin ≤ max _ _ :=
      served_cursor_le wallMs visits origin
    refine iff_of_false ?_ ?_ <;>
    · intro takes
      obtain ⟨frame, held, next, -⟩ := takes
      have bound := (stored_seq_bounds _ _ held).2
      omega

theorem payload_delta (visits : Visits order server.log.observed) :
    (SyncMessage.delta (server.deltaSince order receiver.cursors)).payloadLen =
      catchUpLen server receiver := by
  obtain ⟨distinct, keys⟩ := visits_iff_keys.mp visits
  rw [catchUpLen, ← keys, List.sum_toFinset _ distinct]
  simp only [SyncMessage.payloadLen, SyncState.deltaSince, ReplLog.deltaSince, List.flatMap_def,
    List.map_flatten, List.sum_flatten, List.map_map, SyncState.cursors, getOr_cursors]
  rfl

theorem missing_nil (log : ReplLog) {cursor : Nat} (level : log.cursorFor origin ≤ cursor) :
    log.missingFrom origin cursor = [] := by
  rw [List.eq_nil_iff_forall_not_mem]
  intro frame member
  obtain ⟨held, later⟩ := (mem_missing_from log origin cursor frame).mp member
  have bound := (stored_seq_bounds log origin held).2
  omega

/-- Origins of which the server stores nothing add nothing. -/
theorem catch_up_len_wider {origins : Finset PeerId}
    (wider : server.log.observed.keys ⊆ origins) :
    catchUpLen server receiver =
      4 + ∑ origin ∈ origins, missingLen server origin (receiver.log.cursorFor origin) := by
  rw [catchUpLen, Finset.sum_subset wider]
  intro origin _ absent
  rw [Finmap.mem_keys, ← Finmap.lookup_eq_none] at absent
  simp [missingLen, ReplLog.missingFrom, stored_of_lookup_none absent]

theorem catch_up_len_server (visits : Visits order receiver.log.observed) :
    catchUpLen (served other order wallMs receiver server) receiver =
      catchUpLen server receiver := by
  rw [catch_up_len_wider Finset.subset_union_left, catch_up_len_wider Finset.subset_union_right]
  congr 1
  apply Finset.sum_congr rfl
  intro origin _
  unfold missingLen
  by_cases behind : receiver.log.cursorFor origin ≤ server.log.cursorFor origin
  · rw [ReplLog.missingFrom, ReplLog.missingFrom, served_stored wallMs visits behind,
      served, apply_frames_base_of]
  · have limit : (served other order wallMs receiver server).log.cursorFor origin ≤ max _ _ :=
      served_cursor_le wallMs visits origin
    rw [missing_nil _ (by omega), missing_nil _ (by omega)]

theorem catch_up_len_served_le :
    catchUpLen server (served stores order wallMs server receiver) ≤
      catchUpLen server receiver := by
  apply Nat.add_le_add_left
  apply Finset.sum_le_sum
  intro origin _
  have mono : _ ≤ (served stores order wallMs server receiver).log.cursorFor origin :=
    served_cursor_mono wallMs origin
  apply List.Sublist.sum_le_sum
  · apply List.Sublist.map
    apply List.drop_sublist_drop_left
    omega
  · exact fun _ _ => Nat.zero_le _

end

end Stitch.P2P.CatchUp
