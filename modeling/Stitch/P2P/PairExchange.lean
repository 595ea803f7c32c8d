import Stitch.Foundation.Ending
import Stitch.P2P.CatchUp

/-!
# The exchange between two peers

Two peers run `session.rs` over a pair of channels that deliver in order. `low`
has the smaller id and sends the periodic `Hello`. Which frames a peer's
persister stores is fixed for the exchange; there are no local writes.
-/

namespace Stitch.P2P.PairExchange

open Foundation.FiniteMap Foundation.Ending HybridClock WireFormat
open NodeState MessageFormat SessionLoop CatchUp

structure Pair where
  low : SyncState
  high : SyncState
  toHigh : List SyncMessage
  toLow : List SyncMessage

def handle (stores : WriteFrame → Bool) (order : List PeerId) (wallMs : Nat)
    (state : SyncState) : SyncMessage → SyncState × List SyncMessage
  | .hello sender cursors => onHello order state sender cursors
  | .delta frames => (applyFrames wallMs (answers stores frames) state frames, [])

/-- `read_message` lets the message through, see `read_message_written`. -/
def Fits (message : SyncMessage) : Prop := message.payloadLen ≤ maxMessageLen

instance (message : SyncMessage) : Decidable (Fits message) :=
  inferInstanceAs (Decidable (_ ≤ _))

/-- One message is taken from a channel and its replies are put on the other. A message that
`read_message` refuses ends the session of its reader, and the connection with it. -/
inductive Deliver (lowStores highStores : WriteFrame → Bool) : Pair → Pair → Prop where
  | atHigh {low high : SyncState} {message : SyncMessage} {toHigh toLow : List SyncMessage}
      {order : List PeerId} (fits : Fits message) (visits : Visits order high.log.observed)
      (wallMs : Nat) :
      Deliver lowStores highStores ⟨low, high, message :: toHigh, toLow⟩
        ⟨low, (handle highStores order wallMs high message).1, toHigh,
          toLow ++ (handle highStores order wallMs high message).2⟩
  | atLow {low high : SyncState} {message : SyncMessage} {toHigh toLow : List SyncMessage}
      {order : List PeerId} (fits : Fits message) (visits : Visits order low.log.observed)
      (wallMs : Nat) :
      Deliver lowStores highStores ⟨low, high, toHigh, message :: toLow⟩
        ⟨(handle lowStores order wallMs low message).1, high,
          toHigh ++ (handle lowStores order wallMs low message).2, toLow⟩
  | cutAtHigh {low high : SyncState} {message : SyncMessage} {toHigh toLow : List SyncMessage}
      (large : ¬Fits message) :
      Deliver lowStores highStores ⟨low, high, message :: toHigh, toLow⟩ ⟨low, high, [], []⟩
  | cutAtLow {low high : SyncState} {message : SyncMessage} {toHigh toLow : List SyncMessage}
      (large : ¬Fits message) :
      Deliver lowStores highStores ⟨low, high, toHigh, message :: toLow⟩ ⟨low, high, [], []⟩

def Quiescent (pair : Pair) : Prop := pair.toHigh = [] ∧ pair.toLow = []

def Pair.lowStarts (low high : SyncState) : Pair := ⟨low, high, [helloOf low], []⟩

def Pair.highStarts (low high : SyncState) : Pair := ⟨low, high, [], [helloOf high]⟩

def Level (low high : SyncState) : Prop :=
  ∀ origin, low.log.cursorFor origin = high.log.cursorFor origin

/-- The messages that have to arrive for the peers to become level fit the reader's limit. -/
def Carried (low high : SyncState) : Prop :=
  Level low high ∨ Fits (helloOf low) ∧ catchUpLen high low ≤ maxMessageLen ∧
    ((∃ origin, high.log.cursorFor origin < low.log.cursorFor origin) →
      Fits (helloOf high) ∧ catchUpLen low high ≤ maxMessageLen)

def HelloFits (origins : Finset PeerId) : Prop :=
  peerIdLen + 4 + origins.card * entryLen ≤ maxMessageLen

instance (origins : Finset PeerId) : Decidable (HelloFits origins) :=
  inferInstanceAs (Decidable (_ ≤ _))

/-- The two `Delta`s fit the reader's limit, and so does a `Hello` of either peer once it
knows the origins that the other can teach it. -/
def InLimit (lowStores highStores : WriteFrame → Bool) (low high : SyncState) : Prop :=
  HelloFits (knownAfter lowStores high low) ∧ HelloFits (knownAfter highStores low high) ∧
    catchUpLen high low ≤ maxMessageLen ∧ catchUpLen low high ≤ maxMessageLen

section

variable {lowStores highStores : WriteFrame → Bool} {goal : Pair → Prop} {count : Nat}
  {low high : SyncState} {message : SyncMessage} {rest : List SyncMessage}

theorem quiescent_still (pair next : Pair) (quiet : Quiescent pair) :
    ¬Deliver lowStores highStores pair next := by
  intro delivered
  cases delivered with
  | atHigh | cutAtHigh => cases quiet.1
  | atLow | cutAtLow => cases quiet.2

theorem ends_at_high
    (later : Fits message → ∀ order, Visits order high.log.observed → ∀ wallMs,
      EndsWithin (Deliver lowStores highStores) goal count
        ⟨low, (handle highStores order wallMs high message).1, rest,
          (handle highStores order wallMs high message).2⟩)
    (cut : ¬Fits message → goal ⟨low, high, [], []⟩) :
    EndsWithin (Deliver lowStores highStores) goal (count + 1)
      ⟨low, high, message :: rest, []⟩ := by
  obtain ⟨order, visits⟩ := exists_visits high.log.observed
  by_cases fits : Fits message
  · refine .move (.atHigh fits visits 0) ?_
    intro next taken
    cases taken with
    | atHigh _ visits wallMs => exact later fits _ visits wallMs
    | cutAtHigh large => exact absurd fits large
  · refine .move (.cutAtHigh fits) ?_
    intro next taken
    cases taken with
    | atHigh there => exact absurd there fits
    | cutAtHigh _ => exact .reached (cut fits)

theorem ends_at_low
    (later : Fits message → ∀ order, Visits order low.log.observed → ∀ wallMs,
      EndsWithin (Deliver lowStores highStores) goal count
        ⟨(handle lowStores order wallMs low message).1, high,
          (handle lowStores order wallMs low message).2, rest⟩)
    (cut : ¬Fits message → goal ⟨low, high, [], []⟩) :
    EndsWithin (Deliver lowStores highStores) goal (count + 1)
      ⟨low, high, [], message :: rest⟩ := by
  obtain ⟨order, visits⟩ := exists_visits low.log.observed
  by_cases fits : Fits message
  · refine .move (.atLow fits visits 0) ?_
    intro next taken
    cases taken with
    | atLow _ visits wallMs => exact later fits _ visits wallMs
    | cutAtLow large => exact absurd fits large
  · refine .move (.cutAtLow fits) ?_
    intro next taken
    cases taken with
    | atLow there => exact absurd there fits
    | cutAtLow _ => exact .reached (cut fits)

variable {frames : List WriteFrame}

theorem delta_message_over (large : ¬Fits (.delta frames)) :
    deltaMessage frames = [.delta frames] := by
  refine if_neg ?_
  rintro rfl
  exact large (by decide)

theorem ends_delta_at_high
    (later : Fits (.delta frames) → ∀ wallMs, EndsWithin (Deliver lowStores highStores) goal count
      ⟨low, applyFrames wallMs (answers highStores frames) high frames, rest, []⟩)
    (cut : ¬Fits (.delta frames) → goal ⟨low, high, [], []⟩) :
    EndsWithin (Deliver lowStores highStores) goal (count + 1)
      ⟨low, high, deltaMessage frames ++ rest, []⟩ := by
  unfold deltaMessage
  split_ifs with empty
  · subst empty
    exact ends_within_succ (later (by decide) 0)
  · exact ends_at_high (fun fits _ _ => later fits) cut

theorem ends_delta_at_low
    (later : Fits (.delta frames) → ∀ wallMs, EndsWithin (Deliver lowStores highStores) goal count
      ⟨applyFrames wallMs (answers lowStores frames) low frames, high, [], rest⟩)
    (cut : ¬Fits (.delta frames) → goal ⟨low, high, [], []⟩) :
    EndsWithin (Deliver lowStores highStores) goal (count + 1)
      ⟨low, high, [], deltaMessage frames ++ rest⟩ := by
  unfold deltaMessage
  split_ifs with empty
  · subst empty
    exact ends_within_succ (later (by decide) 0)
  · exact ends_at_low (fun fits _ _ => later fits) cut

theorem path_delta_at_high (fits : Fits (.delta frames)) :
    Relation.ReflTransGen (Deliver lowStores highStores)
      ⟨low, high, deltaMessage frames ++ rest, []⟩
      ⟨low, applyFrames 0 (answers highStores frames) high frames, rest, []⟩ := by
  unfold deltaMessage
  split_ifs with empty
  · subst empty
    exact .refl
  · obtain ⟨order, visits⟩ := exists_visits high.log.observed
    exact .single (.atHigh fits visits 0)

theorem path_delta_at_low (fits : Fits (.delta frames)) :
    Relation.ReflTransGen (Deliver lowStores highStores)
      ⟨low, high, [], deltaMessage frames ++ rest⟩
      ⟨applyFrames 0 (answers lowStores frames) low frames, high, [], rest⟩ := by
  unfold deltaMessage
  split_ifs with empty
  · subst empty
    exact .refl
  · obtain ⟨order, visits⟩ := exists_visits low.log.observed
    exact .single (.atLow fits visits 0)

theorem high_answers (lower : low.selfId < high.selfId) (order : List PeerId) (wallMs : Nat) :
    handle highStores order wallMs high (helloOf low) =
      (high.notePeerCursors low.selfId low.cursors,
        deltaMessage (high.deltaSince order low.cursors) ++ [helloOf high]) := by
  have answer : shouldInitiate high.selfId (some low.selfId) = false :=
    decide_eq_false (not_lt_of_gt lower)
  simp only [handle, helloOf, onHello, answer, Bool.not_false, Bool.or_true, if_true]
  rfl

theorem low_answers (lower : low.selfId < high.selfId) (order : List PeerId) (wallMs : Nat) :
    handle lowStores order wallMs low (helloOf high) =
      (low.notePeerCursors high.selfId high.cursors,
        deltaMessage (low.deltaSince order high.cursors) ++
          if peerAhead high.cursors low.cursors then [helloOf low] else []) := by
  have initiates : shouldInitiate low.selfId (some high.selfId) = true :=
    decide_eq_true lower
  simp only [handle, helloOf, onHello, initiates, Bool.not_true, Bool.or_false]
  rfl

/-- Nothing has to arrive at the higher peer when one of its messages does not get through. -/
theorem carried_high (carried : Carried low high)
    (large : ¬(Fits (helloOf high) ∧ catchUpLen low high ≤ maxMessageLen)) (origin : PeerId) :
    high.log.cursorFor origin =
      max (low.log.cursorFor origin) (high.log.cursorFor origin) := by
  rcases carried with level | ⟨-, -, back⟩
  · rw [level, Nat.max_self]
  · have behind : ¬high.log.cursorFor origin < low.log.cursorFor origin :=
      fun ahead => large (back ⟨origin, ahead⟩)
    omega

theorem carried_low (carried : Carried low high)
    (large : ¬(Fits (helloOf low) ∧ catchUpLen high low ≤ maxMessageLen)) : Level low high := by
  rcases carried with level | ⟨hello, delta, -⟩
  · exact level
  · exact absurd ⟨hello, delta⟩ large

/-- The exchange is over, and if the messages could be carried the peers are level. -/
def Settled (highStores : WriteFrame → Bool) (low high : SyncState) (pair : Pair) : Prop :=
  Quiescent pair ∧ (Carried low high →
    (∀ origin, pair.low.log.cursorFor origin =
      max (low.log.cursorFor origin) (high.log.cursorFor origin)) ∧
    (Supplies highStores low high → ∀ origin, pair.high.log.cursorFor origin =
      max (low.log.cursorFor origin) (high.log.cursorFor origin)))

theorem settled_unchanged (large : ¬(Fits (helloOf low) ∧ catchUpLen high low ≤ maxMessageLen)) :
    Settled highStores low high ⟨low, high, [], []⟩ := by
  refine ⟨⟨rfl, rfl⟩, ?_⟩
  intro carried
  have level := carried_low carried large
  refine ⟨?_, fun _ => ?_⟩ <;>
  · intro origin
    rw [level, Nat.max_self]

variable (lower : low.selfId < high.selfId)

include lower

/-- If the higher peer can supply all the lower one lacks, the exchange is over after four
messages. -/
theorem supplied_ends (supplied : Supplies lowStores high low) :
    EndsWithin (Deliver lowStores highStores) (Settled highStores low high) 4
      (Pair.lowStarts low high) := by
  refine ends_at_high ?_ (fun large => settled_unchanged fun both => large both.1)
  intro _ order visits wallMs
  simp only [high_answers lower]
  refine ends_delta_at_low ?_ ?_
  · intro _ later
    have reached := supplied_cursor supplied visits later
    have own : (served lowStores order later high low).selfId < high.selfId := by
      rw [served_self]
      exact lower
    -- What happens when one of the two messages for the higher peer is refused.
    have kept : ¬(Fits (helloOf high) ∧ catchUpLen low high ≤ maxMessageLen) →
        Settled highStores low high ⟨served lowStores order later high low,
          high.notePeerCursors low.selfId low.cursors, [], []⟩ :=
      fun large => ⟨⟨rfl, rfl⟩, fun carried => ⟨reached, fun _ => carried_high carried large⟩⟩
    refine ends_at_low ?_ (fun large => kept fun both => large both.1)
    intro _ order' visits' wallMs'
    change Visits order' (served lowStores order later high low).log.observed at visits'
    have notAhead : peerAhead high.cursors (served lowStores order later high low).cursors =
        false := by
      rw [Bool.eq_false_iff, Ne, SyncState.cursors, SyncState.cursors, peer_ahead_iff]
      intro behind
      obtain ⟨origin, ahead⟩ := behind
      rw [reached] at ahead
      omega
    have answer : handle lowStores order' wallMs' (served lowStores order later high low)
        (helloOf high) = _ := low_answers own order' wallMs'
    rw [notAhead, if_neg Bool.false_ne_true] at answer
    refine answer ▸ ends_delta_at_high ?_ ?_
    · intro _ last
      refine .reached ⟨⟨rfl, rfl⟩, fun _ => ⟨reached, fun back origin => ?_⟩⟩
      have supplied : Supplies highStores (served lowStores order later high low)
          (high.notePeerCursors low.selfId low.cursors) :=
        (supplies_served_iff later visits).mpr back
      refine (supplied_cursor supplied visits' last origin).trans ?_
      rw [reached]
      exact max_eq_right (Nat.le_max_right _ _)
    · intro large
      refine kept fun both => large ?_
      rw [Fits, payload_delta visits', catch_up_len_server later visits]
      exact both.2
  · intro large
    refine settled_unchanged fun both => large ?_
    rw [Fits, payload_delta visits]
    exact both.2

variable {order : List PeerId}

theorem hello_at_high (fits : Fits (helloOf low)) (visits : Visits order high.log.observed) :
    Deliver lowStores highStores (Pair.lowStarts low high)
      ⟨low, high.notePeerCursors low.selfId low.cursors, [],
        deltaMessage (high.deltaSince order low.cursors) ++ [helloOf high]⟩ := by
  have delivered : Deliver lowStores highStores (Pair.lowStarts low high) _ :=
    .atHigh fits visits 0
  rw [high_answers lower] at delivered
  exact delivered

theorem hello_at_low (fits : Fits (helloOf high)) (visits : Visits order low.log.observed) :
    Deliver lowStores highStores (Pair.highStarts low high)
      ⟨low.notePeerCursors high.selfId high.cursors, high,
        deltaMessage (low.deltaSince order high.cursors) ++
          if peerAhead high.cursors low.cursors then [helloOf low] else [], []⟩ := by
  have delivered : Deliver lowStores highStores (Pair.highStarts low high) _ :=
    .atLow fits visits 0
  rw [low_answers lower] at delivered
  exact delivered

/-- The lower peer has been served, and the `Hello` of the higher one is under way. -/
theorem path_low_served (hello : Fits (helloOf low)) (delta : catchUpLen high low ≤ maxMessageLen)
    (visits : Visits order high.log.observed) :
    Relation.TransGen (Deliver lowStores highStores) (Pair.lowStarts low high)
      (Pair.highStarts (served lowStores order 0 high low)
        (high.notePeerCursors low.selfId low.cursors)) := by
  refine .head' (hello_at_high lower hello visits) (path_delta_at_low ?_)
  rw [Fits, payload_delta visits]
  exact delta

theorem served_lower (order : List PeerId) (wallMs : Nat) :
    (served lowStores order wallMs high low).selfId < high.selfId := by
  rw [served_self]
  exact lower

omit lower

/-- The exchange is over and both peers have reached the larger cursor at every origin. -/
def Levelled (low high : SyncState) (pair : Pair) : Prop :=
  Quiescent pair ∧ ∀ origin,
    pair.low.log.cursorFor origin =
        max (low.log.cursorFor origin) (high.log.cursorFor origin) ∧
      pair.high.log.cursorFor origin =
        max (low.log.cursorFor origin) (high.log.cursorFor origin)

theorem carried_of_levelled (lower : low.selfId < high.selfId)
    (ends : EndsWithin (Deliver lowStores highStores) (Levelled low high) 4
      (Pair.lowStarts low high)) : Carried low high := by
  by_cases level : Level low high
  · exact Or.inl level
  have arrives : ∀ last, Relation.ReflTransGen (Deliver lowStores highStores)
      (Pair.lowStarts low high) last → Quiescent last → Levelled low high last := by
    intro last path quiet
    exact goal_of_path (fun pair next goal => quiescent_still pair next goal.1) ends path
      (fun next => quiescent_still last next quiet)
  obtain ⟨order, visits⟩ := exists_visits high.log.observed
  have hello : Fits (helloOf low) := by
    by_contra large
    apply level
    intro origin
    have both := arrives _ (.single (.cutAtHigh large)) ⟨rfl, rfl⟩
    exact (both.2 origin).1.trans (both.2 origin).2.symm
  have delta : catchUpLen high low ≤ maxMessageLen := by
    rw [← payload_delta visits]
    by_contra large
    apply level
    intro origin
    have step : Deliver lowStores highStores _ _ := hello_at_high lower hello visits
    rw [delta_message_over large] at step
    have both := arrives _ (.head step (.single (.cutAtLow large))) ⟨rfl, rfl⟩
    exact (both.2 origin).1.trans (both.2 origin).2.symm
  refine Or.inr ⟨hello, delta, ?_⟩
  intro lacking
  obtain ⟨origin, ahead⟩ := lacking
  have path : Relation.ReflTransGen (Deliver lowStores highStores) _ _ :=
    (path_low_served lower hello delta visits).to_reflTransGen
  have missed : high.log.cursorFor origin ≠
      max (low.log.cursorFor origin) (high.log.cursorFor origin) := by omega
  have back : Fits (helloOf high) := by
    by_contra large
    exact missed ((arrives _ (path.tail (.cutAtLow large)) ⟨rfl, rfl⟩).2 origin).2
  refine ⟨back, ?_⟩
  obtain ⟨order', visits'⟩ := exists_visits (served lowStores order 0 high low).log.observed
  have size : catchUpLen (served lowStores order 0 high low) high = catchUpLen low high :=
    catch_up_len_server 0 visits
  rw [← size, ← payload_delta visits']
  by_contra large
  have own : (served lowStores order 0 high low).selfId <
      (high.notePeerCursors low.selfId low.cursors).selfId := served_lower lower order 0
  have step : Deliver lowStores highStores _ _ := hello_at_low own back visits'
  have refused : deltaMessage ((served lowStores order 0 high low).deltaSince order'
      (high.notePeerCursors low.selfId low.cursors).cursors) = _ := delta_message_over large
  rw [refused] at step
  exact missed ((arrives _ ((path.tail step).tail (.cutAtHigh large)) ⟨rfl, rfl⟩).2 origin).2

/-- One periodic `Hello` levels the peers within four messages exactly when the messages for it
fit the limit of `read_message`. -/
theorem one_hello_levels_iff (lower : low.selfId < high.selfId)
    (lowBases : ∀ origin, low.log.baseOf origin ≤ high.log.cursorFor origin)
    (highBases : ∀ origin, high.log.baseOf origin ≤ low.log.cursorFor origin)
    (lowAccepts : ∀ origin, ∀ frame ∈ high.log.stored origin,
      low.accepts (lowStores frame) frame = true)
    (highAccepts : ∀ origin, ∀ frame ∈ low.log.stored origin,
      high.accepts (highStores frame) frame = true) :
    EndsWithin (Deliver lowStores highStores) (Levelled low high) 4 (Pair.lowStarts low high) ↔
      Carried low high := by
  refine ⟨carried_of_levelled lower, ?_⟩
  intro carried
  have toLow := supplies_of_accepted highBases lowAccepts
  have toHigh := supplies_of_accepted lowBases highAccepts
  apply ends_within_imp (supplied_ends lower toLow)
  intro pair settled
  obtain ⟨quiet, cursors⟩ := settled
  have level := cursors carried
  exact ⟨quiet, fun origin => ⟨level.1 origin, level.2 toHigh origin⟩⟩

end

theorem first_write_levels :
    Carried (firstState [7]) (SyncState.new (peerNumber 2)) ∧
      EndsWithin (Deliver (fun _ => true) (fun _ => true))
        (Levelled (firstState [7]) (SyncState.new (peerNumber 2))) 4
        (Pair.lowStarts (firstState [7]) (SyncState.new (peerNumber 2))) := by
  have carried : Carried (firstState [7]) (SyncState.new (peerNumber 2)) :=
    Or.inr ⟨by decide, by decide, fun _ => by decide⟩
  refine ⟨carried, (one_hello_levels_iff ?_ ?_ ?_ ?_ ?_).mpr carried⟩
  · decide
  · exact fun _ => Nat.zero_le _
  · exact fun _ => Nat.zero_le _
  · exact fun _ _ _ => rfl
  · exact fun _ _ _ => rfl

theorem carried_delta {low high : SyncState} (carried : Carried low high) :
    catchUpLen high low ≤ maxMessageLen := by
  rcases carried with level | ⟨-, delta, -⟩
  · have nothing : catchUpLen high low = 4 := by
      simp only [catchUpLen, missingLen, level _, missing_nil _ le_rfl]
      simp
    rw [nothing]
    decide
  · exact delta

variable {data : List UInt8}

theorem large_write_catch_up (size : data.length = maxMessageLen) :
    catchUpLen (firstState data) (SyncState.new (peerNumber 0)) = maxMessageLen + 75 := by
  have small : data.length < 256 ^ 4 := (Nat.le_add_right _ 75).trans_lt (large_write_fits size)
  have visits : Visits [peerNumber 1] (firstState data).log.observed := by
    rw [first_state_log small]
    exact visits_of_keys (List.nodup_singleton _) rfl
  rw [← payload_delta visits, ← large_write_payload size, ← first_state_serves small]
  rfl

theorem large_write_cut (size : data.length = maxMessageLen) :
    ¬EndsWithin (Deliver (fun _ => true) (fun _ => true))
      (Levelled (SyncState.new (peerNumber 0)) (firstState data)) 4
      (Pair.lowStarts (SyncState.new (peerNumber 0)) (firstState data)) := by
  intro ends
  have small : data.length < 256 ^ 4 := (Nat.le_add_right _ 75).trans_lt (large_write_fits size)
  have self : (firstState data).selfId = peerNumber 1 := by
    simp only [firstState, SyncState.localWrite, first_write_encodes small]
    rfl
  have lower : (SyncState.new (peerNumber 0)).selfId < (firstState data).selfId := by
    rw [self]
    decide
  have fits := carried_delta (carried_of_levelled lower ends)
  rw [large_write_catch_up size] at fits
  omega

/-- The `Delta` that carries a record of 64 MiB is refused, and the session ends with it. -/
theorem large_write_not_levelled :
    ¬EndsWithin (Deliver (fun _ => true) (fun _ => true))
      (Levelled (SyncState.new (peerNumber 0)) (firstState (List.replicate maxMessageLen 0))) 4
      (Pair.lowStarts (SyncState.new (peerNumber 0))
        (firstState (List.replicate maxMessageLen 0))) :=
  large_write_cut List.length_replicate

section

variable {lowStores highStores : WriteFrame → Bool} {low high : SyncState} {wallMs : Nat}
  {order : List PeerId}

theorem hello_fits_of_known {stores : WriteFrame → Bool} {server receiver : SyncState}
    (known : HelloFits (knownAfter stores server receiver)) : Fits (helloOf receiver) :=
  (Nat.add_le_add_left (Nat.mul_le_mul_right _ (Finset.card_le_card Finset.subset_union_left))
    _).trans known

theorem in_limit_low_served (visits : Visits order high.log.observed)
    (limit : InLimit lowStores highStores low high) :
    InLimit lowStores highStores (served lowStores order wallMs high low) high := by
  refine ⟨?_, ?_, (catch_up_len_served_le wallMs).trans limit.2.2.1, ?_⟩
  · rw [known_after_served wallMs visits]
    exact limit.1
  · rw [known_after_server wallMs visits]
    exact limit.2.1
  · rw [catch_up_len_server wallMs visits]
    exact limit.2.2.2

theorem in_limit_high_served (visits : Visits order low.log.observed)
    (limit : InLimit lowStores highStores low high) :
    InLimit lowStores highStores low (served highStores order wallMs low high) := by
  refine ⟨?_, ?_, ?_, (catch_up_len_served_le wallMs).trans limit.2.2.2⟩
  · rw [known_after_server wallMs visits]
    exact limit.1
  · rw [known_after_served wallMs visits]
    exact limit.2.1
  · rw [catch_up_len_server wallMs visits]
    exact limit.2.2.1

/-- The lower peer lacks a frame that it cannot get, and no message is too large. -/
def Stuck (lowStores highStores : WriteFrame → Bool) (low high : SyncState) : Prop :=
  low.selfId < high.selfId ∧ ¬Supplies lowStores high low ∧ InLimit lowStores highStores low high

theorem stuck_behind (lacks : ¬Supplies lowStores high low) :
    peerAhead high.cursors low.cursors = true := by
  rw [SyncState.cursors, SyncState.cursors, peer_ahead_iff]
  by_contra level
  apply lacks
  intro origin seq lacking bound
  exact (level ⟨origin, by omega⟩).elim

variable (stuck : Stuck lowStores highStores low high)

include stuck

/-- The lower peer asks again, and the higher one is served on the way. -/
theorem stuck_high_round :
    ∃ low' high', Relation.TransGen (Deliver lowStores highStores) (Pair.highStarts low high)
      (Pair.lowStarts low' high') ∧ Stuck lowStores highStores low' high' := by
  obtain ⟨lower, lacks, limit⟩ := stuck
  obtain ⟨order, visits⟩ := exists_visits low.log.observed
  have step : Deliver lowStores highStores _ _ :=
    hello_at_low lower (hello_fits_of_known limit.2.1) visits
  rw [stuck_behind lacks, if_pos rfl] at step
  have fits : Fits (.delta (low.deltaSince order high.cursors)) := by
    rw [Fits, payload_delta visits]
    exact limit.2.2.2
  refine ⟨_, served highStores order 0 low high, .head' step (path_delta_at_high fits), ?_, ?_,
    in_limit_high_served visits limit⟩
  · rw [served_self]
    exact lower
  · intro supplied
    exact lacks ((supplies_served_iff 0 visits).mp supplied)

theorem stuck_round :
    ∃ low' high', Relation.TransGen (Deliver lowStores highStores) (Pair.lowStarts low high)
      (Pair.lowStarts low' high') ∧ Stuck lowStores highStores low' high' := by
  obtain ⟨lower, lacks, limit⟩ := stuck
  obtain ⟨order, visits⟩ := exists_visits high.log.observed
  have again : Stuck lowStores highStores (served lowStores order 0 high low)
      (high.notePeerCursors low.selfId low.cursors) := by
    refine ⟨served_lower lower order 0, ?_, in_limit_low_served visits limit⟩
    intro supplied
    exact lacks (supplies_of_served 0 visits supplied)
  obtain ⟨low', high', path, later⟩ := stuck_high_round again
  exact ⟨low', high',
    (path_low_served lower (hello_fits_of_known limit.1) limit.2.2.1 visits).trans path, later⟩

theorem stuck_endless {start : Pair}
    (path : Relation.ReflTransGen (Deliver lowStores highStores) start (Pair.lowStarts low high)) :
    ¬Ends (Deliver lowStores highStores) Quiescent start := by
  refine not_ends_of_rounds (fun pair => ∃ low high, pair = Pair.lowStarts low high ∧
    Stuck lowStores highStores low high) quiescent_still ?_ path ⟨low, high, rfl, stuck⟩
  rintro _ ⟨low, high, rfl, stuck⟩
  obtain ⟨low', high', round, later⟩ := stuck_round stuck
  exact ⟨_, round, low', high', rfl, later⟩

omit stuck

variable (lower : low.selfId < high.selfId)

include lower

/-- A message over the limit is sent in the first two rounds, and ends the session. -/
theorem over_ends (large : ¬InLimit lowStores highStores low high) :
    EndsWithin (Deliver lowStores highStores) Quiescent 7 (Pair.lowStarts low high) := by
  refine ends_at_high ?_ (fun _ => ⟨rfl, rfl⟩)
  intro _ order visits wallMs
  simp only [high_answers lower]
  refine ends_delta_at_low ?_ (fun _ => ⟨rfl, rfl⟩)
  intro toLow later
  rw [Fits, payload_delta visits] at toLow
  have own : (served lowStores order later high low).selfId < high.selfId :=
    served_lower lower order later
  refine ends_at_low ?_ (fun _ => ⟨rfl, rfl⟩)
  intro _ order' visits' wallMs'
  change Visits order' (served lowStores order later high low).log.observed at visits'
  have answer : handle lowStores order' wallMs' (served lowStores order later high low)
      (helloOf high) = _ := low_answers own order' wallMs'
  refine answer ▸ ends_delta_at_high ?_ (fun _ => ⟨rfl, rfl⟩)
  intro toHigh last
  rw [Fits, payload_delta visits', catch_up_len_server later visits] at toHigh
  split_ifs with behind
  · refine ends_at_high ?_ (fun _ => ⟨rfl, rfl⟩)
    intro lowHello order'' visits'' wallMs''
    have again : (served lowStores order later high low).selfId <
        (served highStores order' last (served lowStores order later high low)
          (high.notePeerCursors low.selfId low.cursors)).selfId := by
      rw [served_self last]
      exact own
    have reply : handle highStores order'' wallMs'' (served highStores order' last
        (served lowStores order later high low) (high.notePeerCursors low.selfId low.cursors))
          (helloOf (served lowStores order later high low)) = _ :=
      high_answers again order'' wallMs''
    refine reply ▸ ends_delta_at_low ?_ (fun _ => ⟨rfl, rfl⟩)
    intro _ _
    refine ends_at_low ?_ (fun _ => ⟨rfl, rfl⟩)
    intro highHello
    have lowKnown : HelloFits (served lowStores order later high low).cursors.keys := lowHello
    have highKnown : HelloFits (served highStores order' last (served lowStores order later high
        low) (high.notePeerCursors low.selfId low.cursors)).cursors.keys := highHello
    have known : knownAfter highStores (served lowStores order later high low) high =
        knownAfter highStores low high := known_after_server later visits
    rw [served_keys later visits] at lowKnown
    rw [served_keys last visits'] at highKnown
    exact absurd ⟨lowKnown, known ▸ highKnown, toLow, toHigh⟩ large
  · exact .reached ⟨rfl, rfl⟩

theorem over_ends_high (large : ¬InLimit lowStores highStores low high) :
    EndsWithin (Deliver lowStores highStores) Quiescent 9 (Pair.highStarts low high) := by
  refine ends_at_low ?_ (fun _ => ⟨rfl, rfl⟩)
  intro _ order visits wallMs
  simp only [low_answers lower]
  refine ends_delta_at_high ?_ (fun _ => ⟨rfl, rfl⟩)
  intro toHigh later
  rw [Fits, payload_delta visits] at toHigh
  split_ifs
  · refine over_ends ?_ ?_
    · rw [(apply_frames_frame _ _ _ _).1]
      exact lower
    · intro limit
      change InLimit lowStores highStores low (served highStores order later low high) at limit
      rw [InLimit, known_after_server later visits, known_after_served later visits,
        catch_up_len_server later visits] at limit
      exact large ⟨limit.1, limit.2.1, limit.2.2.1, toHigh⟩
  · exact .reached ⟨rfl, rfl⟩

theorem low_starts_ends (supplied : Supplies lowStores high low) :
    EndsWithin (Deliver lowStores highStores) Quiescent 4 (Pair.lowStarts low high) :=
  ends_within_imp (supplied_ends lower supplied) (fun _ ended => ended.1)

theorem high_starts_ends (supplied : Supplies lowStores high low) :
    EndsWithin (Deliver lowStores highStores) Quiescent 6 (Pair.highStarts low high) := by
  refine ends_at_low ?_ (fun _ => ⟨rfl, rfl⟩)
  intro _ order visits wallMs
  refine ends_delta_at_high ?_ (fun _ => ⟨rfl, rfl⟩)
  intro _ later
  split_ifs
  · refine low_starts_ends ?_ ((supplies_served_iff later visits).mpr supplied)
    rw [(apply_frames_frame _ _ _ _).1]
    exact lower
  · exact .reached ⟨rfl, rfl⟩

omit lower

/-- The exchange after one `Hello`, of either peer, ends exactly when the higher peer can supply
everything the lower one lacks, or a message is too large for its reader. -/
theorem exchange_ends_iff (lower : low.selfId < high.selfId) :
    (Ends (Deliver lowStores highStores) Quiescent (Pair.lowStarts low high) ↔
        Supplies lowStores high low ∨ ¬InLimit lowStores highStores low high) ∧
      (Ends (Deliver lowStores highStores) Quiescent (Pair.highStarts low high) ↔
        Supplies lowStores high low ∨ ¬InLimit lowStores highStores low high) := by
  constructor
  · constructor
    · intro ends
      by_contra neither
      obtain ⟨lacks, limit⟩ := not_or.mp neither
      exact stuck_endless ⟨lower, lacks, not_not.mp limit⟩ .refl ends
    · intro either
      rcases either with supplied | large
      · exact ends_of_ends_within (low_starts_ends lower supplied)
      · exact ends_of_ends_within (over_ends lower large)
  · constructor
    · intro ends
      by_contra neither
      obtain ⟨lacks, limit⟩ := not_or.mp neither
      obtain ⟨_, _, path, stuck⟩ := stuck_high_round ⟨lower, lacks, not_not.mp limit⟩
      exact stuck_endless stuck path.to_reflTransGen ends
    · intro either
      rcases either with supplied | large
      · exact ends_of_ends_within (high_starts_ends lower supplied)
      · exact ends_of_ends_within (over_ends_high lower large)

end

theorem first_write_exchange_ends :
    Ends (Deliver (fun _ => true) (fun _ => true)) Quiescent
      (Pair.lowStarts (SyncState.new (peerNumber 0)) (firstState [7])) := by
  have lower : (SyncState.new (peerNumber 0)).selfId < (firstState [7]).selfId := by decide
  apply (exchange_ends_iff lower).1.mpr
  exact Or.inl (supplies_of_accepted (fun _ => Nat.zero_le _) (fun _ _ _ => rfl))

def signatureRequired : SyncState := (SyncState.new (peerNumber 0)).setAuth signedOnly

/-- The lower peer rejects the one, unsigned frame of the higher. It asks for it
again after every `Hello`, and every such question is answered at once. -/
theorem rejected_frame_exchange_endless :
    ¬Ends (Deliver (fun _ => true) (fun _ => true)) Quiescent
      (Pair.lowStarts signatureRequired (firstState [7])) := by
  refine stuck_endless ⟨by decide, ?_, by decide, by decide, by decide, by decide⟩ .refl
  intro supplied
  obtain ⟨frame, held, -, accepted⟩ := supplied (peerNumber 1) 1 (by decide) (by decide)
  have only : frame = firstWrite [7] := by
    have stored : (firstState [7]).log.stored (peerNumber 1) = [firstWrite [7]] := by decide
    rw [stored] at held
    exact List.mem_singleton.mp held
  subst only
  revert accepted
  decide

end Stitch.P2P.PairExchange
