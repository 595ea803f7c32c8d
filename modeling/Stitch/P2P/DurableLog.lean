import Stitch.P2P.ReplicationLog

/-!
# Durable replication log

Transcription of `persistence.rs`. The keyspace is a map from key bytes to encoded frames. The
storage engine answers whether the insert and the sync of one `append` succeed and whether a
stored entry can be read; `load` visits the keys in the order given to it.
-/

namespace Stitch.P2P.DurableLog

open Foundation.ByteLayout Foundation.FiniteMap HybridClock WireFormat ReplicationLog

abbrev FrameStore := HashMap (List UInt8) (List UInt8)

/-- The `io::ErrorKind` of a failed call, with the frame error it wraps. -/
inductive LogError where
  | invalidInput (error : WireError)
  | invalidData (error : WireError)
  | other
  deriving DecidableEq

/-- What the storage engine answers to the two steps of one `append`. -/
structure StorageAnswer where
  insert : Bool
  sync : Bool
  deriving DecidableEq

def frameKey (frame : WriteFrame) : List UInt8 :=
  frame.stamp.peer.bytes ++ beBytes 8 frame.seq

/-- An entry that was inserted stays, whatever the sync answers. -/
def append (store : FrameStore) (answer : StorageAnswer) (frame : WriteFrame) :
    FrameStore × Except LogError Unit :=
  match frame.encode with
  | .error error => (store, .error (.invalidInput error))
  | .ok bytes =>
    if answer.insert then
      (store.insert (frameKey frame) bytes,
        if answer.sync then .ok () else .error .other)
    else (store, .error .other)

def readEntry (store : FrameStore) (readable : List UInt8 → Bool) (key : List UInt8) :
    Except LogError WriteFrame :=
  if readable key then
    match WriteFrame.decode (getOr store key []) with
    | .error error => .error (.invalidData error)
    | .ok frame => .ok frame
  else .error .other

/-- `order` is the order in which the keyspace iterates. -/
def load (store : FrameStore) (readable : List UInt8 → Bool) (order : List (List UInt8)) :
    Except LogError (List WriteFrame) :=
  order.mapM (readEntry store readable)

def ByteOrder (order : List (List UInt8)) (store : FrameStore) : Prop :=
  Visits order store ∧ order.Pairwise (· < ·)

def Keeps (store : FrameStore) (frame : WriteFrame) : Prop :=
  ∃ key bytes, store.lookup key = some bytes ∧ WriteFrame.decode bytes = .ok frame

section

variable {left right : WriteFrame}

theorem frame_key_inj (leftFits : left.FitsWidths) (rightFits : right.FitsWidths)
    (same : frameKey left = frameKey right) :
    left.stamp.peer = right.stamp.peer ∧ left.seq = right.seq := by
  have sizes : left.stamp.peer.bytes.length = right.stamp.peer.bytes.length := by
    rw [left.stamp.peer.size, right.stamp.peer.size]
  obtain ⟨peers, seqs⟩ := List.append_inj same sizes
  refine ⟨PeerId.ext peers, ?_⟩
  rw [← be_value_be_bytes_of_lt leftFits.seq, seqs, be_value_be_bytes_of_lt rightFits.seq]

theorem seq_lt_of_key_lt (leftFits : left.FitsWidths) (rightFits : right.FitsWidths)
    (peer : left.stamp.peer = right.stamp.peer) (less : frameKey left < frameKey right) :
    left.seq < right.seq := by
  have widths : (frameKey left).length = (frameKey right).length := by
    simp [frameKey, left.stamp.peer.size, right.stamp.peer.size]
  have values := be_value_lt_of_lt widths less
  simp only [frameKey, be_value_append, be_bytes_length, peer,
    be_value_be_bytes_of_lt leftFits.seq, be_value_be_bytes_of_lt rightFits.seq] at values
  omega

end

theorem load_readable {store : FrameStore} {readable : List UInt8 → Bool}
    {order : List (List UInt8)} {frames : List WriteFrame}
    (loaded : load store readable order = .ok frames) :
    load store (fun _ => true) order = .ok frames := by
  unfold load at loaded ⊢
  induction order generalizing frames with
  | nil => exact loaded
  | cons key rest ih =>
    rw [List.mapM_cons] at loaded ⊢
    cases read : readEntry store readable key with
    | error error =>
      rw [read] at loaded
      cases loaded
    | ok frame =>
      have readKey : readEntry store (fun _ => true) key = .ok frame := by
        unfold readEntry at read ⊢
        by_cases answers : readable key = true
        · simpa only [answers, if_true] using read
        · simp [answers] at read
      cases others : rest.mapM (readEntry store readable) with
      | error error =>
        rw [read, others] at loaded
        cases loaded
      | ok loadedRest =>
        rw [readKey, ih others]
        rw [read, others] at loaded
        exact loaded

/-- The store holds exactly the frames of a history, each under its own key. -/
structure Stores (store : FrameStore) (logs : OriginLogs) : Prop where
  fits : ∀ frame, logs.Contains frame → frame.FitsWidths
  encoded : ∀ frame, logs.Contains frame →
    ∃ bytes, frame.encode = .ok bytes ∧ store.lookup (frameKey frame) = some bytes
  only : ∀ key, key ∈ store → ∃ frame, logs.Contains frame ∧ frameKey frame = key

def emptyLogs : OriginLogs where
  frames _ := []
  numbered := by simp

theorem empty_stores : Stores ∅ emptyLogs where
  fits frame written := by cases written
  encoded frame written := by cases written
  only key member := (Finmap.notMem_empty member).elim

section

variable {store : FrameStore} {logs : OriginLogs}
variable {frame : WriteFrame} {order : List (List UInt8)}

variable (stores : Stores store logs)

include stores

theorem stores_insert {bytes : List UInt8}
    (next : frame.seq = (logs.frames frame.stamp.peer).length + 1) (fits : frame.FitsWidths)
    (encoded : frame.encode = .ok bytes) :
    Stores (store.insert (frameKey frame) bytes) (logs.append frame next) where
  fits other written := by
    rcases contains_of_append next written with old | rfl
    · exact stores.fits other old
    · exact fits
  encoded other written := by
    rcases contains_of_append next written with old | rfl
    · obtain ⟨otherBytes, otherEncoded, held⟩ := stores.encoded other old
      have distinct : frameKey other ≠ frameKey frame := by
        intro same
        obtain ⟨peer, seq⟩ := frame_key_inj (stores.fits other old) fits same
        have bound := contains_seq_le old
        rw [peer] at bound
        omega
      exact ⟨otherBytes, otherEncoded, by rw [Finmap.lookup_insert_of_ne _ distinct, held]⟩
    · exact ⟨bytes, encoded, Finmap.lookup_insert _⟩
  only key member := by
    rw [Finmap.mem_insert] at member
    rcases member with rfl | old
    · exact ⟨frame, append_contains_self next, rfl⟩
    · obtain ⟨other, written, keyed⟩ := stores.only key old
      exact ⟨other, append_contains next written, keyed⟩

theorem stores_decode (written : logs.Contains frame) :
    ∃ bytes, store.lookup (frameKey frame) = some bytes ∧ WriteFrame.decode bytes = .ok frame := by
  obtain ⟨bytes, encoded, held⟩ := stores.encoded frame written
  have decoded := decode_encode_append (stores.fits frame written) encoded []
  rw [List.append_nil] at decoded
  exact ⟨bytes, held, decoded⟩

theorem stores_keeps_iff (frame : WriteFrame) :
    Keeps store frame ↔ logs.Contains frame := by
  constructor
  · intro keeps
    obtain ⟨key, bytes, held, decoded⟩ := keeps
    obtain ⟨other, written, keyed⟩ := stores.only key (Finmap.mem_iff.mpr ⟨bytes, held⟩)
    obtain ⟨otherBytes, otherHeld, otherDecoded⟩ := stores_decode stores written
    rw [keyed, held, Option.some.injEq] at otherHeld
    rw [← otherHeld, decoded, Except.ok.injEq] at otherDecoded
    rw [otherDecoded]
    exact written
  · intro written
    obtain ⟨bytes, held, decoded⟩ := stores_decode stores written
    exact ⟨frameKey frame, bytes, held, decoded⟩

theorem read_entry_stored {key : List UInt8} (member : key ∈ store) :
    ∃ frame, readEntry store (fun _ => true) key = .ok frame ∧ logs.Contains frame ∧
      frameKey frame = key := by
  obtain ⟨frame, written, keyed⟩ := stores.only key member
  obtain ⟨bytes, held, decoded⟩ := stores_decode stores written
  rw [keyed] at held
  refine ⟨frame, ?_, written, keyed⟩
  simp [readEntry, getOr_of_lookup held, decoded]

theorem load_keys (listed : ∀ key ∈ order, key ∈ store) :
    ∃ frames, load store (fun _ => true) order = .ok frames ∧ frames.map frameKey = order ∧
      ∀ frame ∈ frames, logs.Contains frame := by
  induction order with
  | nil => exact ⟨[], rfl, rfl, by simp⟩
  | cons key rest ih =>
    obtain ⟨frames, loaded, keys, written⟩ :=
      ih fun other member => listed other (List.mem_cons_of_mem _ member)
    obtain ⟨frame, read, frameWritten, keyed⟩ :=
      read_entry_stored stores (listed key List.mem_cons_self)
    refine ⟨frame :: frames, ?_, by rw [List.map_cons, keyed, keys], ?_⟩
    · unfold load at loaded ⊢
      rw [List.mapM_cons, read, loaded]
      rfl
    · intro other member
      rcases List.mem_cons.mp member with rfl | later
      · exact frameWritten
      · exact written other later

/-- Loading in byte order returns the log of every origin in sequence order. -/
theorem load_origin_logs (byteOrder : ByteOrder order store) :
    ∃ frames, load store (fun _ => true) order = .ok frames ∧
      ∀ origin, frames.filter (fun frame => frame.stamp.peer = origin) = logs.frames origin := by
  obtain ⟨⟨-, visited⟩, sorted⟩ := byteOrder
  obtain ⟨frames, loaded, keys, written⟩ :=
    load_keys stores fun key listed => (visited key).mp listed
  refine ⟨frames, loaded, ?_⟩
  intro origin
  -- Both lists ascend strictly in the sequence number and have the same members.
  have loadedAscending : (frames.filter (fun frame => frame.stamp.peer = origin)).Pairwise
      (fun left right => left.seq < right.seq) := by
    rw [← keys, List.pairwise_map] at sorted
    rw [List.pairwise_filter]
    refine sorted.imp_of_mem ?_
    intro left right leftMember rightMember less leftPeer rightPeer
    simp only [decide_eq_true_eq] at leftPeer rightPeer
    exact seq_lt_of_key_lt (stores.fits left (written left leftMember))
      (stores.fits right (written right rightMember)) (leftPeer.trans rightPeer.symm) less
  have historyAscending : (logs.frames origin).Pairwise
      (fun left right => left.seq < right.seq) := by
    rw [List.pairwise_iff_getElem]
    intro first second firstBound secondBound less
    have firstSeq := (logs.numbered origin first _ (List.getElem?_eq_getElem firstBound)).2
    have secondSeq := (logs.numbered origin second _ (List.getElem?_eq_getElem secondBound)).2
    omega
  have members : ∀ frame, frame ∈ frames.filter (fun frame => frame.stamp.peer = origin) ↔
      frame ∈ logs.frames origin := by
    intro frame
    rw [List.mem_filter, decide_eq_true_eq]
    constructor
    · intro member
      obtain ⟨listed, peer⟩ := member
      rw [← peer]
      exact written frame listed
    · intro member
      obtain ⟨index, found⟩ := List.mem_iff_getElem?.mp member
      have peer := (logs.numbered origin index frame found).1
      have contained := origin_log_contains found
      obtain ⟨bytes, held, -⟩ := stores_decode stores contained
      have listed := (visited _).mpr (Finmap.mem_iff.mpr ⟨bytes, held⟩)
      rw [← keys, List.mem_map] at listed
      obtain ⟨other, otherListed, sameKey⟩ := listed
      have otherWritten := written other otherListed
      obtain ⟨samePeer, sameSeq⟩ :=
        frame_key_inj (stores.fits other otherWritten) (stores.fits frame contained) sameKey
      rw [← contains_unique otherWritten contained samePeer sameSeq]
      exact ⟨otherListed, samePeer.trans peer⟩
  have distinct : ∀ {list : List WriteFrame},
      list.Pairwise (fun left right => left.seq < right.seq) → list.Nodup := by
    intro list ascending
    exact ascending.imp fun less same => absurd less (by rw [same]; exact Nat.lt_irrefl _)
  have permuted := (List.perm_ext_iff_of_nodup (distinct loadedAscending)
    (distinct historyAscending)).mpr members
  exact permuted.eq_of_pairwise (fun left right _ _ less more => absurd less (by omega))
    loadedAscending historyAscending

end

end Stitch.P2P.DurableLog
