import Stitch.Transport.FileTransfer

/-!
# What a completed transfer wrote

The receiver compares the bytes it wrote with the digest of the completion frame. The size and
the digest of the offer and the offsets of the chunks are read nowhere.
-/

namespace Stitch.Transport.FileIntegrity

open Foundation.ByteLayout Foundation.FallibleState Foundation.PathComponents FileTransfer

section

def isChunk (frame : Frame) : Bool := frame.frameType == frameDataChunk

/-- The chunks a sender puts before its first other frame. -/
def chunksOf (frames : List Frame) : List Frame := frames.takeWhile isChunk

def closingOf (frames : List Frame) : Option Frame := (frames.dropWhile isChunk).head?

structure AgreesWithOffer (offer : FileOffer) (frames : List Frame) : Prop where
  size : ((chunksOf frames).map Frame.data).flatten.length = offer.size.toNat
  digest : ∃ closing, closingOf frames = some closing ∧
    hexText (closing.payload.take 32) = offer.sha256
  offsets : ∀ index chunk, (chunksOf frames)[index]? = some chunk →
    chunk.offset = (((chunksOf frames).take index).map Frame.data).flatten.length

def written (ops : List FileOp) : List (List UInt8) :=
  ops.filterMap fun
    | .write _ data => some data
    | _ => none

/-- What was written is the offered file, each chunk where its offset says. -/
structure Faithful (library : Library) (offer : FileOffer) (chunks : List Frame)
    (ops : List FileOp) : Prop where
  size : (written ops).flatten.length = offer.size.toNat
  digest : hexText (library.sha256 (written ops).flatten).bytes = offer.sha256
  offsets : ∀ index chunk, chunks[index]? = some chunk →
    chunk.offset = ((written ops).take index).flatten.length

variable {chunks : List Frame} {closing : Frame}

theorem split_frames (rest : List Frame) (all : ∀ chunk ∈ chunks, isChunk chunk = true)
    (other : isChunk closing = false) :
    chunksOf (chunks ++ closing :: rest) = chunks ∧
      closingOf (chunks ++ closing :: rest) = some closing := by
  constructor
  · rw [chunksOf, List.takeWhile_append_of_pos all, List.takeWhile_cons_of_neg (by simp [other]),
      List.append_nil]
  · rw [closingOf, List.dropWhile_append_of_pos all, List.dropWhile_cons_of_neg (by simp [other])]
    rfl

end

section

variable {library : Library} {outside : Outside} {state after : Receiver} {temp : List Char}

theorem on_disk_ok {op : FileOp} (done : onDisk outside op state = (.ok (), after)) :
    after.ops = state.ops ++ [op] := by
  unfold onDisk at done
  split at done
  · cases done
  · cases done
    rfl

variable {ops : List FileOp}

theorem keeps_ops_call (failure : String → TransferError) {note : Receiver → Receiver}
    (kept : ∀ receiver, (note receiver).ops = receiver.ops) :
    Keeps (fun receiver => receiver.ops = ops) (call outside failure note) := by
  intro receiver same
  unfold call
  split
  · exact (kept receiver).trans same
  · exact (kept receiver).trans same

theorem keeps_ops_frame (frameType : UInt8) (payload : List UInt8) :
    Keeps (fun receiver => receiver.ops = ops) (writeFrame outside frameType payload) := by
  have kept : ∀ failed bytes,
      Keeps (fun receiver => receiver.ops = ops) (writeAll outside failed bytes) :=
    fun failed bytes => keeps_ops_call _ (fun receiver => rfl)
  apply keeps_bind (kept _ _)
  intro _
  split
  · exact kept _ _
  · exact keeps_pure _

variable {ending : TransferError} {frames : List Frame}

theorem receive_loop_ok {total : UInt64} {fed : List UInt8} {received : UInt64}
    {result : String × UInt64}
    (ran : receiveLoop library outside total temp ending frames (some fed) received state = (.ok
      result, after)) :
    ∃ chunks closing rest, frames = chunks ++ closing :: rest ∧
      (∀ chunk ∈ chunks, isChunk chunk = true) ∧ isChunk closing = false ∧
      hexText (closing.payload.take 32) =
        hexText (library.sha256 (fed ++ (chunks.map Frame.data).flatten)).bytes ∧
      after.ops = state.ops ++ chunks.map (fun chunk => .write temp chunk.data) := by
  induction frames generalizing fed received state with
  | nil => cases ran
  | cons frame rest ih =>
    unfold receiveLoop at ran
    split_ifs at ran with chunk short complete small
    · cases ran
    · obtain ⟨_, middle, wrote, continued⟩ := bind_ok_iff.mp ran
      obtain ⟨_, reported, noted, continued⟩ := bind_ok_iff.mp continued
      cases noted
      obtain ⟨chunks, closing, later, split, all, other, hash, ops⟩ := ih continued
      refine ⟨frame :: chunks, closing, later, by rw [split]; rfl, ?_, other, ?_, ?_⟩
      · intro member inside
        rcases List.mem_cons.mp inside with same | inside
        · rw [same]
          exact beq_iff_eq.mpr chunk
        · exact all member inside
      · rw [hash, List.map_cons, List.flatten_cons, List.append_assoc]
      · rw [ops, List.map_cons]
        rw [on_disk_ok wrote, List.append_assoc]
        rfl
    · cases ran
    · dsimp only at ran
      split_ifs at ran with different
      · cases ran
      · cases ran
        refine ⟨[], frame, rest, rfl, List.forall_mem_nil _, ?_, ?_, (List.append_nil _).symm⟩
        · exact beq_eq_false_iff_ne.mpr chunk
        · rw [not_ne_iff.mp different, List.map_nil, List.flatten_nil, List.append_nil]
    · cases ran

variable {outputDir : List Char} {offer : FileOffer} {result : TransferResult}

variable
  (ran : receiveOffered library outside outputDir offer frames ending Receiver.new = (.ok result, after))

include ran

theorem receive_offered_ops :
    let temp := join outputDir (tempName offer.name.toList)
    ∃ chunks closing rest, frames = chunks ++ closing :: rest ∧
      (∀ chunk ∈ chunks, isChunk chunk = true) ∧ isChunk closing = false ∧
      hexText (closing.payload.take 32) =
        hexText (library.sha256 (chunks.map Frame.data).flatten).bytes ∧
      after.ops = .create temp :: chunks.map (fun chunk => .write temp chunk.data) ++
        [.flush temp, .rename temp (join outputDir offer.name.toList)] := by
  obtain ⟨_, accepted, accept, ran⟩ := bind_ok_iff.mp ran
  obtain ⟨_, opened, create, ran⟩ := bind_ok_iff.mp ran
  obtain ⟨⟨finalHash, received⟩, looped, loop, ran⟩ := bind_ok_iff.mp ran
  obtain ⟨_, flushed, flush, ran⟩ := bind_ok_iff.mp ran
  obtain ⟨_, renamed, rename, ran⟩ := bind_ok_iff.mp ran
  obtain ⟨_, acked, ack, ran⟩ := bind_ok_iff.mp ran
  obtain ⟨_, finished, last, returned⟩ := bind_ok_iff.mp ran
  cases returned
  obtain ⟨chunks, closing, rest, split, all, other, hash, ops⟩ := receive_loop_ok loop
  refine ⟨chunks, closing, rest, split, all, other, hash, ?_⟩
  -- the frames sent back change nothing on disk
  have before : accepted.ops = [] := (keeps_ops_frame _ _).after rfl accept
  have ackOps : acked.ops = renamed.ops := (keeps_ops_frame _ _).after rfl ack
  have lastOps : after.ops = acked.ops := (keeps_ops_call _ fun _ => rfl).after rfl last
  rw [lastOps, ackOps, on_disk_ok rename, on_disk_ok flush, ops, on_disk_ok create, before]
  simp

/-- An accepted transfer that returned wrote the chunks before the first other frame, and that
frame's digest is the digest of what it wrote. -/
theorem receive_offered_ok :
    written after.ops = (chunksOf frames).map Frame.data ∧
      ∃ closing, closingOf frames = some closing ∧
        hexText (closing.payload.take 32) =
          hexText (library.sha256 (written after.ops).flatten).bytes := by
  obtain ⟨chunks, closing, rest, split, all, other, hash, ops⟩ := receive_offered_ops ran
  have whole : written after.ops = chunks.map Frame.data := by
    rw [ops]
    simp [written, List.filterMap_append, List.filterMap_map]
  obtain ⟨chunksSame, closingSame⟩ := split_frames rest all other
  rw [← split] at chunksSame closingSame
  refine ⟨by rw [whole, chunksSame], closing, closingSame, ?_⟩
  rw [hash, whole]

omit ran

theorem receive_frames_ok {first : Frame} (parsed : library.parseOffer first.payload = .ok offer)
    (ran : receiveFrames library outside outputDir (first :: frames) ending state = (.ok result,
      after)) :
    outside.accept offer = true ∧
      receiveOffered library outside outputDir offer frames ending state = (.ok result, after) := by
  simp only [receiveFrames, parsed] at ran
  split_ifs at ran with offered refused
  · cases ran
  · obtain ⟨_, _, _, ended⟩ := bind_ok_iff.mp ran
    cases ended
  · exact ⟨Bool.eq_true_of_not_eq_false refused, ran⟩

end

section

variable {library : Library} {outside : Outside} (quiet : ∀ number, outside.faults number = none)
  {offer : FileOffer}

include quiet in
theorem succeeds_call (failure : String → TransferError) (note : Receiver → Receiver) :
    Succeeds (call outside failure note) := by
  intro state
  unfold call
  rw [quiet]
  exact ⟨(), _, rfl⟩

include quiet in
theorem succeeds_on_disk (op : FileOp) (taken : op.target?.bind (refusal outside.directory) = none) :
    Succeeds (onDisk outside op) := by
  intro state
  unfold onDisk
  rw [taken, quiet]
  exact ⟨(), _, rfl⟩

include quiet in
theorem succeeds_frame (frameType : UInt8) (payload : List UInt8) :
    Succeeds (writeFrame outside frameType payload) := by
  apply succeeds_bind (succeeds_call quiet _ _)
  intro _
  split
  · exact succeeds_call quiet _ _
  · exact succeeds_pure _

theorem chunk_data (offset : Nat) (piece : List UInt8) :
    Frame.data ⟨frameDataChunk, beBytes 8 offset ++ piece⟩ = piece :=
  List.drop_left' (be_bytes_length 8 offset)

include quiet in
theorem succeeds_receive_loop (total : UInt64) (temp : List Char) (ending : TransferError)
    (pieces : List (List UInt8)) (offset received : UInt64) (fed : List UInt8) :
    Succeeds (receiveLoop library outside total temp ending
      (chunkFrames offset pieces ++ [completion library (fed ++ pieces.flatten)]) (some fed)
      received) := by
  induction pieces generalizing offset received fed with
  | nil =>
    have long : ¬ (library.sha256 fed).bytes.length < 32 := by
      rw [(library.sha256 fed).size]
      decide
    have whole : (library.sha256 fed).bytes.take 32 = (library.sha256 fed).bytes :=
      List.take_of_length_le (library.sha256 fed).size.le
    simp only [chunkFrames, List.flatten_nil, List.append_nil, List.nil_append, completion]
    unfold receiveLoop
    rw [if_neg (show frameTransferComplete ≠ frameDataChunk by decide), if_pos rfl, if_neg long]
    dsimp only
    rw [whole, if_neg (not_ne_iff.mpr rfl)]
    exact succeeds_pure _
  | cons piece rest ih =>
    have long : ¬ (beBytes 8 offset.toNat ++ piece).length < 8 := by
      rw [List.length_append, be_bytes_length]
      omega
    rw [chunkFrames, List.flatten_cons, List.cons_append, ← List.append_assoc]
    unfold receiveLoop
    rw [if_pos rfl, if_neg long, chunk_data]
    apply succeeds_bind (succeeds_on_disk quiet _ rfl)
    intro _
    apply succeeds_bind (fun state => ⟨(), _, rfl⟩)
    intro _
    exact ih _ _ _

include quiet in
theorem receive_sent (accepted : outside.accept offer = true) {payload : List UInt8}
    (parsed : library.parseOffer payload = .ok offer) (outputDir : List Char)
    (tempTaken : refusal outside.directory (join outputDir (tempName offer.name.toList)) = none)
    (outTaken : refusal outside.directory (join outputDir offer.name.toList) = none)
    (ended : String)
    {pieces : List (List UInt8)}
    (fit : ∀ frame ∈ sentFrames library payload pieces,
      frame.payload.length ≤ maxFramePayload) :
    Succeeds (receiveFile library outside outputDir ended
      ((sentFrames library payload pieces).flatMap Frame.bytes)) := by
  rw [receiveFile, incoming_written ended fit]
  simp only [sentFrames, receiveFrames, ne_eq, not_true_eq_false, if_false, parsed, accepted,
    Bool.true_eq_false]
  apply succeeds_bind (succeeds_frame quiet _ _)
  intro _
  apply succeeds_bind (succeeds_on_disk quiet (.create _) tempTaken)
  intro _
  apply succeeds_bind (succeeds_receive_loop quiet offer.size _ _ pieces 0 0 [])
  intro result
  apply succeeds_bind (succeeds_on_disk quiet _ rfl)
  intro _
  apply succeeds_bind (succeeds_on_disk quiet (.rename _ _) outTaken)
  intro _
  apply succeeds_bind (succeeds_frame quiet _ _)
  intro _
  apply succeeds_bind (succeeds_call quiet _ _)
  intro _
  exact succeeds_pure _

theorem closed_frames_fit (library : Library) {payload : List UInt8}
    (fits : payload.length ≤ maxFramePayload) :
    ∀ frame ∈ sentFrames library payload [], frame.payload.length ≤ maxFramePayload := by
  refine List.forall_mem_cons.mpr ⟨fits, List.forall_mem_singleton.mpr ?_⟩
  change (library.sha256 []).bytes.length ≤ maxFramePayload
  rw [(library.sha256 []).size]
  decide

theorem chunk_frames_chunks (offset : UInt64) (pieces : List (List UInt8)) :
    ∀ chunk ∈ chunkFrames offset pieces, isChunk chunk = true := by
  induction pieces generalizing offset with
  | nil => exact List.forall_mem_nil _
  | cons piece rest ih => exact List.forall_mem_cons.mpr ⟨rfl, ih _⟩

theorem chunk_frames_data (offset : UInt64) (pieces : List (List UInt8)) :
    (chunkFrames offset pieces).map Frame.data = pieces := by
  induction pieces generalizing offset with
  | nil => rfl
  | cons piece rest ih => rw [chunkFrames, List.map_cons, chunk_data, ih]

variable {pieces : List (List UInt8)}

theorem chunk_frames_offset {offset : UInt64} {index : Nat} {chunk : Frame}
    (fits : offset.toNat + pieces.flatten.length < 2 ^ 64)
    (found : (chunkFrames offset pieces)[index]? = some chunk) :
    chunk.offset = offset.toNat + (pieces.take index).flatten.length := by
  induction pieces generalizing offset index with
  | nil => cases found
  | cons piece rest ih =>
    rw [List.flatten_cons, List.length_append] at fits
    cases index with
    | zero =>
      cases found
      rw [Frame.offset, List.take_left' (be_bytes_length 8 _),
        be_value_be_bytes_of_lt offset.toNat_lt]
      rfl
    | succ index =>
      have small : piece.length < 2 ^ 64 := by omega
      have moved : (offset + UInt64.ofNat piece.length).toNat = offset.toNat + piece.length := by
        rw [UInt64.toNat_add, UInt64.toNat_ofNat', Nat.mod_eq_of_lt small,
          Nat.mod_eq_of_lt (by omega)]
      rw [ih (by rw [moved]; omega) found, moved, List.take_succ_cons, List.flatten_cons,
        List.length_append, Nat.add_assoc]

theorem sent_agrees (size : pieces.flatten.length = offer.size.toNat)
    (digest : hexText (library.sha256 pieces.flatten).bytes = offer.sha256) :
    AgreesWithOffer offer (chunkFrames 0 pieces ++ [completion library pieces.flatten]) := by
  obtain ⟨chunks, closing⟩ := split_frames [] (chunk_frames_chunks 0 pieces)
    (rfl : isChunk (completion library pieces.flatten) = false)
  constructor
  · rw [chunks, chunk_frames_data, size]
  · refine ⟨_, closing, ?_⟩
    change hexText ((library.sha256 pieces.flatten).bytes.take 32) = _
    rw [List.take_of_length_le (library.sha256 pieces.flatten).size.le, digest]
  · intro index chunk found
    have fits : (0 : UInt64).toNat + pieces.flatten.length < 2 ^ 64 := by
      rw [size]
      exact Nat.zero_add _ ▸ offer.size.toNat_lt
    rw [chunks] at found ⊢
    rw [chunk_frames_offset fits found, List.map_take, chunk_frames_data]
    exact Nat.zero_add _

include quiet in
/-- What a sender puts on the stream is put on the disk: the pieces, one after the other, under
the temporary name, and the name of the offer is given at the very end. -/
theorem sent_file_put (accepted : outside.accept offer = true) {payload : List UInt8}
    (parsed : library.parseOffer payload = .ok offer) (outputDir : List Char)
    (tempTaken : refusal outside.directory (join outputDir (tempName offer.name.toList)) = none)
    (outTaken : refusal outside.directory (join outputDir offer.name.toList) = none)
    (ended : String)
    {pieces : List (List UInt8)} (fit : ∀ frame ∈ sentFrames library payload pieces,
      frame.payload.length ≤ maxFramePayload) :
    let temp := join outputDir (tempName offer.name.toList)
    ∃ result after, receiveFile library outside outputDir ended
        ((sentFrames library payload pieces).flatMap Frame.bytes) Receiver.new =
          (.ok result, after) ∧
      after.ops = .create temp :: pieces.map (.write temp) ++
        [.flush temp, .rename temp (join outputDir offer.name.toList)] := by
  obtain ⟨result, after, returned⟩ :=
    receive_sent quiet accepted parsed outputDir tempTaken outTaken ended fit Receiver.new
  refine ⟨result, after, returned, ?_⟩
  rw [receiveFile, incoming_written ended fit] at returned
  obtain ⟨chunks, _, rest, split, all, other, -, ops⟩ :=
    receive_offered_ops (receive_frames_ok parsed returned).2
  have sent := (split_frames [] (chunk_frames_chunks 0 pieces)
    (rfl : isChunk (completion library pieces.flatten) = false)).1
  have received := (split_frames rest all other).1
  rw [← split, sent] at received
  have data : pieces = chunks.map Frame.data := by rw [← received, chunk_frames_data]
  rw [ops, data, List.map_map]
  rfl

end

section

variable (library : Library) (outside : Outside) (outputDir : List Char) (ended : String)
  (stream : List UInt8)

/-- A transfer that returns was approved, and it wrote the offered file exactly when the frames
of the sender agree with the offer. -/
theorem received_as_offered_iff {first : Frame} {frames : List Frame} {ending : TransferError}
    {offer : FileOffer} {result : TransferResult} {after : Receiver}
    (arrived : incoming ended stream = (first :: frames, ending))
    (parsed : library.parseOffer first.payload = .ok offer)
    (returned : receiveFile library outside outputDir ended stream Receiver.new =
      (.ok result, after)) :
    outside.accept offer = true ∧
      (Faithful library offer (chunksOf frames) after.ops ↔ AgreesWithOffer offer frames) := by
  rw [receiveFile, arrived] at returned
  obtain ⟨approved, ran⟩ := receive_frames_ok parsed returned
  obtain ⟨whole, closing, closed, hash⟩ := receive_offered_ok ran
  refine ⟨approved, ?_, ?_⟩
  · intro faithful
    constructor
    · rw [← whole, faithful.size]
    · exact ⟨closing, closed, hash.trans faithful.digest⟩
    · intro index chunk found
      rw [faithful.offsets index chunk found, List.map_take, whole]
  · intro agrees
    obtain ⟨other, same, digest⟩ := agrees.digest
    cases closed.symm.trans same
    constructor
    · rw [whole, agrees.size]
    · exact hash.symm.trans digest
    · intro index chunk found
      rw [agrees.offsets index chunk found, List.map_take, whole]

/-- The JSON text of an offer in whose name nothing has to be escaped. -/
def offerJson (offer : FileOffer) : List UInt8 :=
  utf8Bytes ("\x7b\"name\":\"" ++ offer.name ++ "\",\"size\":" ++ toString offer.size.toNat ++
    ",\"sha256\":\"" ++ offer.sha256 ++ "\"\x7d")

def readsOnly (offer : FileOffer) (payload : List UInt8) : Except String FileOffer :=
  if payload = offerJson offer then .ok offer else .error "expected value at line 1 column 1"

theorem reads_json (offer : FileOffer) : readsOnly offer (offerJson offer) = .ok offer := if_pos rfl

def digestEmpty : Block 32 := Block.copy 32
  [0xe3, 0xb0, 0xc4, 0x42, 0x98, 0xfc, 0x1c, 0x14, 0x9a, 0xfb, 0xf4, 0xc8, 0x99, 0x6f, 0xb9, 0x24,
  0x27, 0xae, 0x41, 0xe4, 0x64, 0x9b, 0x93, 0x4c, 0xa4, 0x95, 0x99, 0x1b, 0x78, 0x52, 0xb8, 0x55]

def digestNotes : Block 32 := Block.copy 32
  [0x03, 0x90, 0x58, 0xc6, 0xf2, 0xc0, 0xcb, 0x49, 0x2c, 0x53, 0x3b, 0x0a, 0x4d, 0x14, 0xef, 0x77,
  0xcc, 0x0f, 0x78, 0xab, 0xcc, 0xce, 0xd5, 0x28, 0x7d, 0x84, 0xa1, 0xa2, 0x01, 0x1c, 0xfb, 0x81]

/-- The SHA-256 digests of no bytes and of the bytes 1, 2, 3. -/
def knownDigests (contents : List UInt8) : Block 32 :=
  if contents = [1, 2, 3] then digestNotes else digestEmpty

/-- The working directory has one directory, which is empty. -/
def freshDirectory (name : List Char) : List Component → Bool
  | [] => true
  | first :: rest => first == .normal name && rest.all (· == .parentDir)

def willing (name : List Char) : Outside := ⟨fun _ => none, fun _ => true, freshDirectory name⟩

theorem willing_quiet (name : List Char) (number : Nat) : (willing name).faults number = none :=
  rfl

def honestOffer : FileOffer := ⟨"notes.txt", 3, hexText digestNotes.bytes⟩

def honestLibrary : Library := ⟨knownDigests, readsOnly honestOffer⟩

def honestStream : List UInt8 :=
  (sentFrames honestLibrary (offerJson honestOffer) [[1, 2], [3]]).flatMap Frame.bytes

theorem honest_frames_fit : ∀ frame ∈ sentFrames honestLibrary (offerJson honestOffer) [[1, 2], [3]],
    frame.payload.length ≤ maxFramePayload := by decide

theorem received_as_offered_notes :
    ∃ result after,
      receiveFile honestLibrary (willing ['d']) ['d'] "closed" honestStream Receiver.new =
        (.ok result, after) ∧
      Faithful honestLibrary honestOffer (chunkFrames 0 [[1, 2], [3]]) after.ops := by
  obtain ⟨result, after, returned⟩ := receive_sent (willing_quiet ['d']) rfl
    (reads_json honestOffer) ['d'] (by decide) (by decide) "closed" honest_frames_fit Receiver.new
  refine ⟨result, after, returned, ?_⟩
  have same := received_as_offered_iff honestLibrary (willing ['d']) ['d'] "closed" honestStream
    (incoming_written "closed" honest_frames_fit) (reads_json honestOffer) returned
  exact same.2.mpr (sent_agrees rfl rfl)

theorem two_pieces_put : ∃ result after,
    receiveFile honestLibrary (willing ['d']) ['d'] "closed" honestStream Receiver.new =
      (.ok result, after) ∧ written after.ops = [[1, 2], [3]] := by
  obtain ⟨result, after, returned, ops⟩ := sent_file_put (willing_quiet ['d']) rfl
    (reads_json honestOffer) ['d'] (by decide) (by decide) "closed" honest_frames_fit
  exact ⟨result, after, returned, by rw [ops]; rfl⟩

def forgedOffer : FileOffer := ⟨"notes.txt", 5, ""⟩

def forgedStream (library : Library) : List UInt8 :=
  (sentFrames library (offerJson forgedOffer) []).flatMap Frame.bytes

/-- Whatever the digests are, the transfer returns and nothing of the five bytes is written. -/
theorem forged_offer_received :
    ¬ ∃ sha256 : List UInt8 → Block 32,
      let library : Library := ⟨sha256, readsOnly forgedOffer⟩
      ∀ result after,
        receiveFile library (willing ['d']) ['d'] "closed" (forgedStream library) Receiver.new =
          (.ok result, after) →
        Faithful library forgedOffer [] after.ops := by
  intro claimed
  obtain ⟨sha256, faithful⟩ := claimed
  let library : Library := ⟨sha256, readsOnly forgedOffer⟩
  have parsed : library.parseOffer (offerJson forgedOffer) = .ok forgedOffer := reads_json forgedOffer
  have fit : ∀ frame ∈ sentFrames library (offerJson forgedOffer) [],
      frame.payload.length ≤ maxFramePayload := closed_frames_fit library (by decide)
  obtain ⟨result, after, returned⟩ := receive_sent (willing_quiet ['d']) rfl parsed ['d']
    (by decide) (by decide) "closed" fit Receiver.new
  have size := (faithful result after returned).size
  rw [receiveFile, incoming_written "closed" fit] at returned
  rw [(receive_offered_ok (receive_frames_ok parsed returned).2).1] at size
  cases size

end

end Stitch.Transport.FileIntegrity
