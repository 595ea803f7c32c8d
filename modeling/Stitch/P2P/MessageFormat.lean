import Stitch.P2P.NodeState

/-!
# Session messages on the wire

Transcription of `protocol.rs`. Writing succeeds with the bytes handed to the writer or fails: with
an error, or by a failed `expect`. Reading works on the bytes the stream will still deliver.
-/

namespace Stitch.P2P.MessageFormat

open Foundation.FiniteMap Foundation.ByteLayout HybridClock WireFormat ReplicationLog
open NodeState

def msgHello : UInt8 := 0

def msgDelta : UInt8 := 1

def maxMessageLen : Nat := 64 * 1024 * 1024

inductive IoErrorKind where
  | unexpectedEof
  | other
  deriving DecidableEq

inductive ProtocolError where
  | io (kind : IoErrorKind)
  | wire (error : WireError)
  | badType (kind : UInt8)
  | tooLarge (len : Nat)
  | truncated (need available : Nat)
  deriving DecidableEq

inductive WriteFailure where
  | returned (error : ProtocolError)
  | expectFailed (message : String)
  deriving DecidableEq

inductive SyncMessage where
  | hello (sender : PeerId) (cursors : Cursors)
  | delta (frames : List WriteFrame)
  deriving DecidableEq

def encodeHello (order : List PeerId) (sender : PeerId) (cursors : Cursors) :
    Except WriteFailure (List UInt8) :=
  let count := cursors.keys.card
  if 256 ^ 4 ≤ count then .error (.expectFailed "cursor count exceeds u32")
  else
    .ok (sender.bytes ++ (beBytes 4 count ++
      order.flatMap fun peer => peer.bytes ++ beBytes 8 (getOr cursors peer 0)))

def entryLen : Nat := peerIdLen + 8

/-- The loop of `decode_hello`, reading `count` entries from `off` on. -/
def decodeEntries (payload : List UInt8) : (count off : Nat) →
    off + count * entryLen ≤ payload.length → Cursors → Cursors
  | 0, _, _, cursors => cursors
  | count + 1, off, room, cursors =>
    have entry : off + entryLen + count * entryLen ≤ payload.length := by
      rw [Nat.add_one_mul] at room
      omega
    let peer : PeerId := ⟨slice payload off (off + peerIdLen), by
      rw [slice_length]
      · omega
      · simp only [entryLen] at entry
        omega⟩
    let cursor := beValue (slice payload (off + peerIdLen) (off + peerIdLen + 8))
    decodeEntries payload count (off + entryLen) entry (cursors.insert peer cursor)

def decodeHello (payload : List UInt8) : Except ProtocolError (PeerId × Cursors) :=
  let header := peerIdLen + 4
  if short : payload.length < header then .error (.truncated header payload.length)
  else
    let sender : PeerId := ⟨slice payload 0 peerIdLen, by
      rw [slice_length]
      · rfl
      · omega⟩
    let count := beValue (slice payload peerIdLen header)
    let need := header + count * entryLen
    if missing : payload.length < need then .error (.truncated need payload.length)
    else .ok (sender, decodeEntries payload count header (Nat.le_of_not_lt missing) ∅)

def encodeFrames : List WriteFrame → Except WriteFailure (List UInt8)
  | [] => .ok []
  | frame :: frames =>
    match frame.encode with
    | .error error => .error (.returned (.wire error))
    | .ok bytes =>
      if 256 ^ 4 ≤ bytes.length then .error (.expectFailed "frame exceeds u32")
      else
        match encodeFrames frames with
        | .error failure => .error failure
        | .ok payload => .ok (beBytes 4 bytes.length ++ (bytes ++ payload))

def encodeDelta (frames : List WriteFrame) : Except WriteFailure (List UInt8) :=
  if 256 ^ 4 ≤ frames.length then .error (.expectFailed "frame count exceeds u32")
  else
    match encodeFrames frames with
    | .error failure => .error failure
    | .ok payload => .ok (beBytes 4 frames.length ++ payload)

/-- The loop of `decode_delta`, reading `count` frames from `off` on. -/
def decodeFrames (payload : List UInt8) : (count off : Nat) →
    Except ProtocolError (List WriteFrame)
  | 0, _ => .ok []
  | count + 1, off =>
    if payload.length < off + 4 then .error (.truncated (off + 4) payload.length)
    else
      let len := beValue (slice payload off (off + 4))
      let start := off + 4
      if payload.length < start + len then .error (.truncated (start + len) payload.length)
      else
        match WriteFrame.decode (slice payload start (start + len)) with
        | .error error => .error (.wire error)
        | .ok frame =>
          match decodeFrames payload count (start + len) with
          | .error error => .error error
          | .ok frames => .ok (frame :: frames)

def decodeDelta (payload : List UInt8) : Except ProtocolError (List WriteFrame) :=
  if payload.length < 4 then .error (.truncated 4 payload.length)
  else decodeFrames payload (beValue (slice payload 0 4)) 4

def encodePayload (order : List PeerId) : SyncMessage → UInt8 × Except WriteFailure (List UInt8)
  | .hello sender cursors => (msgHello, encodeHello order sender cursors)
  | .delta frames => (msgDelta, encodeDelta frames)

/-- `order` is the order in which the cursor map of a `Hello` is visited. -/
def writeMessage (order : List PeerId) (message : SyncMessage) :
    Except WriteFailure (List UInt8) :=
  match encodePayload order message with
  | (_, .error failure) => .error failure
  | (kind, .ok payload) =>
    if 256 ^ 4 ≤ payload.length then .error (.returned (.tooLarge payload.length))
    else .ok (kind :: (beBytes 4 payload.length ++ payload))

/-- `read_exact` of `count` bytes: the bytes and what the stream has left. -/
def readExact (count : Nat) (stream : List UInt8) :
    Except ProtocolError (List UInt8 × List UInt8) :=
  if stream.length < count then .error (.io .unexpectedEof)
  else .ok (stream.take count, stream.drop count)

def decodePayload (kind : UInt8) (payload : List UInt8) : Except ProtocolError SyncMessage :=
  if kind = msgHello then
    match decodeHello payload with
    | .error error => .error error
    | .ok (sender, cursors) => .ok (.hello sender cursors)
  else if kind = msgDelta then
    match decodeDelta payload with
    | .error error => .error error
    | .ok frames => .ok (.delta frames)
  else .error (.badType kind)

def readMessage (stream : List UInt8) : Except ProtocolError (SyncMessage × List UInt8) :=
  match readExact 1 stream with
  | .error error => .error error
  | .ok (kind, afterKind) =>
    match readExact 4 afterKind with
    | .error error => .error error
    | .ok (lenBytes, afterLen) =>
      let len := beValue lenBytes
      if maxMessageLen < len then .error (.tooLarge len)
      else
        match readExact len afterLen with
        | .error error => .error error
        | .ok (payload, rest) =>
          match decodePayload (kind.getD 0 0) payload with
          | .error error => .error error
          | .ok message => .ok (message, rest)

/-- Repeated `read_message`: that many messages and what the stream has left. -/
def readMessages : Nat → List UInt8 → Except ProtocolError (List SyncMessage × List UInt8)
  | 0, stream => .ok ([], stream)
  | count + 1, stream =>
    match readMessage stream with
    | .error error => .error error
    | .ok (message, rest) =>
      match readMessages count rest with
      | .error error => .error error
      | .ok (messages, left) => .ok (message :: messages, left)

/-- The ranges of the `u64` and `u32` values in a message. -/
def SyncMessage.FitsWidths : SyncMessage → Prop
  | .hello _ cursors => ∀ peer, getOr cursors peer 0 < 256 ^ 8
  | .delta frames => ∀ frame ∈ frames, frame.FitsWidths

/-- The number of payload bytes a message takes, from its contents alone. -/
def SyncMessage.payloadLen : SyncMessage → Nat
  | .hello _ cursors => peerIdLen + 4 + cursors.keys.card * entryLen
  | .delta frames => 4 + (frames.map fun frame => 4 + frame.encodedLen).sum

section

variable {cursors : Cursors} {payload : List UInt8}

theorem entry_length (peer : PeerId) :
    (peer.bytes ++ beBytes 8 (getOr cursors peer 0)).length = entryLen := by
  rw [List.length_append, be_bytes_length, peer.size]
  rfl

theorem entries_length (order : List PeerId) :
    (order.flatMap fun peer => peer.bytes ++ beBytes 8 (getOr cursors peer 0)).length =
      order.length * entryLen := by
  induction order with
  | nil => simp
  | cons peer order ih =>
    rw [List.flatMap_cons, List.length_append, entry_length, ih, List.length_cons,
      Nat.add_one_mul, Nat.add_comm]

theorem decode_entries_encoded (fits : ∀ peer, getOr cursors peer 0 < 256 ^ 8)
    (order : List PeerId) (front rest : List UInt8) (start : Cursors)
    (layout : payload = front ++
      ((order.flatMap fun peer => peer.bytes ++ beBytes 8 (getOr cursors peer 0)) ++ rest))
    (room : front.length + order.length * entryLen ≤ payload.length) :
    decodeEntries payload order.length front.length room start =
      order.foldl (fun built peer => built.insert peer (getOr cursors peer 0)) start := by
  induction order generalizing front start with
  | nil => rfl
  | cons peer order ih =>
    have split : payload = front ++ (peer.bytes ++ (beBytes 8 (getOr cursors peer 0) ++
        ((order.flatMap fun peer => peer.bytes ++ beBytes 8 (getOr cursors peer 0)) ++
          rest))) := by
      rw [layout]
      simp only [List.flatMap_cons, List.append_assoc]
    have peerBytes : slice payload front.length (front.length + peerIdLen) = peer.bytes := by
      rw [split]
      exact slice_middle rfl (by rw [peer.size])
    have cursorBytes : slice payload (front.length + peerIdLen)
        (front.length + peerIdLen + 8) = beBytes 8 (getOr cursors peer 0) := by
      rw [split, ← List.append_assoc]
      apply slice_middle
      · rw [List.length_append, peer.size]
      · rw [be_bytes_length]
    have passed : (front ++ (peer.bytes ++ beBytes 8 (getOr cursors peer 0))).length =
        front.length + entryLen := by
      rw [List.length_append, entry_length]
    simp only [List.length_cons, decodeEntries, peerBytes, cursorBytes, List.foldl_cons,
      be_value_be_bytes_of_lt (fits peer)]
    have later := ih (front ++ (peer.bytes ++ beBytes 8 (getOr cursors peer 0)))
      (start.insert peer (getOr cursors peer 0))
      (by rw [split]; simp only [List.append_assoc])
      (by
        rw [List.length_cons, Nat.add_one_mul] at room
        omega)
    simp only [passed] at later
    exact later

variable {order : List PeerId} {sender : PeerId}

theorem encode_hello_ok (encoded : encodeHello order sender cursors = .ok payload) :
    cursors.keys.card < 256 ^ 4 ∧
      payload = sender.bytes ++ (beBytes 4 cursors.keys.card ++
        order.flatMap fun peer => peer.bytes ++ beBytes 8 (getOr cursors peer 0)) := by
  simp only [encodeHello] at encoded
  split at encoded
  · cases encoded
  · rename_i small
    exact ⟨Nat.lt_of_not_le small, (Except.ok.inj encoded).symm⟩

theorem encode_hello_length (visits : Visits order cursors)
    (encoded : encodeHello order sender cursors = .ok payload) :
    payload.length = (SyncMessage.hello sender cursors).payloadLen := by
  rw [(encode_hello_ok encoded).2]
  simp only [List.length_append, be_bytes_length, entries_length, sender.size,
    visits_length visits, SyncMessage.payloadLen]
  omega

theorem decode_hello_encoded (fits : (SyncMessage.hello sender cursors).FitsWidths)
    (visits : Visits order cursors) (encoded : encodeHello order sender cursors = .ok payload) :
    decodeHello payload = .ok (sender, cursors) := by
  have length := encode_hello_length visits encoded
  obtain ⟨small, layout⟩ := encode_hello_ok encoded
  simp only [SyncMessage.payloadLen] at length
  have senderBytes : slice payload 0 peerIdLen = sender.bytes := by
    rw [layout]
    exact slice_append_left sender.size
  have countBytes : slice payload peerIdLen (peerIdLen + 4) = beBytes 4 cursors.keys.card := by
    rw [layout]
    exact slice_middle sender.size (by rw [be_bytes_length])
  have header : ¬payload.length < peerIdLen + 4 := by omega
  have room : ¬payload.length < peerIdLen + 4 + cursors.keys.card * entryLen := by omega
  have passed : (sender.bytes ++ beBytes 4 cursors.keys.card).length = peerIdLen + 4 := by
    rw [List.length_append, sender.size, be_bytes_length]
  have afterHeader : payload = (sender.bytes ++ beBytes 4 cursors.keys.card) ++
      ((order.flatMap fun peer => peer.bytes ++ beBytes 8 (getOr cursors peer 0)) ++ []) := by
    rw [layout]
    simp only [List.append_assoc, List.append_nil]
  have entries := decode_entries_encoded fits order _ [] ∅ afterHeader
    (by rw [passed, visits_length visits, length])
  simp only [passed, visits_length visits, foldl_insert_visits visits] at entries
  simp only [decodeHello, dif_neg header, senderBytes, countBytes,
    be_value_be_bytes_of_lt small, dif_neg room, entries]

variable {frames : List WriteFrame}

theorem encode_frames_cons {frame : WriteFrame}
    (encoded : encodeFrames (frame :: frames) = .ok payload) :
    ∃ bytes more, frame.encode = .ok bytes ∧ bytes.length < 256 ^ 4 ∧
      encodeFrames frames = .ok more ∧
      payload = beBytes 4 bytes.length ++ (bytes ++ more) := by
  unfold encodeFrames at encoded
  cases written : frame.encode with
  | error error => simp [written] at encoded
  | ok bytes =>
    simp only [written] at encoded
    split at encoded
    · cases encoded
    · rename_i small
      cases later : encodeFrames frames with
      | error failure => simp [later] at encoded
      | ok more =>
        simp only [later, Except.ok.injEq] at encoded
        exact ⟨bytes, more, rfl, Nat.lt_of_not_le small, rfl, encoded.symm⟩

theorem encode_frames_length (encoded : encodeFrames frames = .ok payload) :
    payload.length = (frames.map fun frame => 4 + frame.encodedLen).sum := by
  induction frames generalizing payload with
  | nil =>
    cases encoded
    rfl
  | cons frame frames ih =>
    obtain ⟨bytes, more, written, -, later, layout⟩ := encode_frames_cons encoded
    have width : bytes.length = frame.encodedLen := by
      rw [(encode_ok written).2, fields_length]
    rw [layout, List.length_append, List.length_append, be_bytes_length, width, ih later,
      List.map_cons, List.sum_cons, Nat.add_assoc]

theorem decode_frames_encoded {bytes : List UInt8} (fits : ∀ frame ∈ frames, frame.FitsWidths)
    (encoded : encodeFrames frames = .ok bytes) (front : List UInt8)
    (layout : payload = front ++ bytes) :
    decodeFrames payload frames.length front.length = .ok frames := by
  induction frames generalizing front bytes with
  | nil => rfl
  | cons frame frames ih =>
    obtain ⟨block, more, written, small, later, blocks⟩ := encode_frames_cons encoded
    subst blocks
    have lenBytes : slice payload front.length (front.length + 4) =
        beBytes 4 block.length := by
      rw [layout]
      exact slice_middle rfl (by rw [be_bytes_length])
    have blockBytes : slice payload (front.length + 4) (front.length + 4 + block.length) =
        block := by
      rw [layout, ← List.append_assoc]
      apply slice_middle
      · rw [List.length_append, be_bytes_length]
      · rfl
    have total : payload.length = front.length + (4 + (block.length + more.length)) := by
      rw [layout, List.length_append, List.length_append, List.length_append,
        be_bytes_length]
    have lenRoom : ¬payload.length < front.length + 4 := by omega
    have blockRoom : ¬payload.length < front.length + 4 + block.length := by omega
    have decoded : WriteFrame.decode block = .ok frame := by
      have exact := decode_encode_append (fits frame List.mem_cons_self) written []
      rwa [List.append_nil] at exact
    have passed : (front ++ (beBytes 4 block.length ++ block)).length =
        front.length + 4 + block.length := by
      simp only [List.length_append, be_bytes_length, Nat.add_assoc]
    have rest := ih (fun other member => fits other (List.mem_cons_of_mem _ member)) later
      (front ++ (beBytes 4 block.length ++ block))
      (by rw [layout]; simp only [List.append_assoc])
    rw [passed] at rest
    simp only [List.length_cons, decodeFrames, if_neg lenRoom, lenBytes,
      be_value_be_bytes_of_lt small, if_neg blockRoom, blockBytes, decoded, rest]

theorem encode_delta_ok (encoded : encodeDelta frames = .ok payload) :
    frames.length < 256 ^ 4 ∧ ∃ bytes, encodeFrames frames = .ok bytes ∧
      payload = beBytes 4 frames.length ++ bytes := by
  unfold encodeDelta at encoded
  split at encoded
  · cases encoded
  · rename_i small
    cases written : encodeFrames frames with
    | error failure => simp [written] at encoded
    | ok bytes =>
      simp only [written, Except.ok.injEq] at encoded
      exact ⟨Nat.lt_of_not_le small, bytes, rfl, encoded.symm⟩

theorem encode_delta_length (encoded : encodeDelta frames = .ok payload) :
    payload.length = (SyncMessage.delta frames).payloadLen := by
  obtain ⟨-, bytes, written, layout⟩ := encode_delta_ok encoded
  rw [layout, List.length_append, be_bytes_length, encode_frames_length written]
  rfl

theorem decode_delta_encoded (fits : (SyncMessage.delta frames).FitsWidths)
    (encoded : encodeDelta frames = .ok payload) : decodeDelta payload = .ok frames := by
  obtain ⟨small, bytes, written, layout⟩ := encode_delta_ok encoded
  have count : slice payload 0 4 = beBytes 4 frames.length := by
    rw [layout]
    exact slice_append_left (be_bytes_length _ _)
  have room : ¬payload.length < 4 := by
    rw [layout, List.length_append, be_bytes_length]
    omega
  have decoded := decode_frames_encoded fits written _ layout
  rw [be_bytes_length] at decoded
  rw [decodeDelta, if_neg room, count, be_value_be_bytes_of_lt small, decoded]

end

def SyncMessage.VisitedBy (order : List PeerId) : SyncMessage → Prop
  | .hello _ cursors => Visits order cursors
  | .delta _ => True

/-- `write_message` accepts a message and hands these bytes to the writer. -/
def Writes (message : SyncMessage) (bytes : List UInt8) : Prop :=
  message.FitsWidths ∧ ∃ order, message.VisitedBy order ∧ writeMessage order message = .ok bytes

variable {message : SyncMessage} {bytes data : List UInt8}

/-- A written message is its type byte, the payload length and a payload that
decodes to the message. -/
theorem writes_layout (written : Writes message bytes) :
    ∃ kind payload, bytes = kind :: (beBytes 4 payload.length ++ payload) ∧
      payload.length = message.payloadLen ∧ payload.length < 256 ^ 4 ∧
      decodePayload kind payload = .ok message := by
  obtain ⟨fits, order, visited, accepted⟩ := written
  unfold writeMessage at accepted
  cases message with
  | hello sender cursors =>
    simp only [encodePayload] at accepted
    cases encoded : encodeHello order sender cursors with
    | error failure => simp [encoded] at accepted
    | ok payload =>
      simp only [encoded] at accepted
      split at accepted
      · cases accepted
      · rename_i small
        refine ⟨msgHello, payload, (Except.ok.inj accepted).symm,
          encode_hello_length visited encoded, Nat.lt_of_not_le small, ?_⟩
        rw [decodePayload, if_pos rfl, decode_hello_encoded fits visited encoded]
  | delta frames =>
    simp only [encodePayload] at accepted
    cases encoded : encodeDelta frames with
    | error failure => simp [encoded] at accepted
    | ok payload =>
      simp only [encoded] at accepted
      split at accepted
      · cases accepted
      · rename_i small
        refine ⟨msgDelta, payload, (Except.ok.inj accepted).symm,
          encode_delta_length encoded, Nat.lt_of_not_le small, ?_⟩
        rw [decodePayload, if_neg (by decide), if_pos rfl, decode_delta_encoded fits encoded]

theorem read_exact_append (block rest : List UInt8) :
    readExact block.length (block ++ rest) = .ok (block, rest) := by
  have room : ¬(block ++ rest).length < block.length := by
    rw [List.length_append]
    omega
  rw [readExact, if_neg room, List.take_left, List.drop_left]

theorem read_message_header (kind : UInt8) {lenBytes : List UInt8}
    (width : lenBytes.length = 4) (rest : List UInt8) :
    readMessage (kind :: (lenBytes ++ rest)) =
      if maxMessageLen < beValue lenBytes then .error (.tooLarge (beValue lenBytes))
      else
        match readExact (beValue lenBytes) rest with
        | .error error => .error error
        | .ok (payload, left) =>
          match decodePayload kind payload with
          | .error error => .error error
          | .ok message => .ok (message, left) := by
  have kindRead : readExact 1 (kind :: (lenBytes ++ rest)) = .ok ([kind], lenBytes ++ rest) :=
    read_exact_append [kind] _
  have lenRead := read_exact_append lenBytes rest
  rw [width] at lenRead
  simp only [readMessage, kindRead, lenRead]
  rfl

theorem read_message_framed (kind : UInt8) {payload : List UInt8}
    (small : payload.length < 256 ^ 4) (rest : List UInt8) :
    readMessage (kind :: (beBytes 4 payload.length ++ payload) ++ rest) =
      if maxMessageLen < payload.length then .error (.tooLarge payload.length)
      else
        match decodePayload kind payload with
        | .error error => .error error
        | .ok message => .ok (message, rest) := by
  rw [List.cons_append, List.append_assoc, read_message_header kind (be_bytes_length _ _),
    be_value_be_bytes_of_lt small, read_exact_append]

theorem read_message_written (written : Writes message bytes) (rest : List UInt8) :
    readMessage (bytes ++ rest) =
      if maxMessageLen < message.payloadLen then .error (.tooLarge message.payloadLen)
      else .ok (message, rest) := by
  obtain ⟨kind, payload, layout, length, small, decoded⟩ := writes_layout written
  rw [layout, read_message_framed kind small, decoded, length]

theorem read_messages_cons (written : Writes message bytes) (messages : List SyncMessage)
    (rest left : List UInt8) :
    readMessages (messages.length + 1) (bytes ++ rest) = .ok (message :: messages, left) ↔
      message.payloadLen ≤ maxMessageLen ∧
        readMessages messages.length rest = .ok (messages, left) := by
  rw [readMessages, read_message_written written]
  by_cases large : maxMessageLen < message.payloadLen
  · simp [large, Nat.not_le_of_lt large]
  · simp only [if_neg large, Nat.le_of_not_lt large, true_and]
    cases later : readMessages messages.length rest with
    | error error => simp
    | ok result => simp [Prod.ext_iff]

/-- The messages written to a stream are read back, all of them and with no byte
left, exactly when each of them fits the reader's limit. -/
theorem read_messages_written_iff {messages : List SyncMessage} {blocks : List (List UInt8)}
    (written : List.Forall₂ Writes messages blocks) :
    readMessages messages.length blocks.flatten = .ok (messages, []) ↔
      ∀ message ∈ messages, message.payloadLen ≤ maxMessageLen := by
  induction written with
  | nil => simp [readMessages]
  | cons first later ih =>
    rw [List.flatten_cons, List.length_cons, read_messages_cons first, ih,
      List.forall_mem_cons]

def firstWrite (data : List UInt8) : WriteFrame where
  stamp := ⟨⟨1, 0⟩, peerNumber 1⟩
  seq := 1
  op := .insert
  entity := "task"
  id := "t1"
  data := data
  signature := none

theorem first_write_fits (data : List UInt8) : (firstWrite data).FitsWidths := by
  constructor <;> simp [firstWrite]

theorem hello_and_delta_read_back :
    ∃ blocks,
      List.Forall₂ Writes [.hello (peerNumber 1) ∅, .delta [firstWrite [7]]] blocks ∧
        readMessages 2 blocks.flatten =
          .ok ([.hello (peerNumber 1) ∅, .delta [firstWrite [7]]], []) := by
  have hello : Writes (.hello (peerNumber 1) ∅)
      (msgHello :: (beBytes 4 36 ++ ((peerNumber 1).bytes ++ beBytes 4 0))) :=
    ⟨by simp [SyncMessage.FitsWidths], [], visits_empty, rfl⟩
  have delta : Writes (.delta [firstWrite [7]])
      (msgDelta :: (beBytes 4 76 ++ (beBytes 4 1 ++ (beBytes 4 68 ++
        (firstWrite [7]).fields.flatten)))) :=
    ⟨by simp [SyncMessage.FitsWidths, first_write_fits], [], trivial, rfl⟩
  have written := List.Forall₂.cons hello (List.Forall₂.cons delta .nil)
  exact ⟨_, written, (read_messages_written_iff written).mpr (by decide)⟩

theorem first_write_encodes (small : data.length < 256 ^ 4) :
    checkLengths "task" "t1" data = .ok () := by
  have entity : ¬256 ^ 1 ≤ (utf8Bytes "task").length := by decide
  have id : ¬256 ^ 1 ≤ (utf8Bytes "t1").length := by decide
  rw [checkLengths, if_neg entity, if_neg id, if_neg (Nat.not_le_of_lt small)]

theorem first_write_encoded_len (data : List UInt8) :
    (firstWrite data).encodedLen = 67 + data.length := by
  have entity : (utf8Bytes "task").length = 4 := by decide
  have id : (utf8Bytes "t1").length = 2 := by decide
  simp only [WriteFrame.encodedLen, firstWrite, entity, id, headerLen, Option.isSome_none,
    Bool.false_eq_true, if_false]
  omega

theorem first_write_delta_written (small : data.length + 75 < 256 ^ 4) :
    ∃ block, Writes (.delta [firstWrite data]) block := by
  have dataFits : data.length < 256 ^ 4 := by omega
  have encoded : (firstWrite data).encode = .ok (firstWrite data).fields.flatten :=
    encode_of_check_lengths (first_write_encodes dataFits)
  have width : (firstWrite data).fields.flatten.length = 67 + data.length := by
    rw [fields_length, first_write_encoded_len]
  have frameFits : ¬256 ^ 4 ≤ (firstWrite data).fields.flatten.length := by omega
  have delta : encodeDelta [firstWrite data] =
      .ok (beBytes 4 1 ++ (beBytes 4 (67 + data.length) ++
        ((firstWrite data).fields.flatten ++ []))) := by
    have one : ¬256 ^ 4 ≤ [firstWrite data].length := by simp
    rw [encodeDelta, if_neg one]
    simp only [encodeFrames, encoded, if_neg frameFits]
    rw [width]
    rfl
  have payloadFits : ¬256 ^ 4 ≤ (beBytes 4 1 ++ (beBytes 4 (67 + data.length) ++
      ((firstWrite data).fields.flatten ++ []))).length := by
    simp only [List.length_append, be_bytes_length, width, List.length_nil]
    omega
  have accepted : ∃ block, writeMessage [] (.delta [firstWrite data]) = .ok block := by
    rw [writeMessage, encodePayload, delta]
    exact ⟨_, if_neg payloadFits⟩
  obtain ⟨block, written⟩ := accepted
  exact ⟨block, by simp [SyncMessage.FitsWidths, first_write_fits], [], trivial, written⟩

def firstState (data : List UInt8) : SyncState :=
  ((SyncState.new (peerNumber 1)).localWrite true 1 .insert "task" "t1" data).1

theorem first_state_log (small : data.length < 256 ^ 4) :
    (firstState data).log = ((ReplLog.new (peerNumber 1)).record (firstWrite data)).1 := by
  simp only [firstState, SyncState.localWrite, first_write_encodes small]
  rfl

theorem first_state_serves (small : data.length < 256 ^ 4) :
    (firstState data).deltaSince [peerNumber 1] ∅ = [firstWrite data] := by
  have stored : (firstState data).log.stored (peerNumber 1) = [firstWrite data] := by
    rw [first_state_log small, record_stored_appended _ _ rfl]
    rfl
  simp [SyncState.deltaSince, ReplLog.deltaSince, ReplLog.missingFrom, stored]

theorem large_write_payload (size : data.length = maxMessageLen) :
    (SyncMessage.delta [firstWrite data]).payloadLen = maxMessageLen + 75 := by
  simp only [SyncMessage.payloadLen, List.map_cons, List.map_nil, List.sum_cons,
    List.sum_nil, first_write_encoded_len, size]
  omega

theorem large_write_fits (size : data.length = maxMessageLen) :
    data.length + 75 < 256 ^ 4 := by
  rw [size]
  unfold maxMessageLen
  omega

theorem large_write_not_read_back (size : data.length = maxMessageLen) :
    ∃ block, Writes (.delta ((firstState data).deltaSince [peerNumber 1] ∅)) block ∧
      readMessages 1 block ≠
        .ok ([.delta ((firstState data).deltaSince [peerNumber 1] ∅)], []) := by
  have small := large_write_fits size
  obtain ⟨block, accepted⟩ := first_write_delta_written small
  rw [first_state_serves (by omega)]
  refine ⟨block, accepted, ?_⟩
  intro readBack
  have read := read_messages_cons accepted [] [] []
  rw [List.append_nil, List.length_nil, large_write_payload size] at read
  have inside := (read.mp readBack).1
  omega

/-- A node writes a record of 64 MiB and serves it to a peer that has nothing.
`write_message` accepts the `Delta`; `read_message` refuses it. -/
theorem large_delta_not_read_back :
    ∃ block,
      Writes (.delta ((firstState (List.replicate maxMessageLen 0)).deltaSince
        [peerNumber 1] ∅)) block ∧
      readMessages 1 block ≠
        .ok ([.delta ((firstState (List.replicate maxMessageLen 0)).deltaSince
          [peerNumber 1] ∅)], []) :=
  large_write_not_read_back List.length_replicate

end Stitch.P2P.MessageFormat
