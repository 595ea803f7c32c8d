import Stitch.P2P.WireFormat

/-!
# What the frame codec guarantees

`decode` reads back every frame that `encode` writes, and whatever `decode` accepts starts with
the encoding of the frame it returns. `decodeIndexed` is `decode` with each index, slice and
addition as a step that may stop the program; it never does.
-/

namespace Stitch.P2P.FrameCodec

open Foundation.ByteLayout HybridClock LastWriterWins WireFormat

section

variable {buf : List UInt8} {frame : WriteFrame}

def entityEnd (frame : WriteFrame) : Nat := headerLen + (utf8Bytes frame.entity).length

def idEnd (frame : WriteFrame) : Nat := entityEnd frame + (utf8Bytes frame.id).length

def dataEnd (frame : WriteFrame) : Nat := idEnd frame + frame.data.length

/-- Every field of the frame stands in the buffer where the format puts it. -/
structure StandsIn (frame : WriteFrame) (buf : List UInt8) : Prop where
  version : slice buf 0 1 = [wireVersion]
  op : slice buf 1 2 = [opToU8 frame.op]
  physical : slice buf 2 10 = beBytes 8 frame.stamp.hlc.physical
  logical : slice buf 10 14 = beBytes 4 frame.stamp.hlc.logical
  peer : slice buf 14 46 = frame.stamp.peer.bytes
  seq : slice buf 46 54 = beBytes 8 frame.seq
  entityLen : slice buf 54 55 = [UInt8.ofNat (utf8Bytes frame.entity).length]
  idLen : slice buf 55 56 = [UInt8.ofNat (utf8Bytes frame.id).length]
  dataLen : slice buf 56 60 = beBytes 4 frame.data.length
  entity : slice buf headerLen (entityEnd frame) = utf8Bytes frame.entity
  id : slice buf (entityEnd frame) (idEnd frame) = utf8Bytes frame.id
  data : slice buf (idEnd frame) (dataEnd frame) = frame.data
  trailer : slice buf (dataEnd frame) frame.encodedLen =
    (signatureFields frame.signature).flatten
  lengths : checkLengths frame.entity frame.id frame.data = .ok ()
  widths : frame.FitsWidths

variable {byte : UInt8}

theorem u8_to_op_ok {op : Op} (read : u8ToOp byte = .ok op) :
    byte = opToU8 op := by
  unfold u8ToOp at read
  split_ifs at read with insert update delete
  · cases read
    exact insert
  · cases read
    exact update
  · cases read
    exact delete

theorem decode_signature_ok {flagAt : Nat} {signature : Option Signature}
    (inside : flagAt < buf.length) (read : decodeSignature buf flagAt = .ok signature) :
    let stop := flagAt + 1 + if signature.isSome then signatureLen else 0
    stop ≤ buf.length ∧ slice buf flagAt stop = (signatureFields signature).flatten := by
  have flag := slice_byte inside
  unfold decodeSignature at read
  dsimp only at read
  split_ifs at read with unsigned signed short
  · cases read
    rw [unsigned] at flag
    exact ⟨inside, flag⟩
  · cases read
    have split : slice buf flagAt (flagAt + 1) ++
        slice buf (flagAt + 1) (flagAt + 1 + signatureLen) =
          slice buf flagAt (flagAt + 1 + signatureLen) :=
      slice_append_slice (by omega) (by omega)
    rw [flag, signed] at split
    refine ⟨Nat.le_of_not_lt short, ?_⟩
    simp [signatureFields, ← split]

theorem check_lengths_of_lt {entity id : String} {data : List UInt8}
    (entityFits : (utf8Bytes entity).length < 256) (idFits : (utf8Bytes id).length < 256)
    (dataFits : data.length < 256 ^ 4) : checkLengths entity id data = .ok () := by
  unfold checkLengths
  rw [if_neg (by omega), if_neg (by omega), if_neg (by omega)]

theorem length_byte {width : Nat} (size : width = byte.toNat) :
    byte = UInt8.ofNat width := by
  apply UInt8.toNat_inj.mp
  rw [size]
  exact (UInt8.toNat_ofNat_of_lt byte.toNat_lt).symm

/-- What an accepted buffer was read as, step by step. -/
theorem decode_ok (decoded : WriteFrame.decode buf = .ok frame) :
    60 ≤ buf.length ∧ buf.getD 0 0 = wireVersion ∧
      u8ToOp (buf.getD 1 0) = .ok frame.op ∧
      frame.stamp.hlc.physical = beValue (slice buf 2 10) ∧
      frame.stamp.hlc.logical = beValue (slice buf 10 14) ∧
      frame.stamp.peer.bytes = slice buf 14 46 ∧
      frame.seq = beValue (slice buf 46 54) ∧
      ∃ entityEnd idEnd dataEnd,
        entityEnd = 60 + (buf.getD 54 0).toNat ∧
        idEnd = entityEnd + (buf.getD 55 0).toNat ∧
        dataEnd = idEnd + beValue (slice buf 56 60) ∧
        dataEnd < buf.length ∧
        fromUtf8 (slice buf 60 entityEnd) = some frame.entity ∧
        fromUtf8 (slice buf entityEnd idEnd) = some frame.id ∧
        frame.data = slice buf idEnd dataEnd ∧
        decodeSignature buf dataEnd = .ok frame.signature := by
  unfold WriteFrame.decode at decoded
  split at decoded
  · cases decoded
  dsimp only at decoded
  iterate 6
    split at decoded
    · cases decoded
  rename_i header version _ op opRead room _ entity entityRead _ id idRead _ signature sigRead
  cases decoded
  refine ⟨Nat.le_of_not_lt header, not_not.mp version, opRead, rfl, rfl, rfl, rfl,
    _, _, _, rfl, rfl, rfl, ?_, entityRead, idRead, rfl, sigRead⟩
  exact Nat.lt_of_succ_le (Nat.le_of_not_lt room)

theorem decode_stands_in (decoded : WriteFrame.decode buf = .ok frame) :
    StandsIn frame buf ∧ frame.encodedLen ≤ buf.length := by
  obtain ⟨header, version, op, physical, logical, peer, seq, entityStop, idStop, dataStop,
    entityAt, idAt, dataAt, room, entity, id, data, signature⟩ := decode_ok decoded
  have number (start stop width : Nat) (size : stop - start = width) (low : stop ≤ 60) :
      beBytes width (beValue (slice buf start stop)) = slice buf start stop :=
    be_bytes_be_value ((slice_length (low.trans header)).trans size)
  have below (start stop width : Nat) (size : stop - start = width) (low : stop ≤ 60) :
      beValue (slice buf start stop) < 256 ^ width := by
    have bound := be_value_lt_pow (slice buf start stop)
    rwa [slice_length (low.trans header), size] at bound
  have entityBytes := utf8_bytes_from_utf8 entity
  have idBytes := utf8_bytes_from_utf8 id
  have entityWidth : (utf8Bytes frame.entity).length = (buf.getD 54 0).toNat := by
    rw [entityBytes, slice_length (by omega)]
    omega
  have idWidth : (utf8Bytes frame.id).length = (buf.getD 55 0).toNat := by
    rw [idBytes, slice_length (by omega)]
    omega
  have dataWidth : frame.data.length = beValue (slice buf 56 60) := by
    rw [data, slice_length (by omega)]
    omega
  have entityHere : entityEnd frame = entityStop := by
    rw [entityEnd, entityWidth, entityAt, headerLen]
  have idHere : idEnd frame = idStop := by rw [idEnd, entityHere, idWidth, idAt]
  have dataHere : dataEnd frame = dataStop := by rw [dataEnd, idHere, dataWidth, dataAt]
  obtain ⟨whole, trailer⟩ := decode_signature_ok room signature
  have size : frame.encodedLen =
      dataStop + 1 + if frame.signature.isSome then signatureLen else 0 := by
    rw [← dataHere]
    rfl
  rw [size]
  refine ⟨?_, whole⟩
  exact {
    version := by rw [slice_byte (by omega), version]
    op := by rw [slice_byte (by omega), u8_to_op_ok op]
    physical := by rw [physical, number 2 10 8 rfl (by omega)]
    logical := by rw [logical, number 10 14 4 rfl (by omega)]
    peer := peer.symm
    seq := by rw [seq, number 46 54 8 rfl (by omega)]
    entityLen := by rw [slice_byte (by omega), length_byte entityWidth]
    idLen := by rw [slice_byte (by omega), length_byte idWidth]
    dataLen := by rw [dataWidth, number 56 60 4 rfl (by omega)]
    entity := by rw [entityHere, entityBytes, headerLen]
    id := by rw [entityHere, idHere, idBytes]
    data := by rw [idHere, dataHere, data]
    trailer := by rw [dataHere, size, trailer]
    lengths := by
      apply check_lengths_of_lt
      · rw [entityWidth]
        exact (buf.getD 54 0).toNat_lt
      · rw [idWidth]
        exact (buf.getD 55 0).toNat_lt
      · rw [dataWidth]
        exact below 56 60 4 rfl (by omega)
    widths := {
      physical := by
        rw [physical]
        exact below 2 10 8 rfl (by omega)
      logical := by
        rw [logical]
        exact below 10 14 4 rfl (by omega)
      seq := by
        rw [seq]
        exact below 46 54 8 rfl (by omega) } }

theorem stands_in_take (stands : StandsIn frame buf) :
    frame.fields.flatten = buf.take frame.encodedLen := by
  have entityAt : 60 ≤ entityEnd frame := Nat.le_add_right _ _
  have idAt : entityEnd frame ≤ idEnd frame := Nat.le_add_right _ _
  have dataAt : idEnd frame ≤ dataEnd frame := Nat.le_add_right _ _
  have whole : dataEnd frame ≤ frame.encodedLen := by
    rw [WriteFrame.encodedLen, dataEnd, idEnd, entityEnd]
    omega
  have texts : utf8Bytes frame.entity ++ (utf8Bytes frame.id ++ (frame.data ++
      (signatureFields frame.signature).flatten)) = slice buf 60 frame.encodedLen := by
    rw [← stands.trailer, ← stands.data, slice_append_slice dataAt whole, ← stands.id,
      slice_append_slice idAt (dataAt.trans whole), ← stands.entity]
    exact slice_append_slice entityAt (idAt.trans (dataAt.trans whole))
  have long : 60 ≤ frame.encodedLen := entityAt.trans (idAt.trans (dataAt.trans whole))
  rw [WriteFrame.fields, List.flatten_append, WriteFrame.signingFields, ← stands.version,
    ← stands.op, ← stands.physical, ← stands.logical, ← stands.peer, ← stands.seq,
    ← stands.entityLen, ← stands.idLen, ← stands.dataLen]
  simp only [List.flatten_cons, List.flatten_nil, List.append_nil, List.append_assoc]
  rw [texts, slice_append_slice (by omega) long, slice_append_slice (by omega) (by omega),
    slice_append_slice (by omega) (by omega), slice_append_slice (by omega) (by omega),
    slice_append_slice (by omega) (by omega), slice_append_slice (by omega) (by omega),
    slice_append_slice (by omega) (by omega), slice_append_slice (by omega) (by omega),
    slice_append_slice (by omega) (by omega), slice_zero]

theorem encode_of_decode (decoded : WriteFrame.decode buf = .ok frame) :
    frame.encode = .ok (buf.take frame.encodedLen) := by
  obtain ⟨stands, -⟩ := decode_stands_in decoded
  rw [encode_of_check_lengths stands.lengths, stands_in_take stands]

end

section

variable {left right : WriteFrame} {bytes : List UInt8}

theorem decode_signing_bytes {frame : WriteFrame} (fits : frame.FitsWidths)
    (signed : frame.signingBytes = .ok bytes) :
    WriteFrame.decode (bytes ++ [0]) = .ok { frame with signature := none } := by
  obtain ⟨lengths, same⟩ := signing_bytes_ok signed
  let unsigned : WriteFrame := { frame with signature := none }
  have unsignedLengths : checkLengths unsigned.entity unsigned.id unsigned.data = .ok () :=
    lengths
  have encoded : unsigned.encode = .ok (bytes ++ [0]) := by
    rw [encode_of_check_lengths unsignedLengths, same, WriteFrame.fields, List.flatten_append]
    rfl
  have widths : unsigned.FitsWidths := ⟨fits.physical, fits.logical, fits.seq⟩
  have decoded := decode_encode_append widths encoded []
  rwa [List.append_nil] at decoded

theorem signing_bytes_determine (leftFits : left.FitsWidths) (rightFits : right.FitsWidths)
    (leftSigned : left.signingBytes = .ok bytes) (rightSigned : right.signingBytes = .ok bytes) :
    { left with signature := none } = { right with signature := none } := by
  have first := decode_signing_bytes leftFits leftSigned
  rw [decode_signing_bytes rightFits rightSigned] at first
  exact (Except.ok.inj first).symm

end

section

/-- `copy_from_slice` into an array of the width of a peer id. -/
def peerIdOf (bytes : List UInt8) : Option PeerId :=
  if size : bytes.length = peerIdLen then some ⟨bytes, size⟩ else none

def signatureOf (bytes : List UInt8) : Option Signature :=
  if size : bytes.length = signatureLen then some ⟨bytes, size⟩ else none

def decodeSignatureIndexed (buf : List UInt8) (dataEnd flagEnd : Nat) :
    Option (Except WireError (Option Signature)) := do
  let flag ← byteAt buf dataEnd
  if flag = 0 then some (.ok none)
  else if flag = 1 then do
    let sigEnd ← addUsize flagEnd signatureLen
    if buf.length < sigEnd then some (.error (.truncated sigEnd buf.length))
    else do
      let bytes ← sliceAt buf flagEnd sigEnd
      let signature ← signatureOf bytes
      some (.ok (some signature))
  else some (.error (.badSignatureFlag flag))

/-- `decode` with every operation that can panic as a step that can fail. -/
def decodeIndexed (buf : List UInt8) : Option (Except WireError WriteFrame) :=
  if buf.length < headerLen then some (.error (.truncated headerLen buf.length))
  else do
    let version ← byteAt buf 0
    if version ≠ wireVersion then some (.error (.badVersion version))
    else do
      let opByte ← byteAt buf 1
      match u8ToOp opByte with
      | .error error => some (.error error)
      | .ok op => do
        let physical ← (sliceAt buf 2 10).bind (exactly 8)
        let logical ← (sliceAt buf 10 14).bind (exactly 4)
        let peer ← (sliceAt buf 14 46).bind peerIdOf
        let seq ← (sliceAt buf 46 54).bind (exactly 8)
        let entityLen ← byteAt buf 54
        let idLen ← byteAt buf 55
        let dataLen ← (sliceAt buf 56 60).bind (exactly 4)
        let entityEnd ← addUsize headerLen entityLen.toNat
        let idEnd ← addUsize entityEnd idLen.toNat
        let dataEnd ← addUsize idEnd (beValue dataLen)
        let flagEnd ← addUsize dataEnd 1
        if buf.length < flagEnd then some (.error (.truncated flagEnd buf.length))
        else do
          let entityBytes ← sliceAt buf headerLen entityEnd
          match fromUtf8 entityBytes with
          | none => some (.error .utf8)
          | some entity => do
            let idBytes ← sliceAt buf entityEnd idEnd
            match fromUtf8 idBytes with
            | none => some (.error .utf8)
            | some id => do
              let data ← sliceAt buf idEnd dataEnd
              let trailer ← decodeSignatureIndexed buf dataEnd flagEnd
              match trailer with
              | .error error => some (.error error)
              | .ok signature =>
                some (.ok {
                  stamp := ⟨⟨beValue physical, beValue logical⟩, peer⟩
                  seq := beValue seq
                  op := op
                  entity := entity
                  id := id
                  data := data
                  signature := signature })

variable {buf : List UInt8}

theorem decode_signature_indexed_total {flagAt : Nat} (inside : flagAt < buf.length)
    (small : flagAt + 1 + signatureLen < usizeSize) :
    decodeSignatureIndexed buf flagAt (flagAt + 1) = some (decodeSignature buf flagAt) := by
  unfold decodeSignatureIndexed decodeSignature
  rw [bind_of_some (byte_at_inside inside)]
  by_cases unsigned : buf.getD flagAt 0 = 0
  · rw [if_pos unsigned, if_pos unsigned]
  · rw [if_neg unsigned, if_neg unsigned]
    by_cases signed : buf.getD flagAt 0 = 1
    · rw [if_pos signed, if_pos signed, bind_of_some (add_usize_small small)]
      by_cases short : buf.length < flagAt + 1 + signatureLen
      · rw [if_pos short, dif_pos short]
      · have room := Nat.le_of_not_lt short
        have size : (slice buf (flagAt + 1) (flagAt + 1 + signatureLen)).length =
            signatureLen := by
          rw [slice_length room, Nat.add_sub_cancel_left]
        have built : signatureOf (slice buf (flagAt + 1) (flagAt + 1 + signatureLen)) =
            some ⟨_, size⟩ := dif_pos size
        rw [if_neg short, dif_neg short,
          bind_of_some (slice_at_inside (Nat.le_add_right _ _) room), bind_of_some built]
    · rw [if_neg signed, if_neg signed]

/-- No index, slice or addition of `decode` goes out of range, whatever the bytes. -/
theorem decode_indexed_total (buf : List UInt8) :
    decodeIndexed buf = some (WriteFrame.decode buf) := by
  unfold decodeIndexed WriteFrame.decode
  by_cases short : buf.length < headerLen
  · rw [if_pos short, dif_pos short]
  have header : 60 ≤ buf.length := Nat.le_of_not_lt short
  have byte (index : Nat) (low : index < 60) : byteAt buf index = some (buf.getD index 0) :=
    byte_at_inside (by omega)
  have word (start stop width : Nat) (size : start + width = stop) (low : stop ≤ 60) :
      (sliceAt buf start stop).bind (exactly width) = some (slice buf start stop) :=
    exactly_slice_at size (by omega)
  have peerSize : (slice buf 14 46).length = peerIdLen := slice_length (by omega)
  have peer : (sliceAt buf 14 46).bind peerIdOf = some ⟨slice buf 14 46, peerSize⟩ := by
    rw [slice_at_inside (by decide) (by omega), Option.bind_some, peerIdOf, dif_pos peerSize]
  rw [if_neg short, dif_neg short, bind_of_some (byte 0 (by decide))]
  by_cases version : buf.getD 0 0 ≠ wireVersion
  · rw [if_pos version, if_pos version]
  rw [if_neg version, if_neg version, bind_of_some (byte 1 (by decide))]
  cases u8ToOp (buf.getD 1 0) with
  | error error => rfl
  | ok op =>
    -- the lengths on the wire are one, one and four bytes wide, so no sum reaches 2^64
    have entityByte := (buf.getD 54 0).toNat_lt
    have idByte := (buf.getD 55 0).toNat_lt
    have dataBytes : beValue (slice buf 56 60) < 256 ^ 4 := by
      have bound := be_value_lt_pow (slice buf 56 60)
      rwa [slice_length header] at bound
    have fixed : headerLen = 60 := rfl
    have limit : usizeSize = 2 ^ 64 := rfl
    have trailer : signatureLen = 64 := rfl
    dsimp only
    rw [bind_of_some (word 2 10 8 rfl (by decide)), bind_of_some (word 10 14 4 rfl (by decide)),
      bind_of_some peer, bind_of_some (word 46 54 8 rfl (by decide)),
      bind_of_some (byte 54 (by decide)), bind_of_some (byte 55 (by decide)),
      bind_of_some (word 56 60 4 rfl (by decide)), bind_of_some (add_usize_small (by omega)),
      bind_of_some (add_usize_small (by omega)), bind_of_some (add_usize_small (by omega)),
      bind_of_some (add_usize_small (by omega))]
    generalize dataAt : headerLen + (buf.getD 54 0).toNat + (buf.getD 55 0).toNat +
      beValue (slice buf 56 60) = dataEnd
    by_cases cut : buf.length < dataEnd + 1
    · rw [if_pos cut, if_pos cut]
    rw [if_neg cut, if_neg cut, bind_of_some (slice_at_inside (by omega) (by omega))]
    cases fromUtf8 (slice buf headerLen (headerLen + (buf.getD 54 0).toNat)) with
    | none => rfl
    | some entity =>
      dsimp only
      rw [bind_of_some (slice_at_inside (by omega) (by omega))]
      cases fromUtf8 (slice buf (headerLen + (buf.getD 54 0).toNat)
          (headerLen + (buf.getD 54 0).toNat + (buf.getD 55 0).toNat)) with
      | none => rfl
      | some id =>
        dsimp only
        rw [bind_of_some (slice_at_inside (by omega) (by omega)),
          bind_of_some (decode_signature_indexed_total (by omega) (by omega))]
        cases decodeSignature buf dataEnd <;> rfl

end

/-- The codec loses nothing, accepts only what it writes, stays in range on every byte
string, and the signed bytes leave no field but the signature open. -/
theorem frame_codec_exact :
    (∀ (frame : WriteFrame) (bytes : List UInt8), frame.FitsWidths → frame.encode = .ok bytes →
      WriteFrame.decode bytes = .ok frame ∧ bytes.length = frame.encodedLen) ∧
    (∀ (buf : List UInt8) (frame : WriteFrame), WriteFrame.decode buf = .ok frame →
      frame.encode = .ok (buf.take frame.encodedLen)) ∧
    (∀ buf : List UInt8, decodeIndexed buf = some (WriteFrame.decode buf)) ∧
    ∀ (left right : WriteFrame) (bytes : List UInt8), left.FitsWidths → right.FitsWidths →
      left.signingBytes = .ok bytes → right.signingBytes = .ok bytes →
      { left with signature := none } = { right with signature := none } := by
  refine ⟨?_, ?_, decode_indexed_total, ?_⟩
  · intro frame bytes fits encoded
    have decoded := decode_encode_append fits encoded []
    rw [List.append_nil] at decoded
    refine ⟨decoded, ?_⟩
    rw [(encode_ok encoded).2, fields_length]
  · intro buf frame decoded
    exact encode_of_decode decoded
  · intro left right bytes leftFits rightFits leftSigned rightSigned
    exact signing_bytes_determine leftFits rightFits leftSigned rightSigned

def signedFrame : WriteFrame where
  stamp := ⟨⟨5, 3⟩, peerNumber 1⟩
  seq := 2
  op := .update
  entity := "task"
  id := "t1"
  data := [7, 8]
  signature := some ⟨List.replicate 64 9, rfl⟩

/-- A signed frame, read back from its 133 bytes. -/
theorem signed_frame_read_back :
    ∃ bytes, signedFrame.encode = .ok bytes ∧ bytes.length = 133 ∧
      WriteFrame.decode bytes = .ok signedFrame ∧
      decodeIndexed bytes = some (.ok signedFrame) := by
  have lengths : checkLengths signedFrame.entity signedFrame.id signedFrame.data = .ok () := by
    decide
  have encoded := encode_of_check_lengths lengths
  obtain ⟨round, -, total, -⟩ := frame_codec_exact
  obtain ⟨decoded, size⟩ := round signedFrame _ ⟨by decide, by decide, by decide⟩ encoded
  refine ⟨_, encoded, size.trans (by decide), decoded, ?_⟩
  rw [total, decoded]

end Stitch.P2P.FrameCodec
