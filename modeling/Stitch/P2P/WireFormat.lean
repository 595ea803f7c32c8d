import Stitch.Foundation.ByteLayout
import Stitch.P2P.LastWriterWins

/-!
# Frame wire format

Transcription of `wire.rs`. Lengths and sequence numbers are natural numbers;
`FitsWidths` lists the ranges of the fixed-width fields of a Rust `WriteFrame`.
-/

namespace Stitch.P2P.WireFormat

open Foundation.ByteLayout HybridClock LastWriterWins

def wireVersion : UInt8 := 2

def headerLen : Nat := 60

def signatureLen : Nat := 64

@[ext] structure Signature where
  bytes : List UInt8
  size : bytes.length = signatureLen
  deriving DecidableEq

inductive WireError where
  | truncated (need available : Nat)
  | badVersion (version : UInt8)
  | badOp (byte : UInt8)
  | entityTooLong
  | idTooLong
  | dataTooLong
  | utf8
  | badSignatureFlag (flag : UInt8)
  deriving DecidableEq

@[ext] structure WriteFrame where
  stamp : Stamp
  seq : Nat
  op : Op
  entity : String
  id : String
  data : List UInt8
  signature : Option Signature
  deriving DecidableEq

structure WriteFrame.FitsWidths (frame : WriteFrame) : Prop where
  physical : frame.stamp.hlc.physical < 256 ^ 8
  logical : frame.stamp.hlc.logical < 256 ^ 4
  seq : frame.seq < 256 ^ 8

def WriteFrame.intoStamped (frame : WriteFrame) : StampedWrite where
  stamp := frame.stamp
  op := frame.op
  entity := frame.entity
  id := frame.id
  data := frame.data

def opToU8 : Op → UInt8
  | .insert => 0
  | .update => 1
  | .delete => 2

def u8ToOp (byte : UInt8) : Except WireError Op :=
  if byte = 0 then .ok .insert
  else if byte = 1 then .ok .update
  else if byte = 2 then .ok .delete
  else .error (.badOp byte)

theorem u8_to_op_op_to_u8 (op : Op) : u8ToOp (opToU8 op) = .ok op := by
  cases op <;> rfl

def checkLengths (entity id : String) (data : List UInt8) : Except WireError Unit :=
  if 256 ^ 1 ≤ (utf8Bytes entity).length then .error .entityTooLong
  else if 256 ^ 1 ≤ (utf8Bytes id).length then .error .idTooLong
  else if 256 ^ 4 ≤ data.length then .error .dataTooLong
  else .ok ()

def WriteFrame.signingFields (frame : WriteFrame) : List (List UInt8) :=
  [[wireVersion],
    [opToU8 frame.op],
    beBytes 8 frame.stamp.hlc.physical,
    beBytes 4 frame.stamp.hlc.logical,
    frame.stamp.peer.bytes,
    beBytes 8 frame.seq,
    [UInt8.ofNat (utf8Bytes frame.entity).length],
    [UInt8.ofNat (utf8Bytes frame.id).length],
    beBytes 4 frame.data.length,
    utf8Bytes frame.entity,
    utf8Bytes frame.id,
    frame.data]

def WriteFrame.signingBytes (frame : WriteFrame) : Except WireError (List UInt8) :=
  match checkLengths frame.entity frame.id frame.data with
  | .error error => .error error
  | .ok _ => .ok frame.signingFields.flatten

def signatureFields : Option Signature → List (List UInt8)
  | some signature => [[1], signature.bytes]
  | none => [[0]]

def WriteFrame.encode (frame : WriteFrame) : Except WireError (List UInt8) :=
  match frame.signingBytes with
  | .error error => .error error
  | .ok out => .ok (out ++ (signatureFields frame.signature).flatten)

/-- Reads the signature trailer whose flag byte is at `dataEnd`. -/
def decodeSignature (buf : List UInt8) (dataEnd : Nat) :
    Except WireError (Option Signature) :=
  let flagEnd := dataEnd + 1
  let flag := buf.getD dataEnd 0
  if flag = 0 then .ok none
  else if flag = 1 then
    let sigEnd := flagEnd + signatureLen
    if short : buf.length < sigEnd then .error (.truncated sigEnd buf.length)
    else
      .ok (some ⟨slice buf flagEnd sigEnd, by
        rw [slice_length (Nat.le_of_not_lt short)]
        exact Nat.add_sub_cancel_left flagEnd signatureLen⟩)
  else .error (.badSignatureFlag flag)

def WriteFrame.decode (buf : List UInt8) : Except WireError WriteFrame :=
  if short : buf.length < headerLen then .error (.truncated headerLen buf.length)
  else
    let version := buf.getD 0 0
    if version ≠ wireVersion then .error (.badVersion version)
    else
      match u8ToOp (buf.getD 1 0) with
      | .error error => .error error
      | .ok op =>
        let physical := beValue (slice buf 2 10)
        let logical := beValue (slice buf 10 14)
        let peer : PeerId := ⟨slice buf 14 46, by
          have room : 46 ≤ buf.length := by
            have header : headerLen = 60 := rfl
            omega
          exact slice_length room⟩
        let seq := beValue (slice buf 46 54)
        let entityLen := (buf.getD 54 0).toNat
        let idLen := (buf.getD 55 0).toNat
        let dataLen := beValue (slice buf 56 60)
        let entityEnd := headerLen + entityLen
        let idEnd := entityEnd + idLen
        let dataEnd := idEnd + dataLen
        let flagEnd := dataEnd + 1
        if buf.length < flagEnd then .error (.truncated flagEnd buf.length)
        else
          match fromUtf8 (slice buf headerLen entityEnd) with
          | none => .error .utf8
          | some entity =>
            match fromUtf8 (slice buf entityEnd idEnd) with
            | none => .error .utf8
            | some id =>
              match decodeSignature buf dataEnd with
              | .error error => .error error
              | .ok signature =>
                .ok {
                  stamp := ⟨⟨physical, logical⟩, peer⟩
                  seq := seq
                  op := op
                  entity := entity
                  id := id
                  data := slice buf idEnd dataEnd
                  signature := signature }

def WriteFrame.encodedLen (frame : WriteFrame) : Nat :=
  headerLen + (utf8Bytes frame.entity).length + (utf8Bytes frame.id).length +
    frame.data.length + 1 + if frame.signature.isSome then signatureLen else 0

theorem check_lengths_ok {entity id : String} {data : List UInt8}
    (accepted : checkLengths entity id data = .ok ()) :
    (utf8Bytes entity).length < 256 ∧ (utf8Bytes id).length < 256 ∧
      data.length < 256 ^ 4 := by
  unfold checkLengths at accepted
  split at accepted
  · cases accepted
  split at accepted
  · cases accepted
  split at accepted
  · cases accepted
  omega

variable {bytes : List UInt8}

theorem signing_bytes_ok {frame : WriteFrame} (signed : frame.signingBytes = .ok bytes) :
    checkLengths frame.entity frame.id frame.data = .ok () ∧
      bytes = frame.signingFields.flatten := by
  unfold WriteFrame.signingBytes at signed
  cases lengths : checkLengths frame.entity frame.id frame.data with
  | error error => simp [lengths] at signed
  | ok checked =>
    simp only [lengths, Except.ok.injEq] at signed
    exact ⟨rfl, signed.symm⟩

def WriteFrame.fields (frame : WriteFrame) : List (List UInt8) :=
  frame.signingFields ++ signatureFields frame.signature

theorem encode_ok {frame : WriteFrame} (encoded : frame.encode = .ok bytes) :
    checkLengths frame.entity frame.id frame.data = .ok () ∧
      bytes = frame.fields.flatten := by
  unfold WriteFrame.encode at encoded
  cases signed : frame.signingBytes with
  | error error => simp [signed] at encoded
  | ok out =>
    simp only [signed, Except.ok.injEq] at encoded
    obtain ⟨lengths, same⟩ := signing_bytes_ok signed
    refine ⟨lengths, ?_⟩
    rw [← encoded, same, WriteFrame.fields, List.flatten_append]

theorem encode_of_check_lengths {frame : WriteFrame}
    (lengths : checkLengths frame.entity frame.id frame.data = .ok ()) :
    frame.encode = .ok frame.fields.flatten := by
  simp [WriteFrame.encode, WriteFrame.signingBytes, lengths, WriteFrame.fields]

theorem fields_length (frame : WriteFrame) :
    frame.fields.flatten.length = frame.encodedLen := by
  have peer : frame.stamp.peer.bytes.length = 32 := frame.stamp.peer.size
  unfold WriteFrame.fields WriteFrame.encodedLen
  cases signature : frame.signature with
  | none =>
    simp [WriteFrame.signingFields, signatureFields, headerLen, peer]
    omega
  | some value =>
    have size : value.bytes.length = 64 := value.size
    simp [WriteFrame.signingFields, signatureFields, headerLen, signatureLen, peer, size]
    omega

section

variable (frame : WriteFrame) (rest : List UInt8)

def WriteFrame.layout : List (List UInt8) := frame.fields ++ [rest]

theorem layout_flatten : (frame.layout rest).flatten = frame.fields.flatten ++ rest := by
  simp [WriteFrame.layout]

@[simp] theorem layout_take_flatten_length (index : Nat) (inside : index ≤ 12) :
    ((frame.layout rest).take index).flatten.length =
      (frame.signingFields.take index).flatten.length := by
  have width : frame.signingFields.length = 12 := rfl
  have short : index - (frame.signingFields.length) = 0 := by omega
  simp [WriteFrame.layout, WriteFrame.fields, List.append_assoc, List.take_append, short]

theorem layout_fixed_fields :
    let buf := (frame.layout rest).flatten
    buf.getD 0 0 = wireVersion ∧ buf.getD 1 0 = opToU8 frame.op ∧
      slice buf 2 10 = beBytes 8 frame.stamp.hlc.physical ∧
      slice buf 10 14 = beBytes 4 frame.stamp.hlc.logical ∧
      slice buf 14 46 = frame.stamp.peer.bytes ∧
      slice buf 46 54 = beBytes 8 frame.seq ∧
      buf.getD 54 0 = UInt8.ofNat (utf8Bytes frame.entity).length ∧
      buf.getD 55 0 = UInt8.ofNat (utf8Bytes frame.id).length ∧
      slice buf 56 60 = beBytes 4 frame.data.length := by
  have peer : frame.stamp.peer.bytes.length = 32 := frame.stamp.peer.size
  intro buf
  have before (index : Nat) (inside : index ≤ 12) :=
    layout_take_flatten_length frame rest index inside
  refine ⟨byte_flatten 0 rfl rfl, byte_flatten 1 rfl rfl, ?_, ?_, ?_, ?_, ?_, ?_, ?_⟩
  · exact slice_flatten 2 rfl rfl (by simp)
  · exact slice_flatten 3 rfl rfl (by simp)
  · exact slice_flatten 4 rfl rfl (by simp [peer])
  · exact slice_flatten 5 rfl (by simp [before, WriteFrame.signingFields, peer]) (by simp)
  · exact byte_flatten 6 rfl (by simp [before, WriteFrame.signingFields, peer])
  · exact byte_flatten 7 rfl (by simp [before, WriteFrame.signingFields, peer])
  · exact slice_flatten 8 rfl (by simp [before, WriteFrame.signingFields, peer]) (by simp)

theorem layout_text_fields :
    let buf := (frame.layout rest).flatten
    let entityEnd := headerLen + (utf8Bytes frame.entity).length
    let idEnd := entityEnd + (utf8Bytes frame.id).length
    let dataEnd := idEnd + frame.data.length
    slice buf headerLen entityEnd = utf8Bytes frame.entity ∧
      slice buf entityEnd idEnd = utf8Bytes frame.id ∧
      slice buf idEnd dataEnd = frame.data := by
  have peer : frame.stamp.peer.bytes.length = 32 := frame.stamp.peer.size
  intro buf entityEnd idEnd dataEnd
  have before (index : Nat) (inside : index ≤ 12) :=
    layout_take_flatten_length frame rest index inside
  refine ⟨?_, ?_, ?_⟩
  · exact slice_flatten 9 rfl (by simp [before, WriteFrame.signingFields, headerLen, peer]) rfl
  · refine slice_flatten 10 rfl ?_ rfl
    simp [before, WriteFrame.signingFields, headerLen, entityEnd, peer]
    omega
  · refine slice_flatten 11 rfl ?_ rfl
    simp [before, WriteFrame.signingFields, headerLen, entityEnd, idEnd, peer]
    omega

theorem layout_length :
    (frame.layout rest).flatten.length = frame.encodedLen + rest.length := by
  rw [layout_flatten, List.length_append, fields_length]

theorem decode_signature_layout :
    decodeSignature (frame.layout rest).flatten
      (headerLen + (utf8Bytes frame.entity).length + (utf8Bytes frame.id).length +
        frame.data.length) = .ok frame.signature := by
  have peer : frame.stamp.peer.bytes.length = 32 := frame.stamp.peer.size
  have start : ((frame.layout rest).take 12).flatten.length =
      headerLen + (utf8Bytes frame.entity).length + (utf8Bytes frame.id).length +
        frame.data.length := by
    rw [layout_take_flatten_length frame rest 12 (Nat.le_refl _)]
    simp [WriteFrame.signingFields, headerLen, peer]
    omega
  cases signature : frame.signature with
  | none =>
    have flag : (frame.layout rest)[12]? = some [0] := by
      simp [WriteFrame.layout, WriteFrame.fields, WriteFrame.signingFields, signature,
        signatureFields]
    simp only [decodeSignature, byte_flatten 12 flag start, if_true]
  | some value =>
    have flag : (frame.layout rest)[12]? = some [1] := by
      simp [WriteFrame.layout, WriteFrame.fields, WriteFrame.signingFields, signature,
        signatureFields]
    have body : (frame.layout rest)[13]? = some value.bytes := by
      simp [WriteFrame.layout, WriteFrame.fields, WriteFrame.signingFields, signature,
        signatureFields]
    have bodyStart : ((frame.layout rest).take 13).flatten.length =
        headerLen + (utf8Bytes frame.entity).length + (utf8Bytes frame.id).length +
          frame.data.length + 1 := by
      rw [List.take_add_one, flag, List.flatten_append, List.length_append, start]
      rfl
    have bytes := slice_flatten 13 body bodyStart rfl
    have room : ¬(frame.layout rest).flatten.length < headerLen +
        (utf8Bytes frame.entity).length + (utf8Bytes frame.id).length +
          frame.data.length + 1 + signatureLen := by
      rw [layout_length]
      simp [WriteFrame.encodedLen, signature]
    simp only [decodeSignature, byte_flatten 12 flag start, if_true,
      show (1 : UInt8) ≠ 0 by decide, if_false, dif_neg room]
    congr 2
    apply Signature.ext
    rw [← bytes, value.size]

end

/-- A frame that encodes is read back from any buffer that starts with its bytes. -/
theorem decode_encode_append {frame : WriteFrame} (fits : frame.FitsWidths)
    (encoded : frame.encode = .ok bytes) (rest : List UInt8) :
    WriteFrame.decode (bytes ++ rest) = .ok frame := by
  obtain ⟨lengths, same⟩ := encode_ok encoded
  obtain ⟨entityFits, idFits, dataFits⟩ := check_lengths_ok lengths
  rw [same, ← layout_flatten]
  obtain ⟨version, op, physical, logical, peer, seq, entityLen, idLen, dataLen⟩ :=
    layout_fixed_fields frame rest
  obtain ⟨entity, id, data⟩ := layout_text_fields frame rest
  have signature := decode_signature_layout frame rest
  have total := layout_length frame rest
  have entityWidth : (UInt8.ofNat (utf8Bytes frame.entity).length).toNat =
      (utf8Bytes frame.entity).length := UInt8.toNat_ofNat_of_lt entityFits
  have idWidth : (UInt8.ofNat (utf8Bytes frame.id).length).toNat =
      (utf8Bytes frame.id).length := UInt8.toNat_ofNat_of_lt idFits
  have header : ¬(frame.layout rest).flatten.length < headerLen := by
    rw [total, WriteFrame.encodedLen]
    omega
  have room : ¬(frame.layout rest).flatten.length < headerLen +
      (utf8Bytes frame.entity).length + (utf8Bytes frame.id).length +
        frame.data.length + 1 := by
    rw [total, WriteFrame.encodedLen]
    omega
  simp only [WriteFrame.decode, dif_neg header, version, op, physical, logical, peer, seq,
    entityLen, idLen, dataLen, entityWidth, idWidth, ne_eq, not_true_eq_false, if_false,
    u8_to_op_op_to_u8, be_value_be_bytes_of_lt fits.physical,
    be_value_be_bytes_of_lt fits.logical, be_value_be_bytes_of_lt fits.seq,
    be_value_be_bytes_of_lt dataFits, if_neg room, entity, id, data,
    from_utf8_utf8_bytes, signature]

end Stitch.P2P.WireFormat
