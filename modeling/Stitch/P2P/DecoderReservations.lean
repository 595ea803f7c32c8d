import Mathlib.Order.Bounds.Basic
import Stitch.P2P.FrameCodec
import Stitch.P2P.MessageFormat

/-!
# What the decoders reserve

Both payload decoders of `protocol.rs` read an element count and reserve that many elements
before they parse the first one. `decode_hello` compares the count with the payload length
first; `decode_delta` does not.
-/

namespace Stitch.P2P.DecoderReservations

open Foundation.ByteLayout HybridClock WireFormat FrameCodec MessageFormat

section

variable {payload : List UInt8}

/-- The argument of `HashMap::with_capacity` in `decode_hello`, if the call is reached. -/
def helloCapacity (payload : List UInt8) : Option Nat :=
  let header := peerIdLen + 4
  if payload.length < header then none
  else
    let count := beValue (slice payload peerIdLen header)
    let need := header + count * entryLen
    if payload.length < need then none else some count

/-- The argument of `Vec::with_capacity` in `decode_delta`, if the call is reached. -/
def deltaCapacity (payload : List UInt8) : Option Nat :=
  if payload.length < 4 then none else some (beValue (slice payload 0 4))

def smallestFrameLen : Nat := 4 + (headerLen + 1)

theorem encoded_len_least (frame : WriteFrame) : headerLen + 1 ≤ frame.encodedLen := by
  unfold WriteFrame.encodedLen
  omega

def emptyFrame : WriteFrame where
  stamp := ⟨⟨0, 0⟩, peerNumber 1⟩
  seq := 1
  op := .insert
  entity := ""
  id := ""
  data := []
  signature := none

def frameWidths : Set Nat :=
  {width | ∃ frame : WriteFrame, ∃ bytes, frame.encode = .ok bytes ∧ width = 4 + bytes.length}

theorem smallest_frame_len_least : IsLeast frameWidths smallestFrameLen := by
  constructor
  · have encoded : emptyFrame.encode = .ok emptyFrame.fields.flatten :=
      encode_of_check_lengths rfl
    refine ⟨emptyFrame, _, encoded, ?_⟩
    rfl
  · intro width attained
    obtain ⟨frame, bytes, encoded, rfl⟩ := attained
    rw [(encode_ok encoded).2, fields_length]
    exact Nat.add_le_add_left (encoded_len_least frame) 4

theorem decode_frames_room {count off : Nat} {frames : List WriteFrame}
    (inside : off ≤ payload.length) (decoded : decodeFrames payload count off = .ok frames) :
    frames.length = count ∧ off + count * smallestFrameLen ≤ payload.length := by
  induction count generalizing off frames with
  | zero =>
    cases decoded
    exact ⟨rfl, by omega⟩
  | succ count ih =>
    unfold decodeFrames at decoded
    split_ifs at decoded with lenShort
    dsimp only at decoded
    split_ifs at decoded with blockShort
    cases block : WriteFrame.decode (slice payload (off + 4)
        (off + 4 + beValue (slice payload off (off + 4)))) with
    | error error => simp [block] at decoded
    | ok frame =>
      cases later : decodeFrames payload count
          (off + 4 + beValue (slice payload off (off + 4))) with
      | error error => simp [block, later] at decoded
      | ok rest =>
        simp only [block, later, Except.ok.injEq] at decoded
        subst decoded
        obtain ⟨counted, room⟩ := ih (Nat.le_of_not_lt blockShort) later
        have filled := (decode_stands_in block).2
        rw [slice_length (Nat.le_of_not_lt blockShort)] at filled
        have least := encoded_len_least frame
        refine ⟨by rw [List.length_cons, counted], ?_⟩
        rw [Nat.add_one_mul]
        unfold smallestFrameLen at room ⊢
        omega

end

/-- The payload announces no more frames than it could hold. -/
def AnnouncesFew (payload : List UInt8) : Prop :=
  payload.length < 4 ∨ beValue (slice payload 0 4) ≤ payload.length / smallestFrameLen

theorem accepted_announces_few {payload : List UInt8} {frames : List WriteFrame}
    (accepted : decodeDelta payload = .ok frames) : AnnouncesFew payload := by
  unfold decodeDelta at accepted
  split_ifs at accepted with short
  have room := (decode_frames_room (Nat.le_of_not_lt short) accepted).2
  refine Or.inr ?_
  rw [Nat.le_div_iff_mul_le (by decide)]
  omega

/-- Both decoders keep their reservations within the payload exactly when it announces few
frames. `decode_hello` always does, and so does every payload that `decode_delta` accepts. -/
theorem decoders_reserve_within_payload_iff (payload : List UInt8) :
    ((∀ count ∈ helloCapacity payload, count ≤ payload.length / entryLen) ∧
        (∀ count ∈ deltaCapacity payload, count ≤ payload.length / smallestFrameLen) ↔
      AnnouncesFew payload) ∧
    IsLeast frameWidths smallestFrameLen ∧
    ∀ frames, decodeDelta payload = .ok frames → AnnouncesFew payload := by
  refine ⟨?_, smallest_frame_len_least, fun frames => accepted_announces_few⟩
  have hello : ∀ count ∈ helloCapacity payload, count ≤ payload.length / entryLen := by
    intro count reserved
    simp only [helloCapacity, Option.mem_def] at reserved
    split_ifs at reserved with short missing
    cases reserved
    rw [Nat.le_div_iff_mul_le (by decide)]
    omega
  rw [and_iff_right hello, AnnouncesFew, deltaCapacity]
  split_ifs with short
  · simp [short]
  · simp [short]

def smallestDelta : List UInt8 :=
  beBytes 4 1 ++ (beBytes 4 (headerLen + 1) ++ emptyFrame.fields.flatten)

theorem smallest_delta_within_payload :
    decodeDelta smallestDelta = .ok [emptyFrame] ∧ AnnouncesFew smallestDelta := by
  have accepted : decodeDelta smallestDelta = .ok [emptyFrame] := by decide
  exact ⟨accepted, (decoders_reserve_within_payload_iff smallestDelta).2.2 _ accepted⟩

/-- A message of nine bytes, four of them payload, for which `decode_delta` reserves
4294967295 frames before it finds that there is none. -/
theorem delta_count_reserved_unchecked :
    readMessage [1, 0, 0, 0, 4, 255, 255, 255, 255] = .error (.truncated 8 4) ∧
      [255, 255, 255, 255].length ≤ maxMessageLen ∧
      deltaCapacity [255, 255, 255, 255] = some 4294967295 ∧
      ¬4294967295 ≤ ([255, 255, 255, 255] : List UInt8).length / smallestFrameLen := by
  decide

end Stitch.P2P.DecoderReservations
