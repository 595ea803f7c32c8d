import Stitch.Transport.TurnFrames

/-!
# Message integrity

The verifier takes the first message-integrity attribute of a body and compares its value with
the keyed hash of the bytes before it. The encoder writes the attribute so that the verifier
rebuilds the bytes it has signed.
-/

namespace Stitch.Transport.TurnIntegrity

open Foundation.ByteLayout Foundation.PaddedRecords TurnMessage TurnFrames

section

variable (library : Primitives) (message : Message) (key : List UInt8) (fingerprint : Bool)

theorem fold_or_zero (pairs : List (UInt8 × UInt8)) (diff : UInt8) :
    pairs.foldl (fun diff pair => diff ||| (pair.1 ^^^ pair.2)) diff = 0 ↔
      diff = 0 ∧ ∀ pair ∈ pairs, pair.1 = pair.2 := by
  induction pairs generalizing diff with
  | nil => simp
  | cons pair rest ih =>
    rw [List.foldl_cons, ih, UInt8.or_eq_zero_iff, UInt8.xor_eq_zero_iff,
      List.forall_mem_cons, and_assoc]

theorem zip_all_eq {left right : List UInt8} (width : left.length = right.length) :
    (∀ pair ∈ List.zip left right, pair.1 = pair.2) ↔ left = right := by
  induction left generalizing right with
  | nil =>
    rw [List.length_eq_zero_iff.mp width.symm]
    simp
  | cons byte rest ih =>
    cases right with
    | nil => cases width
    | cons other others =>
      rw [List.zip_cons_cons, List.forall_mem_cons, ih (Nat.succ.inj width), List.cons.injEq]

theorem same_bytes_iff {expected actual : List UInt8}
    (width : expected.length = actual.length) :
    sameBytes expected actual = true ↔ expected = actual := by
  rw [sameBytes, beq_iff_eq, fold_or_zero, zip_all_eq width]
  simp

/-- The first record of the message-integrity type among the records of a body. -/
def integrityEntry (records : List Entry) : Option Entry :=
  records.find? (fun entry => decide (entry.raw.typ = attrMessageIntegrity))

/-- The verifier looks at the first message-integrity attribute and at nothing after it. -/
theorem integrity_scanner_run (buf : List UInt8) (ending : Ending) (records : List Entry) :
    (integrityScanner library buf key).run ending records () = true ↔
      ∃ entry, integrityEntry records = some entry ∧
        entry.raw.value = (library.hmacSha1 key (signedPart buf entry.offset)).bytes := by
  induction records with
  | nil =>
    cases ending with
    | finished offset | overran => simp [Scanner.run, integrityScanner, integrityEntry]
  | cons entry rest ih =>
    by_cases named : entry.raw.typ = attrMessageIntegrity
    · have found : integrityEntry (entry :: rest) = some entry := by
        rw [integrityEntry, List.find?_cons, decide_eq_true named]
      have mac := (library.hmacSha1 key (signedPart buf entry.offset)).size
      by_cases width : entry.raw.value.length = 20
      · have visited : (integrityScanner library buf key).visit () entry.offset entry.raw =
            .stop (sameBytes (library.hmacSha1 key (signedPart buf entry.offset)).bytes
              entry.raw.value) := by
          simp only [integrityScanner, if_pos named, if_neg (not_not.mpr width)]
        rw [Scanner.run, visited, found]
        simp only [same_bytes_iff (mac.trans width.symm), Option.some.injEq, exists_eq_left']
        exact eq_comm
      · have visited : (integrityScanner library buf key).visit () entry.offset entry.raw =
            .stop false := by
          simp only [integrityScanner, if_pos named, if_pos width]
        have differ : entry.raw.value ≠
            (library.hmacSha1 key (signedPart buf entry.offset)).bytes := by
          intro same
          rw [same] at width
          exact width mac
        rw [Scanner.run, visited, found]
        simp [differ]
    · have visited : (integrityScanner library buf key).visit () entry.offset entry.raw =
          .onward () := by
        simp only [integrityScanner, if_neg named]
      have skipped : integrityEntry (entry :: rest) = integrityEntry rest := by
        rw [integrityEntry, List.find?_cons, decide_eq_false named]
        rfl
      rw [Scanner.run, visited, skipped]
      exact ih

theorem verify_integrity_iff (buf : List UInt8) :
    verifyIntegrity library buf key = true ↔
      headerLen + messageLength buf ≤ buf.length ∧
        ∃ entry, integrityEntry (entries (bodyOf buf)).1 = some entry ∧
          entry.raw.value = (library.hmacSha1 key (signedPart buf entry.offset)).bytes := by
  rw [verifyIntegrity, scan_eq_run]
  split_ifs with short cut
  · constructor
    · intro accepted
      cases accepted
    · intro accepted
      omega
  · constructor
    · intro accepted
      cases accepted
    · intro accepted
      omega
  · rw [integrity_scanner_run]
    constructor
    · intro accepted
      exact ⟨Nat.le_of_not_lt cut, accepted⟩
    · intro accepted
      exact accepted.2

theorem raw_type_integrity {attr : Attribute} (txn : TransactionId)
    (other : (∀ mac, attr ≠ .messageIntegrity mac) ∧
      ∀ value, attr ≠ .unknown attrMessageIntegrity value) :
    (rawAttribute attr txn).typ ≠ attrMessageIntegrity := by
  cases attr with
  | messageIntegrity mac => exact (other.1 mac rfl).elim
  | unknown typ value =>
    intro same
    have named : typ = attrMessageIntegrity := same
    rw [named] at other
    exact other.2 value rfl
  | _ =>
    simp only [rawAttribute]
    decide

variable {offset : Nat} {raws : List RawRecord}

theorem placed_raw_mem {entry : Entry} (member : entry ∈ placed offset raws) :
    entry.raw ∈ raws := by
  rw [← placed_map_raw offset raws]
  exact List.mem_map_of_mem member

theorem signed_part_frame {typ : UInt16} {length : Nat} {txn : TransactionId}
    (raws later : List RawRecord) :
    signedPart (frame typ length txn (raws ++ later)) (raws.flatMap RawRecord.bytes).length =
      frame typ ((raws.flatMap RawRecord.bytes).length + 24) txn raws := by
  have front : frame typ length txn (raws ++ later) =
      frame typ length txn raws ++ later.flatMap RawRecord.bytes := by
    simp [frame]
  have size : headerLen + (raws.flatMap RawRecord.bytes).length =
      (frame typ length txn raws).length := frame_length.symm
  rw [signedPart, front, size, List.take_left', set_length_frame]
  rfl

theorem integrity_entry_placed {later : List RawRecord} {mac : List UInt8}
    (others : ∀ raw ∈ raws, raw.typ ≠ attrMessageIntegrity) :
    integrityEntry (placed offset (raws ++ ⟨attrMessageIntegrity, mac⟩ :: later)) =
      some ⟨offset + (raws.flatMap RawRecord.bytes).length, ⟨attrMessageIntegrity, mac⟩⟩ := by
  have none : integrityEntry (placed offset raws) = none := by
    rw [integrityEntry, List.find?_eq_none]
    intro entry member named
    exact others entry.raw (placed_raw_mem member) (of_decide_eq_true named)
  rw [placed_append, integrityEntry, List.find?_append]
  unfold integrityEntry at none
  rw [none, Option.none_or, placed, List.find?_cons, decide_eq_true rfl]

def signedMac : Block 20 :=
  library.hmacSha1 key (setLength (encodeAttributes message)
    ((encodeAttributes message).length - headerLen + 24))

def ownRecords : List RawRecord :=
  message.attributes.map (fun attr => rawAttribute attr message.transactionId)

def signedRecords (tail : List Attribute) : List RawRecord :=
  ownRecords message ++ ⟨attrMessageIntegrity, (signedMac library message key).bytes⟩ ::
    tail.map (fun attr => rawAttribute attr message.transactionId)

def signedFrame (tail : List Attribute) : List UInt8 :=
  frame (messageType message.method message.kind)
    ((signedRecords library message key tail).flatMap RawRecord.bytes).length
    message.transactionId (signedRecords library message key tail)

theorem signed_records_map (tail : List Attribute) :
    signedRecords library message key tail =
      (message.attributes ++ .messageIntegrity (signedMac library message key) :: tail).map
        (fun attr => rawAttribute attr message.transactionId) := by
  rw [List.map_append, List.map_cons]
  rfl

theorem encode_signed_frame :
    encode library message (some key) fingerprint =
      signedFrame library message key
        (fingerprintAttribute library message (some key) fingerprint) := by
  have whole := encode_length library message (some key) fingerprint
  have records : signedRecords library message key
      (fingerprintAttribute library message (some key) fingerprint) =
        (encodedAttributes library message (some key) fingerprint).map
          (fun attr => rawAttribute attr message.transactionId) := by
    rw [signed_records_map, encodedAttributes, List.append_assoc]
    rfl
  rw [signedFrame, records, ← whole]
  exact encode_frame library message (some key) fingerprint

theorem signed_frame_part (tail : List Attribute) :
    signedPart (signedFrame library message key tail)
        ((ownRecords message).flatMap RawRecord.bytes).length =
      setLength (encodeAttributes message)
        ((encodeAttributes message).length - headerLen + 24) := by
  rw [signedFrame, signedRecords, signed_part_frame, set_length_encoded, encode_attributes_length]
  rfl

section

variable {tail : List Attribute}
  (others : ∀ attr ∈ message.attributes, (∀ mac, attr ≠ .messageIntegrity mac) ∧
    ∀ value, attr ≠ .unknown attrMessageIntegrity value)
  (fits : ((signedRecords library message key tail).flatMap RawRecord.bytes).length < 65536)

include others fits

theorem signed_frame_entry :
    integrityEntry (entries (bodyOf (signedFrame library message key tail))).1 =
      some ⟨((ownRecords message).flatMap RawRecord.bytes).length,
        ⟨attrMessageIntegrity, (signedMac library message key).bytes⟩⟩ := by
  have small : ∀ raw ∈ signedRecords library message key tail, raw.value.length < 65536 := by
    intro raw member
    exact (value_length_le_layout member).trans_lt fits
  have plain : ∀ raw ∈ ownRecords message, raw.typ ≠ attrMessageIntegrity := by
    intro raw member
    obtain ⟨attr, own, same⟩ := List.mem_map.mp member
    rw [← same]
    exact raw_type_integrity message.transactionId (others attr own)
  rw [signedFrame, body_frame rfl fits, entries_layout small, signedRecords,
    integrity_entry_placed plain, Nat.zero_add]

theorem verify_signed_frame :
    verifyIntegrity library (signedFrame library message key tail) key = true := by
  have length : messageLength (signedFrame library message key tail) =
      ((signedRecords library message key tail).flatMap RawRecord.bytes).length :=
    message_length_frame fits
  refine (verify_integrity_iff library key _).mpr
    ⟨?_, _, signed_frame_entry library message key others fits, ?_⟩
  · rw [length, signedFrame, frame_length]
  · rw [signed_frame_part, signedMac]

end

/-- What the encoder signs is accepted, and what is accepted carries the keyed hash of the bytes
before it, with the length up to and including it. -/
theorem integrity_consistent :
    (∀ (message : Message) (key : List UInt8) (fingerprint : Bool),
      (∀ attr ∈ message.attributes, (∀ mac, attr ≠ .messageIntegrity mac) ∧
        ∀ value, attr ≠ .unknown attrMessageIntegrity value) →
      (encode library message (some key) fingerprint).length - headerLen < 65536 →
      verifyIntegrity library (encode library message (some key) fingerprint) key = true) ∧
    ∀ buf key : List UInt8, verifyIntegrity library buf key = true →
      ∃ entry, integrityEntry (entries (bodyOf buf)).1 = some entry ∧
        entry.raw.value.length = 20 ∧
        entry.raw.value = (library.hmacSha1 key (setLength (buf.take (headerLen + entry.offset))
          (entry.offset + 4 + entry.raw.value.length))).bytes := by
  refine ⟨?_, ?_⟩
  · intro message key fingerprint others fits
    rw [encode_signed_frame, signedFrame, frame_length, Nat.add_sub_cancel_left] at fits
    rw [encode_signed_frame]
    exact verify_signed_frame library message key others fits
  · intro buf key accepted
    obtain ⟨entry, found, same⟩ := ((verify_integrity_iff library key buf).mp accepted).2
    have width : entry.raw.value.length = 20 := by
      rw [same]
      exact (library.hmacSha1 key (signedPart buf entry.offset)).size
    refine ⟨entry, found, width, ?_⟩
    rw [width]
    exact same

theorem integrity_consistent_sample :
    verifyIntegrity sampleLibrary (encode sampleLibrary sampleMessage (some [9]) true) [9] = true :=
  (integrity_consistent sampleLibrary).1 sampleMessage [9] true
    (by
      intro attr member
      simp only [sampleMessage, List.mem_cons, List.not_mem_nil, or_false] at member
      rcases member with same | same | same
      all_goals
        rw [same]
        constructor <;> intro _ equal <;> cases equal)
    (by decide)

end

end Stitch.Transport.TurnIntegrity
