import Stitch.Transport.TurnCodec

/-!
# Encoded messages

An encoded message is a header with the length of its body, followed by the records of its
attributes; the attributes the encoder adds are records like the others. The decoder is run
over that shape.
-/

namespace Stitch.Transport.TurnFrames

open Foundation.ByteLayout Foundation.PaddedRecords TurnMessage TurnCodec

section

variable {typ : UInt16} {length : Nat} {txn : TransactionId} {raws : List RawRecord}

def frame (typ : UInt16) (length : Nat) (txn : TransactionId) (raws : List RawRecord) :
    List UInt8 :=
  [beBytes 2 typ.toNat, beBytes 2 length, beBytes 4 magicCookie.toNat, txn.bytes,
    raws.flatMap RawRecord.bytes].flatten

theorem frame_length :
    (frame typ length txn raws).length = headerLen + (raws.flatMap RawRecord.bytes).length := by
  simp [frame, txn.size, headerLen]
  omega

theorem set_length_frame (later : Nat) :
    setLength (frame typ length txn raws) later = frame typ later txn raws := by
  rfl

theorem push_raw_frame (record : UInt16) (value : List UInt8) :
    pushRawAttribute (frame typ length txn raws) record value =
      frame typ length txn (raws ++ [⟨record, value⟩]) := by
  simp [pushRawAttribute, frame]

theorem raw_type_frame : rawType (frame typ length txn raws) = typ := by
  rw [rawType, frame, slice_flatten 0 rfl (by simp) (by simp), read_u16_be_bytes]

theorem message_length_frame (fits : length < 65536) :
    messageLength (frame typ length txn raws) = length := by
  rw [messageLength, frame, slice_flatten 1 rfl (by simp) (by simp)]
  exact be_value_be_bytes_of_lt fits

theorem cookie_frame : readU32 (slice (frame typ length txn raws) 4 8) = magicCookie := by
  rw [frame, slice_flatten 2 rfl (by simp) (by simp), read_u32_be_bytes]

theorem transaction_frame : transactionOf (frame typ length txn raws) = txn := by
  rw [transactionOf, frame, slice_flatten 3 rfl (by simp) (by simp [txn.size]), copy_block]

theorem body_frame (whole : length = (raws.flatMap RawRecord.bytes).length)
    (fits : length < 65536) :
    bodyOf (frame typ length txn raws) = raws.flatMap RawRecord.bytes := by
  rw [bodyOf, message_length_frame fits, frame]
  exact slice_flatten 4 rfl (by simp [txn.size, headerLen]) (by rw [whole])

variable (library : Primitives) (message : Message) (key : Option (List UInt8)) (fingerprint : Bool)

/-- The attribute added under a key, which signs the message as it is without it and with the
length it will have. -/
def integrityAttribute : List Attribute :=
  match key with
  | none => []
  | some key =>
    [.messageIntegrity (library.hmacSha1 key (setLength (encodeAttributes message)
      ((encodeAttributes message).length - headerLen + 24)))]

/-- The attribute added on request, after the one under the key. -/
def fingerprintAttribute : List Attribute :=
  let buf := addIntegrity library key (encodeAttributes message)
  if fingerprint then
    [.fingerprint (library.crc32 (setLength buf (buf.length - headerLen + 8)) ^^^ fingerprintXor)]
  else []

def encodedAttributes : List Attribute :=
  message.attributes ++ integrityAttribute library message key ++
    fingerprintAttribute library message key fingerprint

/-- The bytes with the type and the transaction of the message, and these attributes. -/
def attributeFrame (length : Nat) (attributes : List Attribute) : List UInt8 :=
  frame (messageType message.method message.kind) length message.transactionId
    (attributes.map (fun attr => rawAttribute attr message.transactionId))

theorem encode_attributes_frame :
    encodeAttributes message = attributeFrame message 0 message.attributes := by
  have folded : ∀ (attributes : List Attribute) (raws : List RawRecord),
      attributes.foldl (encodeAttribute message.transactionId)
          (frame (messageType message.method message.kind) 0 message.transactionId raws) =
        frame (messageType message.method message.kind) 0 message.transactionId
          (raws ++ attributes.map (fun attr => rawAttribute attr message.transactionId)) := by
    intro attributes
    induction attributes with
    | nil =>
      intro raws
      rw [List.map_nil, List.append_nil, List.foldl_nil]
    | cons attr rest ih =>
      intro raws
      rw [List.foldl_cons, encodeAttribute, push_raw_frame, ih, List.map_cons, List.append_assoc]
      rfl
  have start := folded message.attributes []
  rw [List.nil_append] at start
  rw [attributeFrame, ← start, encodeAttributes]
  simp [frame, beBytes]

theorem set_length_encoded (length : Nat) :
    setLength (encodeAttributes message) length =
      attributeFrame message length message.attributes := by
  rw [encode_attributes_frame]
  exact set_length_frame length

theorem encode_attributes_length :
    (encodeAttributes message).length - headerLen =
      ((message.attributes.map (fun attr => rawAttribute attr message.transactionId)).flatMap
        RawRecord.bytes).length := by
  rw [encode_attributes_frame, attributeFrame, frame_length, Nat.add_sub_cancel_left]

theorem push_attribute_frame (length : Nat) (attributes : List Attribute) (attr : Attribute) :
    pushRawAttribute (attributeFrame message length attributes)
        (rawAttribute attr message.transactionId).typ
        (rawAttribute attr message.transactionId).value =
      attributeFrame message length (attributes ++ [attr]) := by
  rw [attributeFrame, push_raw_frame, attributeFrame, List.map_append]
  rfl

theorem add_integrity_frame :
    ∃ length, addIntegrity library key (encodeAttributes message) =
      attributeFrame message length
        (message.attributes ++ integrityAttribute library message key) := by
  cases key with
  | none =>
    refine ⟨0, ?_⟩
    rw [addIntegrity, integrityAttribute, List.append_nil, encode_attributes_frame]
  | some key =>
    refine ⟨(encodeAttributes message).length - headerLen + 24, ?_⟩
    rw [integrityAttribute, addIntegrity, ← push_attribute_frame, set_length_encoded]
    rfl

theorem add_fingerprint_frame :
    ∃ length, addFingerprint library fingerprint
        (addIntegrity library key (encodeAttributes message)) =
      attributeFrame message length (encodedAttributes library message key fingerprint) := by
  obtain ⟨length, signed⟩ := add_integrity_frame library message key
  cases fingerprint with
  | false =>
    refine ⟨length, ?_⟩
    rw [addFingerprint, encodedAttributes, fingerprintAttribute, signed]
    simp
  | true =>
    refine ⟨(addIntegrity library key (encodeAttributes message)).length - headerLen + 8, ?_⟩
    rw [encodedAttributes, fingerprintAttribute, addFingerprint]
    rw [if_pos rfl, if_pos rfl, ← push_attribute_frame, signed, attributeFrame, attributeFrame,
      set_length_frame]
    rfl

theorem encode_frame :
    encode library message key fingerprint =
      attributeFrame message
        ((encode library message key fingerprint).length - headerLen)
        (encodedAttributes library message key fingerprint) := by
  obtain ⟨length, whole⟩ := add_fingerprint_frame library message key fingerprint
  have shape : encode library message key fingerprint =
      attributeFrame message
        ((attributeFrame message length
          (encodedAttributes library message key fingerprint)).length - headerLen)
        (encodedAttributes library message key fingerprint) := by
    rw [encode, whole]
    exact set_length_frame _
  have size : (encode library message key fingerprint).length =
      (attributeFrame message length
        (encodedAttributes library message key fingerprint)).length := by
    rw [shape, attributeFrame, attributeFrame, frame_length, frame_length]
  rw [size]
  exact shape

end

section

variable (library : Primitives) (txn : TransactionId)
variable {attributes held : List Attribute} {bodyLength : Nat}

theorem attribute_scanner_run {offset : Nat} (carried : ∀ attr ∈ attributes, Attribute.Carried attr)
    :
    (attributeScanner library txn bodyLength).run (.finished bodyLength)
        (placed offset (attributes.map (fun attr => rawAttribute attr txn))) held =
      .ok (held ++ attributes) := by
  induction attributes generalizing held offset with
  | nil =>
    rw [List.map_nil, placed, Scanner.run, List.append_nil]
    exact if_neg (not_not.mpr rfl)
  | cons attr rest ih =>
    have here := decode_attribute_raw library txn (carried attr List.mem_cons_self)
    have visited : (attributeScanner library txn bodyLength).visit held offset
        (rawAttribute attr txn) = .onward (held ++ [attr]) := by
      simp only [attributeScanner, here]
    rw [List.map_cons, placed, Scanner.run, visited]
    dsimp only
    rw [ih (fun other member => carried other (List.mem_cons_of_mem attr member)),
      List.append_assoc]
    rfl

theorem decode_frame {typ : UInt16} {length : Nat} (clear : typ &&& 0xC000 = 0)
    (fits : length < 65536) (whole : length =
      ((attributes.map (fun attr => rawAttribute attr txn)).flatMap RawRecord.bytes).length)
    (carried : ∀ attr ∈ attributes, Attribute.Carried attr) :
    decode library (frame typ length txn (attributes.map (fun attr => rawAttribute attr txn))) =
      .ok ⟨(decodeType typ).1, (decodeType typ).2, txn, attributes⟩ := by
  have small : ∀ raw ∈ attributes.map (fun attr => rawAttribute attr txn),
      raw.value.length < 65536 := by
    intro raw member
    have below := value_length_le_layout member
    omega
  rw [decode, raw_type_frame, message_length_frame fits, cookie_frame, transaction_frame,
    body_frame whole fits, frame_length, if_neg (by omega), if_neg (not_not.mpr clear),
    if_neg (not_not.mpr rfl), if_neg (by omega), scan_eq_run, entries_layout small,
    attribute_scanner_run library txn carried]
  rfl

def ReadAs (records : List Entry) (attributes : List Attribute) : Prop :=
  List.Forall₂
    (fun entry attr => decodeAttribute library entry.raw.typ entry.raw.value txn = .ok attr)
    records attributes

theorem attribute_scanner_ok {ending : Ending} {records : List Entry}
    (scanned : (attributeScanner library txn bodyLength).run ending records held = .ok attributes) :
    ∃ read, attributes = held ++ read ∧ ReadAs library txn records read := by
  induction records generalizing held with
  | nil =>
    cases ending with
    | finished offset =>
      simp only [Scanner.run, attributeScanner] at scanned
      split_ifs at scanned with trailing
      exact ⟨[], by rw [List.append_nil, Except.ok.inj scanned], .nil⟩
    | overran => cases scanned
  | cons entry rest ih =>
    rw [Scanner.run] at scanned
    cases read : decodeAttribute library entry.raw.typ entry.raw.value txn with
    | error failure =>
      simp only [attributeScanner, read] at scanned
      cases scanned
    | ok attr =>
      have visited : (attributeScanner library txn bodyLength).visit held entry.offset
          entry.raw = .onward (held ++ [attr]) := by
        simp only [attributeScanner, read]
      rw [visited] at scanned
      obtain ⟨later, whole, others⟩ := ih scanned
      refine ⟨attr :: later, ?_, .cons read others⟩
      rw [whole, List.append_assoc]
      rfl

structure Decoded (buf : List UInt8) (message : Message) : Prop where
  clear : rawType buf &&& 0xC000 = 0
  inside : headerLen + messageLength buf ≤ buf.length
  header : decodeType (rawType buf) = (message.method, message.kind)
  transaction : transactionOf buf = message.transactionId
  attributes : ReadAs library message.transactionId (entries (bodyOf buf)).1 message.attributes

theorem decode_ok {buf : List UInt8} {message : Message}
    (read : decode library buf = .ok message) : Decoded library buf message := by
  unfold decode at read
  split_ifs at read with short typed cookie cut
  rw [scan_eq_run] at read
  obtain ⟨attributes, scanned, same⟩ := map_ok read
  obtain ⟨list, whole, others⟩ := attribute_scanner_ok library _ scanned
  subst same
  exact ⟨not_not.mp typed, Nat.le_of_not_lt cut, rfl, rfl, whole ▸ others⟩

variable (message : Message) (key : Option (List UInt8)) (fingerprint : Bool)

theorem encoded_attributes_carried
    (carried : ∀ attr ∈ message.attributes, Attribute.Carried attr) :
    ∀ attr ∈ encodedAttributes library message key fingerprint, Attribute.Carried attr := by
  intro attr member
  rcases List.mem_append.mp member with front | last
  · rcases List.mem_append.mp front with own | signed
    · exact carried attr own
    · cases key with
      | none => cases signed
      | some key =>
        rw [List.mem_singleton.mp signed]
        trivial
  · unfold fingerprintAttribute at last
    split_ifs at last with requested
    · rw [List.mem_singleton.mp last]
      trivial
    · cases last

theorem encode_length :
    (encode library message key fingerprint).length - headerLen =
      (((encodedAttributes library message key fingerprint).map
        (fun attr => rawAttribute attr message.transactionId)).flatMap RawRecord.bytes).length := by
  rw [encode_frame, attributeFrame, frame_length, Nat.add_sub_cancel_left]

theorem message_type_not_channel {buf : List UInt8}
    (low : (rawType buf).toNat < 16384) : isChannelData buf = false := by
  have outside : ¬ channelMin ≤ rawType buf := by
    intro inside
    have bound : 16384 ≤ (rawType buf).toNat := inside
    omega
  exact decide_eq_false (fun channel => outside channel.2.1)

theorem decode_encoded (method : message.method < 0x1000)
    (fits : (encode library message key fingerprint).length - headerLen < 65536)
    (carried : ∀ attr ∈ message.attributes, Attribute.Carried attr) :
    decode library (encode library message key fingerprint) =
      .ok { message with attributes := encodedAttributes library message key fingerprint } := by
  have low := message_type_lt message.method message.kind
  have shape := encode_frame library message key fingerprint
  have whole := encode_length library message key fingerprint
  rw [shape, attributeFrame, decode_frame library message.transactionId
    ((and_top_bits _).mpr low) fits whole
    (encoded_attributes_carried library message key fingerprint carried),
    decode_type_message_type _ _ method]

/-- An encoded message is decoded to itself with the attributes the encoder added. -/
theorem decode_encode (method : message.method < 0x1000)
    (fits : (encode library message key fingerprint).length - headerLen < 65536)
    (carried : ∀ attr ∈ message.attributes, Attribute.Carried attr) :
    decode library (encode library message key fingerprint) =
        .ok { message with attributes := message.attributes ++
          integrityAttribute library message key ++
          fingerprintAttribute library message key fingerprint } ∧
      messageLength (encode library message key fingerprint) =
        (encode library message key fingerprint).length - headerLen ∧
      messageLength (encode library message key fingerprint) % 4 = 0 ∧
      isChannelData (encode library message key fingerprint) = false := by
  have shape := encode_frame library message key fingerprint
  have field : messageLength (encode library message key fingerprint) =
      (encode library message key fingerprint).length - headerLen := by
    conv_lhs => rw [shape]
    exact message_length_frame fits
  have typ : rawType (encode library message key fingerprint) =
      messageType message.method message.kind := by
    rw [shape]
    exact raw_type_frame
  refine ⟨decode_encoded library message key fingerprint method fits carried, field, ?_, ?_⟩
  · rw [field, encode_length]
    exact layout_mod_four _
  · apply message_type_not_channel
    rw [typ]
    exact message_type_lt message.method message.kind

def sampleMessage : Message :=
  ⟨methodAllocate, .error, Block.copy 12 [7],
    [.xorRelayedAddress (.v6 (Block.copy 16 [32, 1, 13, 184]) 443 0 0), .errorCode 437 "",
      .unknown 0x7000 [1, 2, 3]]⟩

def sampleLibrary : Primitives :=
  ⟨fun _ _ => Block.copy 20 [1], fun _ => 2, fun _ => ""⟩

theorem decode_encode_sample :
    decode sampleLibrary (encode sampleLibrary sampleMessage (some [9]) true) =
      .ok { sampleMessage with attributes := sampleMessage.attributes ++
        [.messageIntegrity (Block.copy 20 [1]), .fingerprint (2 ^^^ fingerprintXor)] } :=
  (decode_encode sampleLibrary sampleMessage (some [9]) true (by decide) (by decide)
    (by
      intro attr member
      simp only [sampleMessage, List.mem_cons, List.not_mem_nil, or_false] at member
      rcases member with same | same | same
      · rw [same]
        exact ⟨rfl, rfl⟩
      · rw [same]
        exact show (437 : UInt16) ≤ 25599 by decide
      · rw [same]
        exact show (0x7000 : UInt16) ∉ knownTypes by decide)).1

end

end Stitch.Transport.TurnFrames
