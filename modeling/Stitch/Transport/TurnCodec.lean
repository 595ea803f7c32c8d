import Stitch.Transport.TurnMessage

/-!
# The message codec is inverse to itself

A message type interleaves the bits of the method and the class, and the XOR of an address is its
own inverse.
-/

namespace Stitch.Transport.TurnCodec

open Foundation.ByteLayout Foundation.BitFields TurnMessage

section

variable (method raw : UInt16) (kind : TurnMessage.Class)

theorem message_type_value :
    (messageType method kind).toNat =
      method.toNat / 128 % 32 * 512 + kind.bits.toNat / 2 % 2 * 256 + method.toNat / 16 % 8 * 32 +
        kind.bits.toNat % 2 * 16 + method.toNat % 16 := by
  have high : ((method &&& 0x0F80) <<< 2).toNat = method.toNat / 128 % 32 * 2 ^ 9 :=
    @field_up _ 2 7 5 2 method rfl rfl (by decide) (by decide)
  have upper : ((kind.bits &&& 0x02) <<< 7).toNat = kind.bits.toNat / 2 % 2 * 2 ^ 8 :=
    @field_up _ 7 1 1 7 kind.bits rfl rfl (by decide) (by decide)
  have middle : ((method &&& 0x0070) <<< 1).toNat = method.toNat / 16 % 8 * 2 ^ 5 :=
    @field_up _ 1 4 3 1 method rfl rfl (by decide) (by decide)
  have lower : ((kind.bits &&& 0x01) <<< 4).toNat = kind.bits.toNat / 1 % 2 * 2 ^ 4 :=
    @field_up _ 4 0 1 4 kind.bits rfl rfl (by decide) (by decide)
  have low : (method &&& 0x000F).toNat = method.toNat % 16 := @field_low _ 4 method rfl
  have two := @join_fields _ ((kind.bits &&& 0x02) <<< 7) _ _ high (by omega)
  have three := @join_fields _ ((method &&& 0x0070) <<< 1)
    (method.toNat / 128 % 32 * 2 + kind.bits.toNat / 2 % 2) 8 (by rw [two]; omega) (by omega)
  have four := @join_fields _ ((kind.bits &&& 0x01) <<< 4)
    (method.toNat / 128 % 32 * 16 + kind.bits.toNat / 2 % 2 * 8 + method.toNat / 16 % 8) 5
    (by rw [three]; omega) (by omega)
  have five := @join_fields _ (method &&& 0x000F)
    (method.toNat / 128 % 32 * 32 + kind.bits.toNat / 2 % 2 * 16 + method.toNat / 16 % 8 * 2 +
      kind.bits.toNat % 2) 4 (by rw [four]; omega) (by omega)
  unfold messageType
  omega

theorem decode_type_method :
    (decodeType raw).1.toNat =
      raw.toNat / 512 % 32 * 128 + raw.toNat / 32 % 8 * 16 + raw.toNat % 16 := by
  have high : ((raw &&& 0x3E00) >>> 2).toNat = raw.toNat / 512 % 32 * 2 ^ 7 :=
    @field_down _ 2 9 5 2 raw rfl rfl (by decide) (by decide)
  have middle : ((raw &&& 0x00E0) >>> 1).toNat = raw.toNat / 32 % 8 * 2 ^ 4 :=
    @field_down _ 1 5 3 1 raw rfl rfl (by decide) (by decide)
  have low : (raw &&& 0x000F).toNat = raw.toNat % 16 := @field_low _ 4 raw rfl
  have two := @join_fields _ ((raw &&& 0x00E0) >>> 1) _ _ high (by omega)
  have three := @join_fields _ (raw &&& 0x000F)
    (raw.toNat / 512 % 32 * 8 + raw.toNat / 32 % 8) 4 (by rw [two]; omega) (by omega)
  unfold decodeType
  rw [three]
  omega

theorem decode_type_class :
    ∃ bits : UInt16, (decodeType raw).2 = Class.fromBits bits ∧
      bits.toNat = raw.toNat / 256 % 2 * 2 + raw.toNat / 16 % 2 := by
  have upper : ((raw &&& 0x0100) >>> 7).toNat = raw.toNat / 256 % 2 * 2 ^ 1 :=
    @field_down _ 7 8 1 7 raw rfl rfl (by decide) (by decide)
  have lower : ((raw &&& 0x0010) >>> 4).toNat = raw.toNat / 16 % 2 * 2 ^ 0 :=
    @field_down _ 4 4 1 4 raw rfl rfl (by decide) (by decide)
  refine ⟨_, rfl, ?_⟩
  rw [join_fields upper (by omega), lower]
  omega

theorem from_bits_bits (bits : UInt16) (same : bits.toNat = kind.bits.toNat) :
    Class.fromBits bits = kind := by
  rw [UInt16.toNat_inj.mp same]
  cases kind with
  | request | indication | success | error => rfl

theorem bits_from_bits (bits : UInt16) (small : bits.toNat < 4) :
    (Class.fromBits bits).bits = bits := by
  have whole : bits = UInt16.ofNat bits.toNat := UInt16.ofNat_toNat.symm
  rw [whole]
  have four : bits.toNat = 0 ∨ bits.toNat = 1 ∨ bits.toNat = 2 ∨ bits.toNat = 3 := by omega
  rcases four with value | value | value | value
  · rw [value]
    rfl
  · rw [value]
    rfl
  · rw [value]
    rfl
  · rw [value]
    rfl

theorem class_bits_lt : kind.bits.toNat < 4 := by
  cases kind with
  | request | indication | success | error => decide

variable {high low middle whole : Nat}

theorem type_fields {upper lower : Nat}
    (joined : whole = high * 512 + upper * 256 + middle * 32 + lower * 16 + low) (highs : high < 32)
    (uppers : upper < 2) (middles : middle < 8) (lowers : lower < 2) (lows : low < 16) :
    whole / 512 % 32 = high ∧ whole / 256 % 2 = upper ∧ whole / 32 % 8 = middle ∧
      whole / 16 % 2 = lower ∧ whole % 16 = low := by
  refine ⟨?_, ?_, ?_, ?_, ?_⟩
  · omega
  · omega
  · omega
  · omega
  · omega

theorem method_fields (joined : whole = high * 128 + middle * 16 + low) (highs : high < 32)
    (middles : middle < 8) (lows : low < 16) :
    whole / 128 % 32 = high ∧ whole / 16 % 8 = middle ∧ whole % 16 = low := by
  refine ⟨?_, ?_, ?_⟩
  · omega
  · omega
  · omega

theorem join_method (small : whole < 4096) :
    whole / 128 % 32 * 128 + whole / 16 % 8 * 16 + whole % 16 = whole := by
  omega

theorem join_class {bits : Nat} (small : bits < 4) : bits / 2 % 2 * 2 + bits % 2 = bits := by
  omega

theorem join_type (small : whole < 16384) :
    whole / 512 % 32 * 512 + whole / 256 % 2 * 256 + whole / 32 % 8 * 32 + whole / 16 % 2 * 16 +
      whole % 16 = whole := by
  omega

theorem decode_type_message_type (small : method < 0x1000) :
    decodeType (messageType method kind) = (method, kind) := by
  have bits := class_bits_lt kind
  have bound : method.toNat < 4096 := small
  obtain ⟨high, upper, middle, lower, low⟩ := type_fields (message_type_value method kind)
    (Nat.mod_lt _ (by decide)) (Nat.mod_lt _ (by decide)) (Nat.mod_lt _ (by decide))
    (Nat.mod_lt _ (by decide)) (Nat.mod_lt _ (by decide))
  apply Prod.ext
  · apply UInt16.toNat_inj.mp
    rw [decode_type_method, high, middle, low]
    exact join_method bound
  · obtain ⟨found, read, same⟩ := decode_type_class (messageType method kind)
    rw [read]
    apply from_bits_bits
    rw [same, upper, lower]
    exact join_class bits

theorem and_top_bits : (raw &&& 0xC000 = 0) ↔ raw.toNat < 16384 := by
  have masked : (raw &&& 0xC000).toNat = raw.toNat / 16384 % 4 * 16384 := by
    exact and_mask raw.toNat 14 2
  have bound := raw.toNat_lt
  constructor
  · intro clear
    rw [clear] at masked
    have zero : (0 : UInt16).toNat = 0 := rfl
    omega
  · intro small
    apply UInt16.toNat_inj.mp
    have zero : (0 : UInt16).toNat = 0 := rfl
    omega

theorem message_type_decode_type (clear : raw &&& 0xC000 = 0) :
    messageType (decodeType raw).1 (decodeType raw).2 = raw := by
  have bound := (and_top_bits raw).mp clear
  obtain ⟨bits, read, same⟩ := decode_type_class raw
  have small : bits.toNat < 4 := by omega
  have upper : bits.toNat / 2 % 2 = raw.toNat / 256 % 2 := by omega
  have lower : bits.toNat % 2 = raw.toNat / 16 % 2 := by omega
  obtain ⟨high, middle, low⟩ := method_fields (decode_type_method raw)
    (Nat.mod_lt _ (by decide)) (Nat.mod_lt _ (by decide)) (Nat.mod_lt _ (by decide))
  apply UInt16.toNat_inj.mp
  rw [message_type_value, read, bits_from_bits bits small, high, upper, middle, lower, low]
  exact join_type bound

theorem message_type_lt : (messageType method kind).toNat < 16384 := by
  have value := message_type_value method kind
  omega

end

section

variable (txn : TransactionId)

def SocketAddr.Plain : SocketAddr → Prop
  | .v4 _ _ => True
  | .v6 _ _ flowinfo scopeId => flowinfo = 0 ∧ scopeId = 0

theorem address_port (family : UInt8) (port : UInt16) (rest : List UInt8) :
    readU16 (slice ([0, family] ++ beBytes 2 port.toNat ++ rest) 2 4) = port := by
  have found : slice ([0, family] ++ beBytes 2 port.toNat ++ rest) 2 4 = beBytes 2 port.toNat := by
    rw [List.append_assoc]
    exact slice_middle rfl (by simp)
  rw [found, read_u16_be_bytes]

theorem address_rest (family : UInt8) (port : UInt16) (rest : List UInt8) {stop : Nat}
    (size : 4 + rest.length = stop) :
    slice ([0, family] ++ beBytes 2 port.toNat ++ rest) 4 stop = rest := by
  have found := @slice_middle ([0, family] ++ beBytes 2 port.toNat) rest [] 4 stop (by simp) size
  rwa [List.append_nil] at found

theorem address_length (family : UInt8) (port : UInt16) (rest : List UInt8) :
    ([0, family] ++ beBytes 2 port.toNat ++ rest).length = 4 + rest.length := by
  simp
  omega

variable {addr : SocketAddr}

theorem decode_plain_address_encode (plain : SocketAddr.Plain addr) :
    decodePlainAddress (encodePlainAddress addr) = .ok addr := by
  cases addr with
  | v4 ip port =>
    rw [encodePlainAddress, decodePlainAddress, address_length, be_bytes_length,
      address_port, address_rest _ _ _ (by rw [be_bytes_length]), read_u32_be_bytes]
    rfl
  | v6 octets port flowinfo scopeId =>
    obtain ⟨rfl, rfl⟩ := plain
    rw [encodePlainAddress, decodePlainAddress, address_length, octets.size,
      address_port, @address_rest _ _ _ 20 (by rw [octets.size]), copy_block]
    rfl

theorem zip_xor_twice {bytes keys : List UInt8} (size : bytes.length ≤ keys.length) :
    List.zipWith (fun octet key => octet ^^^ key)
        (List.zipWith (fun octet key => octet ^^^ key) bytes keys) keys = bytes := by
  induction bytes generalizing keys with
  | nil => rfl
  | cons byte rest ih =>
    cases keys with
    | nil => cases size
    | cons key keys =>
      rw [List.zipWith_cons_cons, List.zipWith_cons_cons, ih (Nat.le_of_succ_le_succ size),
        UInt8.xor_assoc, UInt8.xor_self, UInt8.xor_zero]

theorem xor_with_key_twice (octets : Block 16) :
    xorWithKey (xorWithKey octets txn) txn = octets := by
  apply Block.ext
  apply zip_xor_twice
  rw [octets.size, List.length_append, be_bytes_length, txn.size]

theorem decode_xor_address_encode (plain : SocketAddr.Plain addr) :
    decodeXorAddress (encodeXorAddress addr txn) txn = .ok addr := by
  cases addr with
  | v4 ip port =>
    rw [encodeXorAddress, decodeXorAddress, address_length, be_bytes_length,
      address_port, address_rest _ _ _ (by rw [be_bytes_length]), read_u32_be_bytes,
      UInt16.xor_assoc, UInt16.xor_self, UInt16.xor_zero, UInt32.xor_assoc, UInt32.xor_self,
      UInt32.xor_zero]
    rfl
  | v6 octets port flowinfo scopeId =>
    obtain ⟨rfl, rfl⟩ := plain
    rw [encodeXorAddress, decodeXorAddress, address_length, (xorWithKey octets txn).size,
      address_port, @address_rest _ _ _ 20 (by rw [(xorWithKey octets txn).size]), copy_block,
      xor_with_key_twice, UInt16.xor_assoc, UInt16.xor_self, UInt16.xor_zero]
    rfl

end

section

variable (library : Primitives) (txn : TransactionId)

def knownTypes : List UInt16 :=
  [attrMappedAddress, attrXorMappedAddress, attrXorPeerAddress, attrXorRelayedAddress,
    attrUsername, attrRealm, attrNonce, attrSoftware, attrMessageIntegrity, attrFingerprint,
    attrErrorCode, attrLifetime, attrRequestedTransport, attrChannelNumber, attrData,
    attrDontFragment]

/-- The hundreds of error codes fit a byte, addresses have no flow label and scope id, and other
attributes have types of their own. -/
def Attribute.Carried : Attribute → Prop
  | .mappedAddress addr => SocketAddr.Plain addr
  | .xorMappedAddress addr => SocketAddr.Plain addr
  | .xorPeerAddress addr => SocketAddr.Plain addr
  | .xorRelayedAddress addr => SocketAddr.Plain addr
  | .errorCode code _ => code ≤ 25599
  | .unknown typ _ => typ ∉ knownTypes
  | _ => True

theorem decode_string_text (text : String) : decodeString (utf8Bytes text) = .ok text := by
  rw [decodeString, from_utf8_utf8_bytes]

theorem error_code_digits {code : UInt16} (small : code ≤ 25599) :
    (code / 100).toUInt8.toUInt16 * 100 + (code % 100).toUInt8.toUInt16 = code := by
  have bound : code.toNat ≤ 25599 := small
  apply UInt16.toNat_inj.mp
  simp only [UInt16.toNat_add, UInt16.toNat_mul, UInt8.toNat_toUInt16, UInt16.toNat_toUInt8,
    UInt16.toNat_div, UInt16.toNat_mod]
  have hundred : (100 : UInt16).toNat = 100 := rfl
  have hundreds : code.toNat / 100 < 2 ^ 8 := by omega
  have digits : code.toNat % 100 < 2 ^ 8 := by omega
  rw [hundred, Nat.mod_eq_of_lt hundreds, Nat.mod_eq_of_lt digits]
  omega

variable {attr : Attribute} {Value : Type} {read : Except TurnError Value} {typ : UInt16}

theorem decode_attribute_raw (carried : Attribute.Carried attr) :
    decodeAttribute library (rawAttribute attr txn).typ (rawAttribute attr txn).value txn =
      .ok attr := by
  cases attr with
  | mappedAddress addr =>
    change (decodePlainAddress (encodePlainAddress addr)).map _ = _
    rw [decode_plain_address_encode carried]
    rfl
  | xorMappedAddress addr | xorPeerAddress addr | xorRelayedAddress addr =>
    change (decodeXorAddress (encodeXorAddress addr txn) txn).map _ = _
    rw [decode_xor_address_encode txn carried]
    rfl
  | username text | realm text | nonce text | software text =>
    change (decodeString (utf8Bytes text)).map _ = _
    rw [decode_string_text]
    rfl
  | messageIntegrity mac =>
    change (if mac.bytes.length ≠ 20 then _ else _) = _
    rw [if_neg (not_not.mpr mac.size)]
    exact congrArg (fun block => Except.ok (Attribute.messageIntegrity block)) (copy_block mac)
  | fingerprint crc =>
    change Except.ok (Attribute.fingerprint (readU32 (slice (beBytes 4 crc.toNat) 0 4))) = _
    rw [slice_zero, List.take_of_length_le (be_bytes_length 4 _).le, read_u32_be_bytes]
  | errorCode code reason =>
    change Except.ok (Attribute.errorCode ((code / 100).toUInt8.toUInt16 * 100 +
      (code % 100).toUInt8.toUInt16) (fromUtf8Lossy library (utf8Bytes reason))) = _
    rw [error_code_digits carried, fromUtf8Lossy, from_utf8_utf8_bytes, Option.getD_some]
  | lifetime seconds =>
    change Except.ok (Attribute.lifetime (readU32 (slice (beBytes 4 seconds.toNat) 0 4))) = _
    rw [slice_zero, List.take_of_length_le (be_bytes_length 4 _).le, read_u32_be_bytes]
  | requestedTransport proto => rfl
  | channelNumber number =>
    change Except.ok (Attribute.channelNumber
      (readU16 (slice (beBytes 2 number.toNat ++ [0, 0]) 0 2))) = _
    rw [slice_append_left (be_bytes_length 2 _), read_u16_be_bytes]
  | data bytes | dontFragment => rfl
  | unknown typ value =>
    have other : ∀ known ∈ knownTypes, typ ≠ known := by
      intro known member same
      rw [same] at carried
      exact carried member
    simp only [knownTypes, List.forall_mem_cons] at other
    simp only [rawAttribute, decodeAttribute, other, if_false]

theorem map_ok {Other : Type} {make : Value → Other} {result : Other}
    (made : read.map make = .ok result) :
    ∃ value, read = .ok value ∧ make value = result := by
  cases read with
  | error failure => cases made
  | ok value => exact ⟨value, rfl, Except.ok.inj made⟩

/-- What is read, if anything, is written under the given type. -/
def ReadUnder (typ : UInt16) (result : Except TurnError Attribute) : Prop :=
  ∀ attr, result = .ok attr → (rawAttribute attr txn).typ = typ

theorem read_under_if {known : UInt16} {here rest : Except TurnError Attribute}
    (found : ReadUnder txn known here) (other : ReadUnder txn typ rest) :
    ReadUnder txn typ (if typ = known then here else rest) := by
  by_cases named : typ = known
  · rw [if_pos named, named]
    exact found
  · rw [if_neg named]
    exact other

theorem read_under_map {make : Value → Attribute}
    (named : ∀ value, (rawAttribute (make value) txn).typ = typ) :
    ReadUnder txn typ (read.map make) := by
  intro attr made
  obtain ⟨value, -, same⟩ := map_ok made
  rw [← same]
  exact named value

theorem read_under_checked {short : Prop} [Decidable short] {failure : TurnError}
    (named : (rawAttribute attr txn).typ = typ) :
    ReadUnder txn typ (if short then .error failure else .ok attr) := by
  intro other read
  split_ifs at read with cut
  rw [← Except.ok.inj read]
  exact named

theorem read_under_ok (named : (rawAttribute attr txn).typ = typ) :
    ReadUnder txn typ (.ok attr) := by
  intro other read
  rw [← Except.ok.inj read]
  exact named

theorem decode_attribute_typ (typ : UInt16) (value : List UInt8) :
    ReadUnder txn typ (decodeAttribute library typ value txn) := by
  iterate 8 refine read_under_if txn (read_under_map txn (fun _ => rfl)) ?_
  iterate 6 refine read_under_if txn (read_under_checked txn rfl) ?_
  iterate 2 refine read_under_if txn (read_under_ok txn rfl) ?_
  exact read_under_ok txn rfl

end

end Stitch.Transport.TurnCodec
