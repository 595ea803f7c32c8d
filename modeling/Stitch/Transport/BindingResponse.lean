import Stitch.Transport.TurnFrames

/-!
# The binding response parser

Transcription of the parser of `stun.rs`: a later address takes the place of an earlier one, and
a mapped address that is not IPv4 takes it with nothing.
-/

namespace Stitch.Transport.BindingResponse

open Foundation.ByteLayout Foundation.PaddedRecords TurnMessage TurnCodec TurnFrames

def stunMagic : UInt32 := 0x2112A442

def stunHeaderLen : Nat := 20

def stunBindingResponse : UInt16 := 0x0101

section

variable (txn : TransactionId)

def parseXorMappedAddress (value : List UInt8) : Except String SocketAddr :=
  if value.length < 8 then .error "XOR-MAPPED-ADDRESS too short"
  else
    let port := readU16 (slice value 2 4) ^^^ (stunMagic >>> 16).toUInt16
    if byteOf value 1 = 0x01 then .ok (.v4 (readU32 (slice value 4 8) ^^^ stunMagic) port)
    else if byteOf value 1 = 0x02 then
      if value.length < 20 then .error "XOR-MAPPED-ADDRESS IPv6 too short"
      else .ok (.v6 (xorWithKey (Block.copy 16 (slice value 4 20)) txn) port 0 0)
    else .error ("unknown address family: " ++ hexPadded 4 (byteOf value 1).toNat)

def parseMappedAddress (value : List UInt8) : Except String SocketAddr :=
  if value.length < 8 then .error "MAPPED-ADDRESS too short"
  else
    let port := readU16 (slice value 2 4)
    if byteOf value 1 = 0x01 then .ok (.v4 (readU32 (slice value 4 8)) port)
    else .error ("unsupported MAPPED-ADDRESS family: " ++ hexPadded 4 (byteOf value 1).toNat)

def pickAddress (found : Option SocketAddr × Option SocketAddr) : Except String SocketAddr :=
  match found.1.or found.2 with
  | some addr => .ok addr
  | none => .error "no mapped address in response"

/-- The loop over the attributes; it holds the addresses found so far. -/
def addressScanner :
    Scanner (Option SocketAddr × Option SocketAddr) (Except String SocketAddr) where
  visit found _ raw :=
    if raw.typ = attrXorMappedAddress then
      .onward ((parseXorMappedAddress txn raw.value).toOption, found.2)
    else if raw.typ = attrMappedAddress then
      .onward (found.1, (parseMappedAddress raw.value).toOption)
    else .onward found
  overrun := pickAddress
  finish found _ := pickAddress found

def parseBindingResponse (buf : List UInt8) : Except String SocketAddr :=
  if buf.length < stunHeaderLen then .error "response too short"
  else if rawType buf ≠ stunBindingResponse then
    .error ("unexpected message type: " ++ hexPadded 6 (rawType buf).toNat)
  else if slice buf 8 20 ≠ txn.bytes then .error "transaction ID mismatch"
  else
    let attrs := slice buf stunHeaderLen
      (stunHeaderLen + min (messageLength buf) (buf.length - stunHeaderLen))
    (addressScanner txn).scan attrs (none, none)

def Attribute.asMappedAddress : Attribute → Option SocketAddr
  | .mappedAddress addr => some addr
  | _ => none

def xorAddresses (attributes : List Attribute) : List SocketAddr :=
  attributes.filterMap Attribute.asXorMappedAddress

def mappedAddresses (attributes : List Attribute) : List SocketAddr :=
  attributes.filterMap Attribute.asMappedAddress

def ipv4Only : SocketAddr → Option SocketAddr
  | .v4 ip port => some (.v4 ip port)
  | .v6 .. => none

variable {value : List UInt8} {addr : SocketAddr}

theorem parse_xor_of_decode {txn : TransactionId} (read : decodeXorAddress value txn = .ok addr) :
    parseXorMappedAddress txn value = .ok addr := by
  unfold decodeXorAddress at read
  unfold parseXorMappedAddress
  split_ifs at read ⊢ with short four six long
  · rw [← Except.ok.inj read]
    rfl
  · rw [← Except.ok.inj read]
    rfl

theorem parse_mapped_of_decode (read : decodePlainAddress value = .ok addr) :
    (parseMappedAddress value).toOption = ipv4Only addr := by
  unfold decodePlainAddress at read
  unfold parseMappedAddress
  split_ifs at read ⊢ with short four six long
  · rw [← Except.ok.inj read]
    rfl
  · rw [← Except.ok.inj read]
    rfl

end

section

variable (library : Primitives) (txn : TransactionId)

/-- What the loop holds after the attributes: of each kind the last one counts. -/
def heldAfter (found : Option SocketAddr × Option SocketAddr) (attributes : List Attribute) :
    Option SocketAddr × Option SocketAddr :=
  ((xorAddresses attributes).foldl (fun _ addr => some addr) found.1,
    (mappedAddresses attributes).foldl (fun _ addr => ipv4Only addr) found.2)

theorem visit_read {entry : Entry} {attr : Attribute}
    (read : decodeAttribute library entry.raw.typ entry.raw.value txn = .ok attr)
    (found : Option SocketAddr × Option SocketAddr) :
    (addressScanner txn).visit found entry.offset entry.raw =
      .onward (heldAfter found [attr]) := by
  have named := decode_attribute_typ library txn _ _ attr read
  by_cases xored : entry.raw.typ = attrXorMappedAddress
  · rw [xored] at read
    have mapped : (decodeXorAddress entry.raw.value txn).map Attribute.xorMappedAddress =
        .ok attr := read
    obtain ⟨addr, decoded, same⟩ := map_ok mapped
    simp only [addressScanner, if_pos xored, parse_xor_of_decode decoded]
    rw [← same]
    rfl
  · by_cases plain : entry.raw.typ = attrMappedAddress
    · rw [plain] at read
      have mapped : (decodePlainAddress entry.raw.value).map Attribute.mappedAddress =
          .ok attr := read
      obtain ⟨addr, decoded, same⟩ := map_ok mapped
      simp only [addressScanner, if_neg xored, if_pos plain, parse_mapped_of_decode decoded]
      rw [← same]
      rfl
    · simp only [addressScanner, if_neg xored, if_neg plain]
      cases attr with
      | xorMappedAddress addr => exact (xored named.symm).elim
      | mappedAddress addr => exact (plain named.symm).elim
      | _ => rfl

theorem held_after_cons (found : Option SocketAddr × Option SocketAddr) (attr : Attribute)
    (rest : List Attribute) :
    heldAfter found (attr :: rest) = heldAfter (heldAfter found [attr]) rest := by
  have front : attr :: rest = [attr] ++ rest := rfl
  rw [front]
  simp only [heldAfter, xorAddresses, mappedAddresses, List.filterMap_append, List.foldl_append]

theorem address_scanner_run {ending : Ending} {records : List Entry} {attributes : List Attribute}
    (read : ReadAs library txn records attributes)
    (found : Option SocketAddr × Option SocketAddr) :
    (addressScanner txn).run ending records found = pickAddress (heldAfter found attributes) := by
  induction read generalizing found with
  | nil =>
    cases ending with
    | finished offset | overran => rfl
  | cons first rest ih =>
    rw [Scanner.run, visit_read library txn first found]
    exact (ih _).trans (congrArg pickAddress (held_after_cons found _ _).symm)

theorem foldl_last {Value Held : Type} (make : Value → Held) (values : List Value) (held : Held) :
    values.foldl (fun _ value => make value) held = (values.getLast?.map make).getD held := by
  induction values generalizing held with
  | nil => rfl
  | cons value rest ih =>
    rw [List.foldl_cons, ih, List.getLast?_cons]
    cases rest.getLast? with
    | none | some last => rfl

theorem held_after_last (attributes : List Attribute) :
    heldAfter (none, none) attributes =
      ((xorAddresses attributes).getLast?,
        (mappedAddresses attributes).getLast?.bind ipv4Only) := by
  unfold heldAfter
  rw [foldl_last, foldl_last]
  apply Prod.ext
  · cases (xorAddresses attributes).getLast? with
    | none | some addr => rfl
  · cases (mappedAddresses attributes).getLast? with
    | none | some addr => rfl

theorem parse_decoded {buf : List UInt8} {message : Message}
    (read : decode library buf = .ok message) (method : message.method = methodBinding)
    (kind : message.kind = .success) :
    parseBindingResponse message.transactionId buf =
      pickAddress ((xorAddresses message.attributes).getLast?,
        (mappedAddresses message.attributes).getLast?.bind ipv4Only) := by
  have decoded := decode_ok library read
  have inside := decoded.inside
  have header : headerLen = 20 := rfl
  have stunHeader : stunHeaderLen = 20 := rfl
  have typ : rawType buf = stunBindingResponse := by
    have back := message_type_decode_type (rawType buf) decoded.clear
    rw [decoded.header, method, kind] at back
    exact back.symm
  have transaction : slice buf 8 20 = message.transactionId.bytes := by
    have size : (slice buf 8 20).length = 12 := slice_length (by omega)
    rw [← decoded.transaction, transactionOf, copy_bytes size]
  have body : stunHeaderLen + min (messageLength buf) (buf.length - stunHeaderLen) =
      headerLen + messageLength buf := by omega
  rw [parseBindingResponse, if_neg (by omega), if_neg (not_not.mpr typ),
    if_neg (not_not.mpr transaction), body]
  change (addressScanner message.transactionId).scan (bodyOf buf) (none, none) = _
  rw [scan_eq_run, address_scanner_run library _ decoded.attributes, held_after_last]

/-- The parser returns the first XOR-mapped address of the decoded message, or the first mapped one
when there is none. -/
def AgreesWithDecoder (parsed : Except String SocketAddr) (message : Message) : Prop :=
  ((∃ addr, parsed = .ok addr) ↔
      ∃ addr, .xorMappedAddress addr ∈ message.attributes ∨
        .mappedAddress addr ∈ message.attributes) ∧
    ∀ addr, parsed = .ok addr →
      some addr =
        message.xorMappedAddress.or (message.attributes.findSome? Attribute.asMappedAddress)

theorem pick_ok_iff (found : Option SocketAddr × Option SocketAddr) (addr : SocketAddr) :
    pickAddress found = .ok addr ↔ found.1.or found.2 = some addr := by
  unfold pickAddress
  cases found.1.or found.2 with
  | none | some other => simp

theorem first_address (message : Message) :
    message.xorMappedAddress.or (message.attributes.findSome? Attribute.asMappedAddress) =
      (xorAddresses message.attributes).head?.or (mappedAddresses message.attributes).head? := by
  rw [xorAddresses, mappedAddresses, List.head?_filterMap, List.head?_filterMap]
  rfl

theorem mem_selected {select : Attribute → Option SocketAddr} {wrap : SocketAddr → Attribute}
    (selects : ∀ attr addr, select attr = some addr ↔ attr = wrap addr)
    (attributes : List Attribute) (addr : SocketAddr) :
    addr ∈ attributes.filterMap select ↔ wrap addr ∈ attributes := by
  simp only [List.mem_filterMap, selects, exists_eq_right]

theorem mem_xor_addresses (attributes : List Attribute) (addr : SocketAddr) :
    addr ∈ xorAddresses attributes ↔ .xorMappedAddress addr ∈ attributes := by
  refine mem_selected (fun attr addr => ?_) attributes addr
  cases attr <;> simp [Attribute.asXorMappedAddress]

theorem mem_mapped_addresses (attributes : List Attribute) (addr : SocketAddr) :
    addr ∈ mappedAddresses attributes ↔ .mappedAddress addr ∈ attributes := by
  refine mem_selected (fun attr addr => ?_) attributes addr
  cases attr <;> simp [Attribute.asMappedAddress]

theorem address_present_iff (message : Message) :
    (∃ addr, .xorMappedAddress addr ∈ message.attributes ∨
        .mappedAddress addr ∈ message.attributes) ↔
      ∃ addr, (xorAddresses message.attributes).head?.or
        (mappedAddresses message.attributes).head? = some addr := by
  simp only [← mem_xor_addresses, ← mem_mapped_addresses]
  cases xorAddresses message.attributes with
  | nil =>
    cases mappedAddresses message.attributes with
    | nil => simp
    | cons addr rest => exact ⟨fun _ => ⟨addr, rfl⟩, fun _ => ⟨addr, .inr List.mem_cons_self⟩⟩
  | cons addr rest => exact ⟨fun _ => ⟨addr, rfl⟩, fun _ => ⟨addr, .inl List.mem_cons_self⟩⟩

theorem agrees_iff (found : Option SocketAddr × Option SocketAddr) (message : Message) :
    AgreesWithDecoder (pickAddress found) message ↔
      found.1.or found.2 = (xorAddresses message.attributes).head?.or
        (mappedAddresses message.attributes).head? := by
  unfold AgreesWithDecoder
  simp only [pick_ok_iff, first_address, address_present_iff]
  cases found.1.or found.2 with
  | none | some addr =>
    cases (xorAddresses message.attributes).head?.or
        (mappedAddresses message.attributes).head? with
    | none | some other => simp

/-- No address of the kind that counts comes after a different one, and a mapped address that
counts is an IPv4 address. -/
def Unambiguous (message : Message) : Prop :=
  (xorAddresses message.attributes).getLast? = (xorAddresses message.attributes).head? ∧
    (xorAddresses message.attributes = [] →
      (mappedAddresses message.attributes).getLast? =
          (mappedAddresses message.attributes).head? ∧
        ∀ addr ∈ (mappedAddresses message.attributes).head?, ipv4Only addr = some addr)

theorem picked_first_iff (message : Message) :
    (xorAddresses message.attributes).getLast?.or
          ((mappedAddresses message.attributes).getLast?.bind ipv4Only) =
        (xorAddresses message.attributes).head?.or (mappedAddresses message.attributes).head? ↔
      Unambiguous message := by
  unfold Unambiguous
  cases xorAddresses message.attributes with
  | cons first rest => simp [List.getLast?_cons]
  | nil =>
    cases mappedAddresses message.attributes with
    | nil => simp
    | cons first rest =>
      simp only [List.getLast?_nil, List.head?_nil, Option.none_or, List.getLast?_cons,
        List.head?_cons, Option.bind_some, Option.mem_some_iff, true_and, forall_const,
        forall_eq', Option.some.injEq]
      cases last : rest.getLast?.getD first with
      | v4 ip port =>
        constructor
        · intro same
          have equal : SocketAddr.v4 ip port = first := Option.some.inj same
          rw [← equal]
          exact ⟨rfl, rfl⟩
        · intro both
          rw [both.1]
          exact both.2
      | v6 octets port flowinfo scopeId =>
        constructor
        · intro same
          cases same
        · intro both
          rw [both.1]
          exact both.2

/-- The parser agrees with the decoder on a binding response exactly if the addresses in it
leave no choice. -/
theorem parsers_agree_iff {buf : List UInt8} {message : Message} {txn : TransactionId}
    (read : decode library buf = .ok message) (method : message.method = methodBinding)
    (kind : message.kind = .success) (transaction : message.transactionId = txn) :
    AgreesWithDecoder (parseBindingResponse txn buf) message ↔ Unambiguous message := by
  rw [← transaction, parse_decoded library read method kind, agrees_iff, picked_first_iff]

def bindingAnswer (attributes : List Attribute) : Message :=
  ⟨methodBinding, .success, Block.copy 12 [7], attributes⟩

theorem decode_binding_answer {attributes : List Attribute}
    (fits : (encode sampleLibrary (bindingAnswer attributes) none false).length - headerLen < 65536)
    (carried : ∀ attr ∈ attributes, Attribute.Carried attr) :
    decode sampleLibrary (encode sampleLibrary (bindingAnswer attributes) none false) =
      .ok (bindingAnswer attributes) := by
  have method : (bindingAnswer attributes).method < 0x1000 := show methodBinding < 0x1000 by decide
  rw [decode_encoded sampleLibrary (bindingAnswer attributes) none false method fits carried]
  simp [encodedAttributes, integrityAttribute, fingerprintAttribute]

/-- An answer with an IPv6 address in a MAPPED-ADDRESS attribute has an address for the decoder
and none for the parser. -/
theorem parsers_disagree :
    ¬ ∀ (library : Primitives) (buf : List UInt8) (message : Message) (txn : TransactionId),
      decode library buf = .ok message → message.method = methodBinding →
      message.kind = .success → message.transactionId = txn →
      AgreesWithDecoder (parseBindingResponse txn buf) message := by
  intro claimed
  let answer := bindingAnswer [.mappedAddress (.v6 (Block.copy 16 [32, 1, 13, 184]) 443 0 0)]
  have read : decode sampleLibrary (encode sampleLibrary answer none false) = .ok answer := by
    apply decode_binding_answer (by decide)
    intro attr member
    rw [List.mem_singleton.mp member]
    exact ⟨rfl, rfl⟩
  have agrees := claimed sampleLibrary _ answer _ read rfl rfl rfl
  rw [parse_decoded sampleLibrary read rfl rfl, agrees_iff] at agrees
  cases agrees

/-- With one address of each kind the first is the last. -/
theorem parsers_agree_single :
    AgreesWithDecoder
      (parseBindingResponse (Block.copy 12 [7]) (encode sampleLibrary (bindingAnswer
        [.mappedAddress (.v4 1 80), .xorMappedAddress (.v4 2 443)]) none false))
      (bindingAnswer [.mappedAddress (.v4 1 80), .xorMappedAddress (.v4 2 443)]) :=
  (parsers_agree_iff sampleLibrary
    (decode_binding_answer (by decide)
      (by
        intro attr member
        simp only [List.mem_cons, List.not_mem_nil, or_false] at member
        rcases member with same | same
        · rw [same]
          trivial
        · rw [same]
          trivial)) rfl rfl rfl).mpr ⟨rfl, nofun⟩

end

end Stitch.Transport.BindingResponse
