import Stitch.Foundation.BitFields
import Stitch.Foundation.PaddedRecords

/-!
# STUN and TURN messages

Transcription of the message codec of `turn.rs`. The keyed hash, the checksum and what
`from_utf8_lossy` makes of bytes that are not UTF-8 are parameters. The three loops over the
attributes of a body, here and in `stun.rs`, are scanners over padded records.
-/

namespace Stitch.Transport.TurnMessage

open Foundation.ByteLayout Foundation.PaddedRecords

def magicCookie : UInt32 := 0x2112A442

def headerLen : Nat := 20

def fingerprintXor : UInt32 := 0x5354554E

def methodBinding : UInt16 := 0x001
def methodAllocate : UInt16 := 0x003
def methodRefresh : UInt16 := 0x004
def methodChannelBind : UInt16 := 0x009

def transportUdp : UInt8 := 17

def channelMin : UInt16 := 0x4000
def channelMax : UInt16 := 0x4FFF

def attrMappedAddress : UInt16 := 0x0001
def attrUsername : UInt16 := 0x0006
def attrMessageIntegrity : UInt16 := 0x0008
def attrErrorCode : UInt16 := 0x0009
def attrChannelNumber : UInt16 := 0x000C
def attrLifetime : UInt16 := 0x000D
def attrXorPeerAddress : UInt16 := 0x0012
def attrData : UInt16 := 0x0013
def attrRealm : UInt16 := 0x0014
def attrNonce : UInt16 := 0x0015
def attrXorRelayedAddress : UInt16 := 0x0016
def attrRequestedTransport : UInt16 := 0x0019
def attrDontFragment : UInt16 := 0x001A
def attrXorMappedAddress : UInt16 := 0x0020
def attrSoftware : UInt16 := 0x8022
def attrFingerprint : UInt16 := 0x8028

inductive Class where
  | request
  | indication
  | success
  | error
  deriving DecidableEq

def Class.bits : Class → UInt16
  | .request => 0
  | .indication => 1
  | .success => 2
  | .error => 3

def Class.fromBits (bits : UInt16) : Class :=
  if bits &&& 3 = 0 then .request
  else if bits &&& 3 = 1 then .indication
  else if bits &&& 3 = 2 then .success
  else .error

/-- An IPv4 address is given by its value, an IPv6 address by its octets. -/
inductive SocketAddr where
  | v4 (ip : UInt32) (port : UInt16)
  | v6 (octets : Block 16) (port : UInt16) (flowinfo scopeId : UInt32)
  deriving DecidableEq

inductive Attribute where
  | mappedAddress (addr : SocketAddr)
  | xorMappedAddress (addr : SocketAddr)
  | xorPeerAddress (addr : SocketAddr)
  | xorRelayedAddress (addr : SocketAddr)
  | username (text : String)
  | realm (text : String)
  | nonce (text : String)
  | software (text : String)
  | messageIntegrity (mac : Block 20)
  | fingerprint (crc : UInt32)
  | errorCode (code : UInt16) (reason : String)
  | lifetime (seconds : UInt32)
  | requestedTransport (proto : UInt8)
  | channelNumber (number : UInt16)
  | data (bytes : List UInt8)
  | dontFragment
  | unknown (typ : UInt16) (value : List UInt8)
  deriving DecidableEq

abbrev TransactionId : Type := Block 12

@[ext] structure Message where
  method : UInt16
  kind : Class
  transactionId : TransactionId
  attributes : List Attribute
  deriving DecidableEq

def Message.new (method : UInt16) (kind : Class) (transactionId : TransactionId) : Message :=
  ⟨method, kind, transactionId, []⟩

def Message.push (message : Message) (attr : Attribute) : Message :=
  { message with attributes := message.attributes ++ [attr] }

section

def Attribute.asErrorCode : Attribute → Option UInt16
  | .errorCode code _ => some code
  | _ => none

def Attribute.asRealm : Attribute → Option String
  | .realm text => some text
  | _ => none

def Attribute.asNonce : Attribute → Option String
  | .nonce text => some text
  | _ => none

def Attribute.asLifetime : Attribute → Option UInt32
  | .lifetime seconds => some seconds
  | _ => none

def Attribute.asXorRelayedAddress : Attribute → Option SocketAddr
  | .xorRelayedAddress addr => some addr
  | _ => none

def Attribute.asXorMappedAddress : Attribute → Option SocketAddr
  | .xorMappedAddress addr => some addr
  | _ => none

def Message.errorCode (message : Message) : Option UInt16 :=
  message.attributes.findSome? Attribute.asErrorCode

def Message.realm (message : Message) : Option String :=
  message.attributes.findSome? Attribute.asRealm

def Message.nonce (message : Message) : Option String :=
  message.attributes.findSome? Attribute.asNonce

def Message.lifetime (message : Message) : Option UInt32 :=
  message.attributes.findSome? Attribute.asLifetime

def Message.xorRelayedAddress (message : Message) : Option SocketAddr :=
  message.attributes.findSome? Attribute.asXorRelayedAddress

def Message.xorMappedAddress (message : Message) : Option SocketAddr :=
  message.attributes.findSome? Attribute.asXorMappedAddress

end

structure Primitives where
  hmacSha1 : List UInt8 → List UInt8 → Block 20
  crc32 : List UInt8 → UInt32
  repairUtf8 : List UInt8 → String

/-- `Error::TurnParse`. -/
inductive TurnError where
  | turnParse (reason : String)
  deriving DecidableEq

def fromUtf8Lossy (library : Primitives) (bytes : List UInt8) : String :=
  (fromUtf8 bytes).getD (library.repairUtf8 bytes)

def byteOf (bytes : List UInt8) (index : Nat) : UInt8 := bytes.getD index 0

section

def messageType (method : UInt16) (kind : Class) : UInt16 :=
  ((method &&& 0x0F80) <<< 2) ||| ((kind.bits &&& 0x02) <<< 7) ||| ((method &&& 0x0070) <<< 1) |||
    ((kind.bits &&& 0x01) <<< 4) ||| (method &&& 0x000F)

def decodeType (raw : UInt16) : UInt16 × Class :=
  (((raw &&& 0x3E00) >>> 2) ||| ((raw &&& 0x00E0) >>> 1) ||| (raw &&& 0x000F),
    Class.fromBits (((raw &&& 0x0100) >>> 7) ||| ((raw &&& 0x0010) >>> 4)))

def isChannelData (buf : List UInt8) : Bool :=
  2 ≤ buf.length ∧ channelMin ≤ readU16 (slice buf 0 2) ∧ readU16 (slice buf 0 2) ≤ channelMax

def encodePlainAddress : SocketAddr → List UInt8
  | .v4 ip port => [0, 0x01] ++ beBytes 2 port.toNat ++ beBytes 4 ip.toNat
  | .v6 octets port _ _ => [0, 0x02] ++ beBytes 2 port.toNat ++ octets.bytes

def unknownFamily (family : UInt8) : TurnError :=
  .turnParse ("unknown address family 0x" ++ hexByte family)

def decodePlainAddress (value : List UInt8) : Except TurnError SocketAddr :=
  if value.length < 8 then .error (.turnParse "address shorter than 8 bytes")
  else
    let port := readU16 (slice value 2 4)
    if byteOf value 1 = 0x01 then .ok (.v4 (readU32 (slice value 4 8)) port)
    else if byteOf value 1 = 0x02 then
      if value.length < 20 then .error (.turnParse "ipv6 address shorter than 20 bytes")
      else .ok (.v6 (Block.copy 16 (slice value 4 20)) port 0 0)
    else .error (unknownFamily (byteOf value 1))

def cookiePort : UInt16 := (magicCookie >>> 16).toUInt16

theorem xor_with_key_size (octets : Block 16) (txn : TransactionId) :
    (List.zipWith (fun octet key => octet ^^^ key) octets.bytes
      (beBytes 4 magicCookie.toNat ++ txn.bytes)).length = 16 := by
  rw [List.length_zipWith, List.length_append, be_bytes_length, octets.size, txn.size]
  rfl

def xorWithKey (octets : Block 16) (txn : TransactionId) : Block 16 :=
  ⟨List.zipWith (fun octet key => octet ^^^ key) octets.bytes
    (beBytes 4 magicCookie.toNat ++ txn.bytes), xor_with_key_size octets txn⟩

def encodeXorAddress (addr : SocketAddr) (txn : TransactionId) : List UInt8 :=
  match addr with
  | .v4 ip port =>
    [0, 0x01] ++ beBytes 2 (port ^^^ cookiePort).toNat ++ beBytes 4 (ip ^^^ magicCookie).toNat
  | .v6 octets port _ _ =>
    [0, 0x02] ++ beBytes 2 (port ^^^ cookiePort).toNat ++ (xorWithKey octets txn).bytes

def decodeXorAddress (value : List UInt8) (txn : TransactionId) : Except TurnError SocketAddr :=
  if value.length < 8 then .error (.turnParse "xor address shorter than 8 bytes")
  else
    let port := readU16 (slice value 2 4) ^^^ cookiePort
    if byteOf value 1 = 0x01 then .ok (.v4 (readU32 (slice value 4 8) ^^^ magicCookie) port)
    else if byteOf value 1 = 0x02 then
      if value.length < 20 then .error (.turnParse "xor ipv6 address shorter than 20 bytes")
      else .ok (.v6 (xorWithKey (Block.copy 16 (slice value 4 20)) txn) port 0 0)
    else .error (unknownFamily (byteOf value 1))

variable (library : Primitives)

def rawAttribute (attr : Attribute) (txn : TransactionId) : RawRecord :=
  match attr with
  | .mappedAddress addr => ⟨attrMappedAddress, encodePlainAddress addr⟩
  | .xorMappedAddress addr => ⟨attrXorMappedAddress, encodeXorAddress addr txn⟩
  | .xorPeerAddress addr => ⟨attrXorPeerAddress, encodeXorAddress addr txn⟩
  | .xorRelayedAddress addr => ⟨attrXorRelayedAddress, encodeXorAddress addr txn⟩
  | .username text => ⟨attrUsername, utf8Bytes text⟩
  | .realm text => ⟨attrRealm, utf8Bytes text⟩
  | .nonce text => ⟨attrNonce, utf8Bytes text⟩
  | .software text => ⟨attrSoftware, utf8Bytes text⟩
  | .messageIntegrity mac => ⟨attrMessageIntegrity, mac.bytes⟩
  | .fingerprint crc => ⟨attrFingerprint, beBytes 4 crc.toNat⟩
  | .errorCode code reason =>
    ⟨attrErrorCode, [0, 0, (code / 100).toUInt8, (code % 100).toUInt8] ++ utf8Bytes reason⟩
  | .lifetime seconds => ⟨attrLifetime, beBytes 4 seconds.toNat⟩
  | .requestedTransport proto => ⟨attrRequestedTransport, [proto, 0, 0, 0]⟩
  | .channelNumber number => ⟨attrChannelNumber, beBytes 2 number.toNat ++ [0, 0]⟩
  | .data bytes => ⟨attrData, bytes⟩
  | .dontFragment => ⟨attrDontFragment, []⟩
  | .unknown typ value => ⟨typ, value⟩

def decodeString (value : List UInt8) : Except TurnError String :=
  match fromUtf8 value with
  | some text => .ok text
  | none => .error (.turnParse "attribute is not valid utf-8")

def decodeAttribute (typ : UInt16) (value : List UInt8) (txn : TransactionId) :
    Except TurnError Attribute :=
  if typ = attrMappedAddress then (decodePlainAddress value).map .mappedAddress
  else if typ = attrXorMappedAddress then (decodeXorAddress value txn).map .xorMappedAddress
  else if typ = attrXorPeerAddress then (decodeXorAddress value txn).map .xorPeerAddress
  else if typ = attrXorRelayedAddress then (decodeXorAddress value txn).map .xorRelayedAddress
  else if typ = attrUsername then (decodeString value).map .username
  else if typ = attrRealm then (decodeString value).map .realm
  else if typ = attrNonce then (decodeString value).map .nonce
  else if typ = attrSoftware then (decodeString value).map .software
  else if typ = attrMessageIntegrity then
    if value.length ≠ 20 then .error (.turnParse "message-integrity must be 20 bytes")
    else .ok (.messageIntegrity (Block.copy 20 value))
  else if typ = attrFingerprint then
    if value.length ≠ 4 then .error (.turnParse "fingerprint must be 4 bytes")
    else .ok (.fingerprint (readU32 (slice value 0 4)))
  else if typ = attrErrorCode then
    if value.length < 4 then .error (.turnParse "error-code shorter than 4 bytes")
    else .ok (.errorCode ((byteOf value 2).toUInt16 * 100 + (byteOf value 3).toUInt16)
      (fromUtf8Lossy library (value.drop 4)))
  else if typ = attrLifetime then
    if value.length < 4 then .error (.turnParse "lifetime shorter than 4 bytes")
    else .ok (.lifetime (readU32 (slice value 0 4)))
  else if typ = attrRequestedTransport then
    if value = [] then .error (.turnParse "requested-transport empty")
    else .ok (.requestedTransport (byteOf value 0))
  else if typ = attrChannelNumber then
    if value.length < 2 then .error (.turnParse "channel-number shorter than 2 bytes")
    else .ok (.channelNumber (readU16 (slice value 0 2)))
  else if typ = attrData then .ok (.data value)
  else if typ = attrDontFragment then .ok .dontFragment
  else .ok (.unknown typ value)

/-- The length field is two bytes wide, and a longer length is cut off. -/
def setLength (buf : List UInt8) (length : Nat) : List UInt8 :=
  buf.take 2 ++ beBytes 2 length ++ buf.drop 4

def pushRawAttribute (buf : List UInt8) (typ : UInt16) (value : List UInt8) : List UInt8 :=
  buf ++ RawRecord.bytes ⟨typ, value⟩

def encodeAttribute (txn : TransactionId) (buf : List UInt8) (attr : Attribute) : List UInt8 :=
  pushRawAttribute buf (rawAttribute attr txn).typ (rawAttribute attr txn).value

/-- The header and the attributes, with the length still to be filled in. -/
def encodeAttributes (message : Message) : List UInt8 :=
  message.attributes.foldl (encodeAttribute message.transactionId)
    (beBytes 2 (messageType message.method message.kind).toNat ++ [0, 0] ++
      beBytes 4 magicCookie.toNat ++ message.transactionId.bytes)

def addIntegrity (integrityKey : Option (List UInt8)) (buf : List UInt8) : List UInt8 :=
  match integrityKey with
  | none => buf
  | some key =>
    let signed := setLength buf (buf.length - headerLen + 24)
    pushRawAttribute signed attrMessageIntegrity (library.hmacSha1 key signed).bytes

def addFingerprint (fingerprint : Bool) (buf : List UInt8) : List UInt8 :=
  if fingerprint then
    let summed := setLength buf (buf.length - headerLen + 8)
    pushRawAttribute summed attrFingerprint
      (beBytes 4 (library.crc32 summed ^^^ fingerprintXor).toNat)
  else buf

def encode (message : Message) (integrityKey : Option (List UInt8)) (fingerprint : Bool) :
    List UInt8 :=
  let buf := addFingerprint library fingerprint
    (addIntegrity library integrityKey (encodeAttributes message))
  setLength buf (buf.length - headerLen)

def rawType (buf : List UInt8) : UInt16 := readU16 (slice buf 0 2)

def messageLength (buf : List UInt8) : Nat := beValue (slice buf 2 4)

def transactionOf (buf : List UInt8) : TransactionId := Block.copy 12 (slice buf 8 20)

def bodyOf (buf : List UInt8) : List UInt8 :=
  slice buf headerLen (headerLen + messageLength buf)

def attributeScanner (txn : TransactionId) (bodyLength : Nat) :
    Scanner (List Attribute) (Except TurnError (List Attribute)) where
  visit attributes _ raw :=
    match decodeAttribute library raw.typ raw.value txn with
    | .ok attr => .onward (attributes ++ [attr])
    | .error failure => .stop (.error failure)
  overrun _ := .error (.turnParse "attribute length exceeds message")
  finish attributes offset :=
    if offset ≠ bodyLength then .error (.turnParse "trailing bytes after final attribute")
    else .ok attributes

def decode (buf : List UInt8) : Except TurnError Message :=
  if buf.length < headerLen then .error (.turnParse "message shorter than header")
  else if rawType buf &&& 0xC000 ≠ 0 then .error (.turnParse "not a STUN message")
  else if readU32 (slice buf 4 8) ≠ magicCookie then .error (.turnParse "bad magic cookie")
  else if buf.length < headerLen + messageLength buf then
    .error (.turnParse "declared length exceeds buffer")
  else
    ((attributeScanner library (transactionOf buf) (bodyOf buf).length).scan (bodyOf buf) []).map
      (fun attributes =>
        ⟨(decodeType (rawType buf)).1, (decodeType (rawType buf)).2, transactionOf buf, attributes⟩)

/-- The bytes a message-integrity attribute at the offset stands for. -/
def signedPart (buf : List UInt8) (offset : Nat) : List UInt8 :=
  setLength (buf.take (headerLen + offset)) (offset + 24)

/-- The comparison that looks at every byte whatever the first ones are. -/
def sameBytes (expected actual : List UInt8) : Bool :=
  (List.zip expected actual).foldl (fun diff pair => diff ||| (pair.1 ^^^ pair.2)) 0 == 0

/-- The loop of `verify_integrity`, which ends at the first message-integrity attribute. -/
def integrityScanner (buf key : List UInt8) : Scanner Unit Bool where
  visit _ offset raw :=
    if raw.typ = attrMessageIntegrity then
      if raw.value.length ≠ 20 then .stop false
      else .stop (sameBytes (library.hmacSha1 key (signedPart buf offset)).bytes raw.value)
    else .onward ()
  overrun _ := false
  finish _ _ := false

def verifyIntegrity (buf key : List UInt8) : Bool :=
  if buf.length < headerLen then false
  else if buf.length < headerLen + messageLength buf then false
  else (integrityScanner library buf key).scan (bodyOf buf) ()

end

end Stitch.Transport.TurnMessage
