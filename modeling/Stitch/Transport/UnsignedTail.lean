import Mathlib.Data.List.Forall2
import Stitch.Transport.TurnClient

/-!
# What stands behind the signature

The verifier ends at the first message-integrity attribute, and the accessors of a decoded
message look at all its attributes.
-/

namespace Stitch.Transport.UnsignedTail

open Foundation.ByteLayout Foundation.PaddedRecords TurnMessage TurnCodec TurnFrames TurnIntegrity
open TurnClient

section

def isIntegrity : Attribute → Bool
  | .messageIntegrity _ => true
  | _ => false

def signedAttributes (message : Message) : List Attribute :=
  message.attributes.takeWhile (fun attr => !isIntegrity attr)

def trailingAttributes (message : Message) : List Attribute :=
  (message.attributes.dropWhile (fun attr => !isIntegrity attr)).drop 1

variable {Value : Type} {read : Attribute → Option Value}

theorem find_some_parts (unread : ∀ mac, read (.messageIntegrity mac) = none) (message : Message) :
    message.attributes.findSome? read =
      ((signedAttributes message).findSome? read).or
        ((trailingAttributes message).findSome? read) := by
  unfold signedAttributes trailingAttributes
  generalize message.attributes = attributes
  induction attributes with
  | nil => rfl
  | cons attr rest ih =>
    cases kind : isIntegrity attr with
    | true =>
      cases attr with
      | messageIntegrity mac => simp [isIntegrity, unread mac]
      | _ => cases kind
    | false =>
      rw [List.takeWhile_cons_of_pos (by simp [kind]), List.dropWhile_cons_of_pos (by simp [kind]),
        List.findSome?_cons, List.findSome?_cons, ih]
      cases read attr with
      | none | some value => rfl

variable (library : Primitives) (txn : TransactionId) {value : List UInt8} {attr : Attribute}
  {records : List Entry} {attributes : List Attribute}

theorem integrity_of_typ (read : decodeAttribute library attrMessageIntegrity value txn = .ok attr)
    :
    isIntegrity attr = true := by
  have checked : (if value.length ≠ 20
      then Except.error (TurnError.turnParse "message-integrity must be 20 bytes")
      else .ok (.messageIntegrity (Block.copy 20 value))) = Except.ok attr := read
  split_ifs at checked with size
  rw [← Except.ok.inj checked]
  rfl

theorem typ_of_integrity {typ : UInt16} (read : decodeAttribute library typ value txn = .ok attr)
    (kind : isIntegrity attr = true) :
    typ = attrMessageIntegrity := by
  have named := decode_attribute_typ library txn typ value attr read
  cases attr with
  | messageIntegrity mac => exact named.symm
  | _ => cases kind

def signedEntries (records : List Entry) : List Entry :=
  records.takeWhile (fun entry => !decide (entry.raw.typ = attrMessageIntegrity))

theorem signed_entries_append {before after : List Entry} {entry : Entry}
    (named : entry.raw.typ = attrMessageIntegrity) :
    signedEntries (before ++ entry :: after) = signedEntries before := by
  unfold signedEntries
  induction before with
  | nil => simp [named]
  | cons first rest ih =>
    by_cases here : first.raw.typ = attrMessageIntegrity
    · simp [here]
    · simp only [List.cons_append, List.takeWhile_cons, here, decide_false, Bool.not_false,
        if_true, ih]

theorem read_as_signed (read : ReadAs library txn records attributes) :
    ReadAs library txn (signedEntries records)
      (attributes.takeWhile (fun attr => !isIntegrity attr)) := by
  unfold signedEntries
  induction read with
  | nil => exact .nil
  | @cons entry attr rest others first later ih =>
    by_cases named : entry.raw.typ = attrMessageIntegrity
    · have kind : isIntegrity attr = true := by
        rw [named] at first
        exact integrity_of_typ library txn first
      rw [List.takeWhile_cons_of_neg (by simp [named]),
        List.takeWhile_cons_of_neg (by simp [kind])]
      exact .nil
    · have kind : isIntegrity attr = false := by
        cases found : isIntegrity attr with
        | true => exact (named (typ_of_integrity library txn first found)).elim
        | false => rfl
      rw [List.takeWhile_cons_of_pos (by simp [named]),
        List.takeWhile_cons_of_pos (by simp [kind])]
      exact .cons first ih

theorem read_as_unique {others : List Attribute} (first : ReadAs library txn records attributes)
    (second : ReadAs library txn records others) :
    attributes = others := by
  refine List.right_unique_forall₂' ?_ first second
  intro entry attr other read again
  exact Except.ok.inj (read.symm.trans again)

theorem signed_part_agree {buf other : List UInt8} {offset place : Nat}
    (inside : headerLen + offset ≤ buf.length) (otherInside : headerLen + place ≤ other.length)
    (same : signedPart buf offset = signedPart other place) :
    offset = place ∧ slice buf headerLen (headerLen + offset) =
      slice other headerLen (headerLen + offset) := by
  have header : headerLen = 20 := rfl
  have lengths := congrArg List.length same
  simp only [signedPart, setLength, List.length_append, List.length_take, List.length_drop,
    be_bytes_length] at lengths
  have places : offset = place := by omega
  subst places
  have back := (List.append_inj' same (by
    simp only [List.length_drop, List.length_take]
    omega)).2
  refine ⟨rfl, ?_⟩
  have body := congrArg (List.drop 16) back
  rw [List.drop_drop, List.drop_drop, List.drop_take, List.drop_take] at body
  exact body

/-- The bytes the first message-integrity attribute of a datagram stands for. -/
def coveredBytes (buf : List UInt8) : Option (List UInt8) :=
  (integrityEntry (entries (bodyOf buf)).1).map (fun entry => signedPart buf entry.offset)

theorem integrity_entry_typ {records : List Entry} {entry : Entry}
    (found : integrityEntry records = some entry) : entry.raw.typ = attrMessageIntegrity := by
  have test := List.find?_some found
  exact of_decide_eq_true test

variable {buf : List UInt8}

theorem body_take {offset : Nat} (inside : offset ≤ messageLength buf) :
    (bodyOf buf).take offset = slice buf headerLen (headerLen + offset) := by
  have shorter : min offset (headerLen + messageLength buf - headerLen) = offset := by omega
  rw [bodyOf, slice, slice, List.take_take, shorter, Nat.add_sub_cancel_left]

theorem body_length_le (buf : List UInt8) : (bodyOf buf).length ≤ messageLength buf := by
  rw [bodyOf, slice, List.length_take, Nat.add_sub_cancel_left]
  exact Nat.min_le_left _ _

/-- Decoded datagrams with the same bytes under the signature have the same signed attributes. -/
theorem signed_attributes_eq {firstData secondData : List UInt8} {first second : Message}
    (firstRead : Decoded library firstData first) (secondRead : Decoded library secondData second)
    (txn : first.transactionId = second.transactionId) {signed : List UInt8}
    (firstCovered : coveredBytes firstData = some signed)
    (secondCovered : coveredBytes secondData = some signed) :
    signedAttributes first = signedAttributes second := by
  obtain ⟨entry, found, part⟩ := Option.map_eq_some_iff.mp firstCovered
  obtain ⟨twin, matched, twinPart⟩ := Option.map_eq_some_iff.mp secondCovered
  have member := List.mem_of_find?_eq_some found
  have twinMember := List.mem_of_find?_eq_some matched
  have within := (entries_from_bounds member).2.trans (body_length_le firstData)
  have twinWithin := (entries_from_bounds twinMember).2.trans (body_length_le secondData)
  have firstInside := firstRead.inside
  have secondInside := secondRead.inside
  obtain ⟨place, bodies⟩ := signed_part_agree (by omega) (by omega) (part.trans twinPart.symm)
  have agree : (bodyOf firstData).take entry.offset = (bodyOf secondData).take entry.offset := by
    rw [body_take (by omega), body_take (by omega), bodies]
  obtain ⟨before, after, later, firstEntries, secondEntries⟩ :=
    entries_from_shared agree member rfl twinMember place.symm
  have firstSigned := read_as_signed library _ firstRead.attributes
  have secondSigned := read_as_signed library _ secondRead.attributes
  unfold entries at firstSigned secondSigned
  rw [firstEntries, signed_entries_append (integrity_entry_typ found), txn] at firstSigned
  rw [secondEntries, signed_entries_append (integrity_entry_typ matched)] at secondSigned
  exact read_as_unique library _ firstSigned secondSigned

theorem covered_of_verified {key : List UInt8} (accepted : verifyIntegrity library buf key = true) :
    ∃ signed, coveredBytes buf = some signed := by
  obtain ⟨entry, found, -⟩ := ((verify_integrity_iff library key buf).mp accepted).2
  refine ⟨signedPart buf entry.offset, ?_⟩
  rw [coveredBytes, found]
  rfl

/-- An authenticated request whose answer carries values: the lifetime asked for at an
allocation, or the one in force at a refresh. -/
inductive Request where
  | allocate (requested : UInt32)
  | refresh (lifetime : UInt32)

def taken : Request → Message → Except ClientError (Option SocketAddr × UInt32)
  | .allocate requested, response =>
    (parseAllocation response requested).map (fun allocation => (some allocation.1, allocation.2))
  | .refresh lifetime, response => .ok (none, grantedLifetime lifetime (.ok response))

variable {Value Used : Type}

/-- The value is one of a signed attribute, or the attributes behind the signature give the same
in both answers. -/
def SameValue (read : Attribute → Option Value) (use : Option Value → Used)
    (first second : Message) : Prop :=
  (signedAttributes first).findSome? read ≠ none ∨
    use ((trailingAttributes first).findSome? read) =
      use ((trailingAttributes second).findSome? read)

def SameValues : Request → Message → Message → Prop
  | .allocate requested, first, second =>
    SameValue Attribute.asXorRelayedAddress id first second ∧
      (first.xorRelayedAddress ≠ none →
        SameValue Attribute.asLifetime (fun lifetime => lifetime.getD requested) first second)
  | .refresh lifetime, first, second =>
    SameValue Attribute.asLifetime (fun granted => granted.getD lifetime) first second

variable {first second : Message}

theorem same_value_iff {read : Attribute → Option Value} {use : Option Value → Used}
    (unread : ∀ mac, read (.messageIntegrity mac) = none)
    (signed : signedAttributes first = signedAttributes second) :
    use (first.attributes.findSome? read) = use (second.attributes.findSome? read) ↔
      SameValue read use first second := by
  rw [find_some_parts unread, find_some_parts unread, SameValue, ← signed]
  cases (signedAttributes first).findSome? read with
  | none =>
    simp
  | some value =>
    simp

theorem parse_allocation_eq_iff (firstSuccess : first.kind = .success)
    (secondSuccess : second.kind = .success) (requested : UInt32) :
    parseAllocation first requested = parseAllocation second requested ↔
      first.xorRelayedAddress = second.xorRelayedAddress ∧
        (first.xorRelayedAddress ≠ none →
          first.lifetime.getD requested = second.lifetime.getD requested) := by
  unfold parseAllocation
  rw [if_neg (not_not.mpr firstSuccess), if_neg (not_not.mpr secondSuccess)]
  cases first.xorRelayedAddress with
  | none | some relayed =>
    cases second.xorRelayedAddress with
    | none | some other => simp

theorem map_ok_injective {Result Other : Type} {make : Result → Other}
    (injective : Function.Injective make) (left right : Except ClientError Result) :
    left.map make = right.map make ↔ left = right := by
  constructor
  · intro same
    cases left with
    | error failure =>
      cases right with
      | error other => exact congrArg Except.error (Except.error.inj same)
      | ok result => cases same
    | ok result =>
      cases right with
      | error other => cases same
      | ok other => exact congrArg Except.ok (injective (Except.ok.inj same))
  · intro same
    rw [same]

theorem taken_eq_iff (firstSuccess : first.kind = .success)
    (secondSuccess : second.kind = .success)
    (signed : signedAttributes first = signedAttributes second) (request : Request) :
    taken request first = taken request second ↔ SameValues request first second := by
  cases request with
  | allocate requested =>
    rw [taken, taken, map_ok_injective, parse_allocation_eq_iff firstSuccess secondSuccess,
      SameValues, ← same_value_iff (fun _ => rfl) signed, ← same_value_iff (fun _ => rfl) signed]
    · rfl
    · intro allocation other same
      exact Prod.ext (Option.some.inj (Prod.ext_iff.mp same).1) (Prod.ext_iff.mp same).2
  | refresh lifetime =>
    rw [taken, taken, SameValues, ← same_value_iff (fun _ => rfl) signed, Except.ok.injEq,
      Prod.mk.injEq, eq_self_iff_true, true_and]
    rfl

/-- Two successful answers to an authenticated request that agree on the bytes under the
signature give the client the same values exactly if each value is signed, or the attributes
behind the signature happen to agree on it. -/
theorem delivered_values_eq_iff {inner firstAfter secondAfter : TurnInner} {txn : TransactionId}
    {firstData secondData : List UInt8} {first second : Message}
    (waits : inner.pending = some ⟨txn, true⟩)
    (firstDelivered : demux library inner firstData = (firstAfter, some first))
    (secondDelivered : demux library inner secondData = (secondAfter, some second))
    (firstSuccess : first.kind = .success) (secondSuccess : second.kind = .success)
    (covered : coveredBytes firstData = coveredBytes secondData) (request : Request) :
    taken request first = taken request second ↔ SameValues request first second := by
  obtain ⟨firstRead, firstTxn, firstVerified⟩ := demux_delivers library waits firstDelivered
  obtain ⟨secondRead, secondTxn, -⟩ := demux_delivers library waits secondDelivered
  obtain ⟨signed, part⟩ := covered_of_verified library (firstVerified firstSuccess)
  have same := signed_attributes_eq library (decode_ok library firstRead)
    (decode_ok library secondRead) (firstTxn.trans secondTxn.symm) part (covered ▸ part)
  exact taken_eq_iff firstSuccess secondSuccess same request

def withTail (message : Message) (key : List UInt8) (tail : List Attribute) : Message :=
  { message with
    attributes := message.attributes ++
      (Attribute.messageIntegrity (signedMac library message key) :: tail) }

/-- Anyone can put attributes behind the signature of an answer, and the client takes it with them.
-/
theorem demux_signed_frame {inner : TurnInner} {message : Message} {tail : List Attribute}
    (waits : inner.pending = some ⟨message.transactionId, true⟩)
    (method : message.method < 0x1000)
    (others : ∀ attr ∈ message.attributes, (∀ mac, attr ≠ .messageIntegrity mac) ∧
      ∀ value, attr ≠ .unknown attrMessageIntegrity value)
    (carried : ∀ attr ∈ message.attributes, Attribute.Carried attr)
    (tailCarried : ∀ attr ∈ tail, Attribute.Carried attr)
    (fits : ((signedRecords library message inner.key.bytes tail).flatMap
      RawRecord.bytes).length < 65536) :
    demux library inner (signedFrame library message inner.key.bytes tail) =
      ({ inner with pending := none },
        some (withTail library message inner.key.bytes tail)) := by
  have low := message_type_lt message.method message.kind
  have plain : isChannelData (signedFrame library message inner.key.bytes tail) = false := by
    apply message_type_not_channel
    rw [signedFrame, raw_type_frame]
    exact low
  have read : decode library (signedFrame library message inner.key.bytes tail) =
      .ok (withTail library message inner.key.bytes tail) := by
    rw [signed_records_map] at fits
    rw [signedFrame, signed_records_map, decode_frame library message.transactionId
      ((and_top_bits _).mpr low) fits rfl, decode_type_message_type _ _ method]
    · rfl
    intro attr member
    rcases List.mem_append.mp member with own | added
    · exact carried attr own
    · rcases List.mem_cons.mp added with same | later
      · rw [same]
        trivial
      · exact tailCarried attr later
  have accepted := verify_signed_frame library message inner.key.bytes others fits
  unfold demux
  rw [if_neg (by rw [plain]; decide), read]
  dsimp only
  rw [accepted, Bool.not_true, Bool.and_false, if_neg (by decide)]
  exact if_pos (by simp [TurnInner.awaits, waits, withTail])

theorem covered_signed_frame {message : Message} {key : List UInt8} {tail : List Attribute}
    (others : ∀ attr ∈ message.attributes, (∀ mac, attr ≠ .messageIntegrity mac) ∧
      ∀ value, attr ≠ .unknown attrMessageIntegrity value)
    (fits : ((signedRecords library message key tail).flatMap RawRecord.bytes).length < 65536) :
    coveredBytes (signedFrame library message key tail) =
      some (setLength (encodeAttributes message)
        ((encodeAttributes message).length - headerLen + 24)) := by
  rw [coveredBytes, signed_frame_entry library message key others fits, Option.map_some,
    signed_frame_part]

def waitingClient : TurnInner :=
  ⟨"", "", "", Block.copy 16 [3], some ⟨Block.copy 12 [7], true⟩, none, [], []⟩

def successAnswer (attributes : List Attribute) : Message :=
  ⟨methodAllocate, .success, Block.copy 12 [7], attributes⟩

def addedTail (ip lifetime : UInt32) : List Attribute :=
  [.xorRelayedAddress (.v4 ip 443), .lifetime lifetime]

theorem added_tail_carried (ip lifetime : UInt32) :
    ∀ attr ∈ addedTail ip lifetime, Attribute.Carried attr := by
  intro attr member
  simp only [addedTail, List.mem_cons, List.not_mem_nil, or_false] at member
  rcases member with same | same
  · rw [same]
    trivial
  · rw [same]
    trivial

theorem added_tail_others (ip lifetime : UInt32) :
    ∀ attr ∈ addedTail ip lifetime, (∀ mac, attr ≠ .messageIntegrity mac) ∧
      ∀ value, attr ≠ .unknown attrMessageIntegrity value := by
  intro attr member
  simp only [addedTail, List.mem_cons, List.not_mem_nil, or_false] at member
  rcases member with same | same
  all_goals
    rw [same]
    constructor <;> intro _ equal <;> cases equal

/-- Whatever the keyed hash is, a signed answer without attributes is taken with any relayed
address that is put behind its signature. -/
theorem unsigned_values_taken :
    ¬ ∃ library : Primitives, ∀ (inner firstAfter secondAfter : TurnInner) (txn : TransactionId)
      (firstData secondData : List UInt8) (first second : Message) (request : Request),
      inner.pending = some ⟨txn, true⟩ →
      demux library inner firstData = (firstAfter, some first) →
      demux library inner secondData = (secondAfter, some second) →
      first.kind = .success → second.kind = .success →
      coveredBytes firstData = coveredBytes secondData →
      taken request first = taken request second := by
  intro claimed
  obtain ⟨library, claimed⟩ := claimed
  have fits : ∀ ip, ((signedRecords library (successAnswer []) waitingClient.key.bytes
      (addedTail ip 600)).flatMap RawRecord.bytes).length < 65536 := by
    intro ip
    simp [signedRecords, ownRecords, successAnswer, addedTail, record_bytes_length, width, padding,
      (signedMac library _ _).size, rawAttribute, encodeXorAddress]
  have delivered : ∀ ip, demux library waitingClient (signedFrame library (successAnswer [])
      waitingClient.key.bytes (addedTail ip 600)) = _ := fun ip =>
    demux_signed_frame library rfl (by decide) (List.forall_mem_nil _) (List.forall_mem_nil _)
      (added_tail_carried ip 600) (fits ip)
  have same := claimed _ _ _ _ _ _ _ _ (.allocate 600) rfl (delivered 1) (delivered 2) rfl rfl
    ((covered_signed_frame library (List.forall_mem_nil _) (fits 1)).trans
      (covered_signed_frame library (List.forall_mem_nil _) (fits 2)).symm)
  have addresses : Except.ok (some (SocketAddr.v4 1 443), (600 : UInt32)) =
      (Except.ok (some (SocketAddr.v4 2 443), 600) :
        Except ClientError (Option SocketAddr × UInt32)) := same
  simp at addresses

/-- An answer whose signed attributes have both values is safe from what is put behind them. -/
theorem delivered_values_signed :
    taken (.allocate 600) (withTail sampleLibrary (successAnswer (addedTail 1 300))
        waitingClient.key.bytes (addedTail 2 5)) =
      taken (.allocate 600) (withTail sampleLibrary (successAnswer (addedTail 1 300))
        waitingClient.key.bytes []) :=
  (delivered_values_eq_iff sampleLibrary rfl
    (demux_signed_frame sampleLibrary rfl (by decide) (added_tail_others 1 300)
      (added_tail_carried 1 300) (added_tail_carried 2 5) (by decide))
    (demux_signed_frame sampleLibrary rfl (by decide) (added_tail_others 1 300)
      (added_tail_carried 1 300) (List.forall_mem_nil _) (by decide)) rfl rfl
    ((covered_signed_frame sampleLibrary (added_tail_others 1 300) (by decide)).trans
      (covered_signed_frame sampleLibrary (added_tail_others 1 300) (by decide)).symm)
    (.allocate 600)).mpr ⟨Or.inl (by decide), fun _ => Or.inl (by decide)⟩

end

end Stitch.Transport.UnsignedTail
