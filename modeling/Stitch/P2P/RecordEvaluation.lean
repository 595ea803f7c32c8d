import Stitch.P2P.MembershipRoster
import Stitch.P2P.NodeCalls

/-!
# Evaluation of membership records

`authorized_members` returns exactly when the records derive no peer two roles, and then the
map is what chains of records from the owner give. The ids of the `_members` entity do not make
targets distinct: their parser reads upper case and a leading `+` as well, and it panics when it
slices inside a character.
-/

namespace Stitch.P2P.RecordEvaluation

open Foundation.FiniteMap Foundation.Delegation Foundation.ByteLayout HybridClock LastWriterWins
open WireFormat NodeState NodeCalls AuthorizedMembers MembershipRoster

section

/-- Records from the owner to the last one, each made by the target of the one before. -/
abbrev DelegationChain (owner : PeerId) (records : List MemberRecord) :
    List MemberRecord → MemberRecord → Prop :=
  RootedChain (fun role => role.canAdmin = true) owner {record | record ∈ records}

theorem distinct_targets_single {records : List MemberRecord}
    (distinct : (records.map Grant.target).Nodup) (owner : PeerId) :
    SingleRole owner {record | record ∈ records} := by
  apply single_role_of_single_grant
  intro left leftListed right rightListed sameTarget
  exact List.inj_on_of_nodup_map distinct leftListed rightListed sameTarget

/-- With pairwise distinct targets the map is returned, gives the owner its role and every
other peer the role at the end of a chain of records from the owner, and depends neither on
the order of the records nor on records that end no such chain. -/
theorem authorized_members_rooted (owner : PeerId) (records : List MemberRecord)
    (distinct : (records.map Grant.target).Nodup) :
    ∃ roster,
      (∀ passes, records.length + 2 ≤ passes →
        authorizedMembers passes owner records = .ok roster) ∧
      (∀ peer role, roster.lookup peer = some role ↔
        (peer = owner ∧ role = .owner) ∨
          peer ≠ owner ∧ ∃ chain last, DelegationChain owner records chain last ∧
            last.target = peer ∧ last.role = role) ∧
      (∀ permuted : List MemberRecord, permuted.Perm records →
        ∀ passes, records.length + 2 ≤ passes →
          authorizedMembers passes owner permuted = .ok roster) ∧
      ∀ kept : List MemberRecord, kept ⊆ records →
        (∀ record chain, DelegationChain owner records chain record → record ∈ kept) →
        ∀ passes, kept.length + 2 ≤ passes →
          authorizedMembers passes owner kept = .ok roster := by
  obtain ⟨roster, returned⟩ :=
    authorized_members_ends (distinct_targets_single distinct owner) (Nat.le_refl _)
  have means := authorized_members_returned returned
  refine ⟨roster, ?_, ?_, ?_, ?_⟩
  · intro passes enough
    exact authorized_members_of_roster means enough
  · intro peer role
    rw [means]
    exact derives_iff_rooted (by rfl) peer role
  · intro permuted reordered passes enough
    have same : {record | record ∈ permuted} = {record | record ∈ records} := by
      ext record
      exact reordered.mem_iff
    apply authorized_members_of_roster
    · rw [same]
      exact means
    · rw [reordered.length_eq]
      exact enough
  · intro kept included keeps passes enough
    apply authorized_members_of_roster _ enough
    intro peer role
    rw [means]
    exact (derives_of_rooted_kept (by rfl) included keeps peer role).symm

def chainAndCycle : List MemberRecord :=
  [⟨peerNumber 3, peerNumber 2, .member⟩, ⟨peerNumber 4, peerNumber 5, .admin⟩,
    ⟨peerNumber 5, peerNumber 4, .admin⟩, ⟨peerNumber 2, peerNumber 1, .admin⟩]

theorem chain_and_cycle_rooted :
    (chainAndCycle.map Grant.target).Nodup ∧
      ∃ roster, authorizedMembers 6 (peerNumber 1) chainAndCycle = .ok roster ∧
        authorizedMembers 6 (peerNumber 1) chainAndCycle.reverse = .ok roster ∧
        roster.lookup (peerNumber 3) = some .member := by
  have distinct : (chainAndCycle.map Grant.target).Nodup := by decide
  obtain ⟨roster, returned, chains, permuted, -⟩ :=
    authorized_members_rooted (peerNumber 1) chainAndCycle distinct
  refine ⟨distinct, roster, returned 6 (by decide),
    permuted _ (List.reverse_perm _) 6 (by decide), ?_⟩
  rw [chains]
  refine Or.inr ⟨by decide, [⟨peerNumber 2, peerNumber 1, .admin⟩,
    ⟨peerNumber 3, peerNumber 2, .member⟩], ⟨peerNumber 3, peerNumber 2, .member⟩, ?_, rfl, rfl⟩
  exact ⟨by decide, rfl, by decide, rfl⟩

end

section

variable {owner : PeerId} {records : List MemberRecord}

theorem authorize_loop_error {passes : Nat} {authorized : Roster} {fault : Fault}
    (failed : authorizeLoop owner records passes authorized = .error fault) :
    fault = .running := by
  induction passes generalizing authorized with
  | zero =>
    cases failed
    rfl
  | succ passes ih =>
    simp only [authorizeLoop] at failed
    split_ifs at failed
    exact ih failed

theorem authorized_members_running (double : ¬SingleRole owner {record | record ∈ records})
    (passes : Nat) :
    authorizedMembers passes owner records = .error .running := by
  cases outcome : authorizedMembers passes owner records with
  | error fault => rw [authorize_loop_error outcome]
  | ok roster =>
    exact (double (single_role_of_roster (authorized_members_returned outcome))).elim

theorem owner_grants_two_roles {peer : PeerId} {records : Set MemberRecord} {first second : Role}
    (firstListed : ⟨peer, owner, first⟩ ∈ records) (secondListed : ⟨peer, owner, second⟩ ∈ records)
    (notOwner : peer ≠ owner) (differ : first ≠ second) : ¬SingleRole owner records := by
  intro single
  have firstDerived : Authorizes owner records peer first := .granted firstListed notOwner .root rfl
  have secondDerived : Authorizes owner records peer second :=
    .granted secondListed notOwner .root rfl
  exact differ (single peer first second firstDerived secondDerived)

theorem authorized_running {membership : Membership} {order : List RecordKey}
    (visits : Visits order membership.node.applier.cells)
    (readable : AllReadable (memberView membership.node.applier))
    (double : ¬SingleRole membership.owner (recordsOf (memberView membership.node.applier)))
    (passes : Nat) : membership.authorized order passes = .error .running := by
  obtain ⟨records, collected, same⟩ := collected_records visits readable
  rw [authorized_of_records collected]
  rw [← same] at double
  exact authorized_members_running double passes

end

section

/-- An ASCII byte that is neither `+` nor an upper-case hexadecimal digit. -/
def PlainByte (byte : UInt8) : Prop :=
  byte < 128 ∧ byte ≠ 43 ∧ ¬(65 ≤ byte ∧ byte ≤ 70)

instance (byte : UInt8) : Decidable (PlainByte byte) := by
  unfold PlainByte
  infer_instance

/-- An id that is not taken for a peer id by its length, or is made of plain bytes. -/
def PlainId (id : String) : Prop :=
  (utf8Bytes id).length = peerIdLen * 2 → ∀ byte ∈ utf8Bytes id, PlainByte byte

instance (id : String) : Decidable (PlainId id) :=
  if sized : (utf8Bytes id).length = peerIdLen * 2 then
    decidable_of_iff ((utf8Bytes id).all (fun byte => decide (PlainByte byte)) = true) (by
      rw [List.all_eq_true, PlainId, forall_prop_of_true sized]
      simp only [decide_eq_true_eq])
  else isTrue (fun same => absurd same sized)

variable {byte : UInt8} {id : String}

theorem plain_byte_ascii (plain : PlainByte byte) :
    isContinuation byte = false := by
  simp only [isContinuation, decide_eq_false_iff_not, not_and]
  intro high
  exact absurd plain.1 (UInt8.not_lt.mpr high)

set_option maxRecDepth 4000 in
theorem plain_digit : ∀ value, value < 256 → PlainByte (UInt8.ofNat value) →
    ∀ digit ∈ toDigit (UInt8.ofNat value), digit < 16 ∧ UInt8.ofNat value = digitByte digit := by
  decide

theorem plain_byte_digit (plain : PlainByte byte) {digit : Nat} (read : toDigit byte = some digit) :
    digit < 16 ∧ byte = digitByte digit := by
  have same : UInt8.ofNat byte.toNat = byte := UInt8.ofNat_toNat
  rw [← same] at plain read
  have spelled := plain_digit byte.toNat byte.toNat_lt plain digit read
  rw [same] at spelled
  exact spelled

theorem from_str_radix_plain {first second : UInt8} (firstPlain : PlainByte first)
    (secondPlain : PlainByte second) (read : fromStrRadix first second = some byte) :
    first = digitByte (byte.toNat / 16) ∧ second = digitByte (byte.toNat % 16) := by
  rw [fromStrRadix, if_neg firstPlain.2.1, Option.bind_eq_some_iff] at read
  obtain ⟨high, highRead, read⟩ := read
  obtain ⟨low, lowRead, read⟩ := Option.map_eq_some_iff.mp read
  obtain ⟨highSmall, highDigit⟩ := plain_byte_digit firstPlain highRead
  obtain ⟨lowSmall, lowDigit⟩ := plain_byte_digit secondPlain lowRead
  have value : byte.toNat = 16 * high + low := by
    rw [← read]
    apply UInt8.toNat_ofNat_of_lt
    change 16 * high + low < 256
    omega
  rw [highDigit, lowDigit, value]
  constructor
  · congr 1
    omega
  · congr 1
    omega

theorem split_pair {slots : Nat} {bytes : List UInt8} (size : bytes.length = (slots + 1) * 2) :
    ∃ first second rest, bytes = first :: second :: rest ∧ rest.length = slots * 2 := by
  cases bytes with
  | nil => simp at size
  | cons first more =>
    cases more with
    | nil =>
      simp only [List.length_cons, List.length_nil] at size
      omega
    | cons second rest =>
      simp only [List.length_cons] at size
      exact ⟨first, second, rest, rfl, by omega⟩

/-- Plain bytes are read without a panic, and only as the bytes they spell. -/
theorem fill_slots_plain {slots : Nat} {bytes : List UInt8} (size : bytes.length = slots * 2)
    (plain : ∀ byte ∈ bytes, PlainByte byte) :
    ∃ read, fillSlots slots bytes = .ok read ∧
      ∀ filled, read = some filled → bytes = hexBytes filled.1 := by
  induction slots generalizing bytes with
  | zero =>
    have empty : bytes = [] := List.length_eq_zero_iff.mp (by omega)
    subst empty
    refine ⟨_, rfl, ?_⟩
    intro filled same
    cases same
    rfl
  | succ slots ih =>
    obtain ⟨first, second, rest, rfl, restSize⟩ := split_pair size
    simp only [List.forall_mem_cons] at plain
    obtain ⟨firstPlain, secondPlain, restPlain⟩ := plain
    obtain ⟨read, later, spelled⟩ := ih restSize restPlain
    have headAscii : rest.head?.any isContinuation = false := by
      cases rest with
      | nil => rfl
      | cons next more => exact plain_byte_ascii (restPlain next List.mem_cons_self)
    simp only [fillSlots, plain_byte_ascii firstPlain, headAscii, Bool.or_self,
      Bool.false_eq_true, if_false, later]
    cases pair : fromStrRadix first second with
    | none => exact ⟨none, rfl, fun _ impossible => by cases impossible⟩
    | some byte =>
      cases read with
      | none => exact ⟨none, rfl, fun _ impossible => by cases impossible⟩
      | some filled =>
        refine ⟨_, rfl, ?_⟩
        intro whole same
        cases same
        obtain ⟨high, low⟩ := from_str_radix_plain firstPlain secondPlain pair
        rw [spelled filled rfl, high, low]
        rfl

theorem utf8_bytes_inj {left right : String} (same : utf8Bytes left = utf8Bytes right) :
    left = right := by
  have read := from_utf8_utf8_bytes left
  rw [same, from_utf8_utf8_bytes, Option.some.injEq] at read
  exact read.symm

/-- A plain id is read without a panic, and as a peer only when it is that peer's id. -/
theorem peer_from_plain_id (plain : PlainId id) :
    ∃ parsed, peerFromRecordId id = .ok parsed ∧
      ∀ peer, parsed = some peer ↔ id = memberRecordId peer := by
  by_cases sized : (utf8Bytes id).length = peerIdLen * 2
  · obtain ⟨read, filled, spelled⟩ := fill_slots_plain sized (plain sized)
    refine ⟨read.map fun found => ⟨found.1, found.2⟩, ?_, ?_⟩
    · rw [peerFromRecordId, if_neg (not_not.mpr sized), filled]
      cases read <;> rfl
    · intro peer
      constructor
      · intro parsed
        obtain ⟨found, isRead, rfl⟩ := Option.map_eq_some_iff.mp parsed
        apply utf8_bytes_inj
        rw [member_record_id_bytes]
        exact spelled found isRead
      · intro canonical
        have back := peer_from_member_record_id peer
        rw [← canonical, peerFromRecordId, if_neg (not_not.mpr sized), filled] at back
        cases read with
        | none => cases back
        | some found => exact congrArg some (Option.some.inj (Except.ok.inj back))
  · refine ⟨none, by rw [peerFromRecordId, if_pos sized], ?_⟩
    intro peer
    refine iff_of_false (by simp) ?_
    intro canonical
    apply sized
    rw [canonical, member_record_id_bytes, hex_bytes_length, peer.size]

theorem plain_id_named {peer : PeerId} (plain : PlainId id)
    (read : peerFromRecordId id = .ok (some peer)) : id = memberRecordId peer := by
  obtain ⟨parsed, isParsed, canonical⟩ := peer_from_plain_id plain
  rw [read, Except.ok.injEq] at isParsed
  exact (canonical peer).mp isParsed.symm

def PlainIds (view : String → Option StampedWrite) : Prop :=
  ∀ id, (view id).isSome = true → PlainId id

variable {view : String → Option StampedWrite}

theorem plain_ids_readable (plain : PlainIds view) : AllReadable view := by
  intro id shown
  obtain ⟨parsed, read, -⟩ := peer_from_plain_id (plain id shown)
  rw [idReadable, read]

theorem plain_ids_named (plain : PlainIds view) (id : String) (record : MemberRecord)
    (recorded : recordShown id (view id) = some record) : id = memberRecordId record.target := by
  obtain ⟨write, shown, parsed⟩ := (record_shown_iff _ _ _).mp recorded
  have plainId := plain id (Option.isSome_iff_exists.mpr ⟨write, shown⟩)
  rw [memberRecord] at parsed
  cases read : peerFromRecordId id with
  | error fault => simp [read] at parsed
  | ok peer =>
    cases peer with
    | none => simp [read] at parsed
    | some target =>
      simp only [read, Except.ok.injEq, Option.map_eq_some_iff] at parsed
      obtain ⟨role, -, rfl⟩ := parsed
      exact plain_id_named plainId read

end

/-- The loop ends exactly when the records derive no peer two roles. The records of a
state, with any frames merged on top, are such records when their ids are plain. -/
theorem membership_evaluation_ends_iff (owner : PeerId) (records : List MemberRecord) :
    ((∃ passes roster, authorizedMembers passes owner records = .ok roster) ↔
      SingleRole owner {record | record ∈ records}) ∧
    ∀ (membership : Membership) (extra : List WriteFrame) (order : List RecordKey),
      Visits order (mergeAll membership.node.applier extra).cells →
      PlainIds (memberView (mergeAll membership.node.applier extra)) →
      ∃ passes roster, membership.authorizedWith order extra passes = .ok roster := by
  refine ⟨⟨?_, ?_⟩, ?_⟩
  · intro ended
    obtain ⟨passes, roster, returned⟩ := ended
    exact single_role_of_roster (authorized_members_returned returned)
  · intro single
    obtain ⟨roster, returned⟩ := authorized_members_ends single (Nat.le_refl _)
    exact ⟨records.length + 2, roster, returned⟩
  · intro membership extra order visits plain
    have single := single_role_of_single_grant membership.owner
      (single_grant_of_named (plain_ids_named plain))
    obtain ⟨roster, evaluated⟩ := authorized_is_exists
      ⟨{ membership.node with applier := mergeAll membership.node.applier extra },
        membership.owner⟩ (plain_ids_readable plain) single
    obtain ⟨passes, returned⟩ := evaluated order visits
    exact ⟨passes, roster, (authorized_with_merged membership order extra passes).trans returned⟩

def memberWrite (seq : Nat) (id : String) (role : Role) : WriteFrame where
  stamp := ⟨⟨seq, 0⟩, peerNumber 1⟩
  seq := seq
  op := .insert
  entity := membersEntity
  id := id
  data := [role.asByte]
  signature := some (signedOnly.sign [])

def receivedMembership (frames : List WriteFrame) : Membership where
  node := callAll (SyncState.new (peerNumber 2))
    (.setAuth signedOnly :: frames.map fun frame => .receive true frame 5)
  owner := peerNumber 1

def onceInvited : Membership :=
  receivedMembership [memberWrite 1 (memberRecordId (peerNumber 10)) .admin]

theorem once_invited_visits : Visits [(membersEntity, memberRecordId (peerNumber 10))]
    onceInvited.node.applier.cells :=
  visits_of_keys (by decide) (by decide)

theorem once_invited_evaluation_ends :
    ∃ passes roster, onceInvited.authorizedWith
      [(membersEntity, memberRecordId (peerNumber 10))] [] passes = .ok roster := by
  apply (membership_evaluation_ends_iff (peerNumber 1) []).2 onceInvited [] _ once_invited_visits
  apply (entries_ids_iff once_invited_visits PlainId).mp
  decide

def upperCaseId : String := String.ofList ('0' :: 'A' :: List.replicate 62 '0')

def twiceInvited : Membership :=
  receivedMembership [memberWrite 1 (memberRecordId (peerNumber 10)) .admin,
    memberWrite 2 upperCaseId .member]

def twiceInvitedOrder : List RecordKey :=
  [(membersEntity, memberRecordId (peerNumber 10)), (membersEntity, upperCaseId)]

theorem twice_invited_visits : Visits twiceInvitedOrder twiceInvited.node.applier.cells :=
  visits_of_keys (by decide) (by decide)

theorem twice_invited_two_roles :
    ¬SingleRole (peerNumber 1) (recordsOf (memberView twiceInvited.node.applier)) := by
  have admin : ⟨peerNumber 10, peerNumber 1, .admin⟩ ∈
      recordsOf (memberView twiceInvited.node.applier) :=
    ⟨memberRecordId (peerNumber 10), by decide⟩
  have member : ⟨peerNumber 10, peerNumber 1, .member⟩ ∈
      recordsOf (memberView twiceInvited.node.applier) := ⟨upperCaseId, by decide⟩
  exact owner_grants_two_roles admin member (by decide) (by decide)

/-- Two signed records of the owner, under two ids that are read as one peer, keep every
evaluation of the membership running. -/
theorem twice_invited_never_evaluated :
    (∀ passes, authorizedMembers passes (peerNumber 1)
        [⟨peerNumber 10, peerNumber 1, .admin⟩, ⟨peerNumber 10, peerNumber 1, .member⟩] =
      .error .running) ∧
    ∀ order, Visits order twiceInvited.node.applier.cells →
      ∀ passes, twiceInvited.authorized order passes = .error .running := by
  constructor
  · apply authorized_members_running
    exact owner_grants_two_roles List.mem_cons_self
      (List.mem_cons_of_mem _ List.mem_cons_self) (by decide) (by decide)
  · intro order visits
    have readable : AllReadable (memberView twiceInvited.node.applier) := by
      apply (entries_readable_iff twice_invited_visits).mp
      decide
    exact authorized_running visits readable twice_invited_two_roles

section

variable {fault : Fault}

theorem fill_slots_error {slots : Nat} {bytes : List UInt8}
    (failed : fillSlots slots bytes = .error fault) : fault = .panicked := by
  induction slots generalizing bytes with
  | zero => cases failed
  | succ slots ih =>
    match bytes with
    | [] | [_] =>
      cases failed
      rfl
    | first :: second :: rest =>
      simp only [fillSlots] at failed
      split_ifs at failed
      · cases failed
        rfl
      · cases pair : fromStrRadix first second with
        | none => simp [pair] at failed
        | some byte =>
          cases later : fillSlots slots rest with
          | error restFault =>
            simp only [pair, later, Except.error.injEq] at failed
            rw [failed] at later
            exact ih later
          | ok read => cases read <;> simp [pair, later] at failed

theorem member_record_error {entry : String × List UInt8 × PeerId}
    (failed : memberRecord entry = .error fault) : fault = .panicked := by
  unfold memberRecord peerFromRecordId at failed
  split_ifs at failed
  · cases filled : fillSlots peerIdLen (utf8Bytes entry.1) with
    | error slotFault =>
      simp only [filled, Except.error.injEq] at failed
      rw [← failed]
      exact fill_slots_error filled
    | ok read => cases read <;> simp [filled] at failed

theorem member_records_panic {entries : List (String × List UInt8 × PeerId)}
    (failed : memberRecords entries = .error fault) : fault = .panicked := by
  induction entries with
  | nil => cases failed
  | cons entry rest ih =>
    unfold memberRecords at failed
    cases first : memberRecord entry with
    | error firstFault =>
      simp only [first, Except.error.injEq] at failed
      rw [← failed]
      exact member_record_error first
    | ok read =>
      cases later : memberRecords rest with
      | error restFault =>
        have same : restFault = fault := by
          cases read <;> simpa [first, later] using failed
        rw [same] at later
        exact ih later
      | ok records => cases read <;> simp [first, later] at failed

theorem authorized_panics_iff {membership : Membership} {order : List RecordKey}
    (visits : Visits order membership.node.applier.cells) (passes : Nat) :
    membership.authorized order passes = .error .panicked ↔
      ¬AllReadable (memberView membership.node.applier) := by
  constructor
  · intro panics readable
    obtain ⟨records, collected, -⟩ := collected_records visits readable
    rw [authorized_of_records collected] at panics
    have running := authorize_loop_error panics
    cases running
  · intro unreadable
    obtain ⟨fault, failed⟩ := uncollected_records visits unreadable
    rw [authorized_of_records failed, member_records_panic failed]
    rfl

end

section

/-- The bytes are read as numbers, two by two. -/
def AllRead : List UInt8 → Prop
  | [] => True
  | [_] => False
  | first :: second :: rest => (fromStrRadix first second).isSome ∧ AllRead rest

/-- The first two bytes that are no number are a slice of whole characters. -/
def Stops : List UInt8 → Prop
  | first :: second :: rest =>
    if (fromStrRadix first second).isSome then Stops rest
    else isContinuation first = false ∧ rest.head?.any isContinuation = false
  | _ => False

def LowerHex (byte : UInt8) : Prop := 48 ≤ byte ∧ byte ≤ 57 ∨ 97 ≤ byte ∧ byte ≤ 102

instance (byte : UInt8) : Decidable (LowerHex byte) := by
  unfold LowerHex
  infer_instance

/-- An id of another length, one that is given up in time, or lower-case digits. -/
def SoundId (id : String) : Prop :=
  (utf8Bytes id).length = peerIdLen * 2 →
    Stops (utf8Bytes id) ∨ ∀ byte ∈ utf8Bytes id, LowerHex byte

/-- An id in which no slice that is reached cuts a character. -/
def WholeId (id : String) : Prop :=
  (utf8Bytes id).length = peerIdLen * 2 → Stops (utf8Bytes id) ∨ AllRead (utf8Bytes id)

set_option maxRecDepth 4000 in
theorem continuation_unread : ∀ value, value < 256 → isContinuation (UInt8.ofNat value) = true →
    UInt8.ofNat value ≠ 43 ∧ toDigit (UInt8.ofNat value) = none := by
  decide

theorem read_starts_character {first second : UInt8}
    (read : (fromStrRadix first second).isSome = true) : isContinuation first = false := by
  rw [← Bool.not_eq_true]
  intro inside
  have same : UInt8.ofNat first.toNat = first := UInt8.ofNat_toNat
  obtain ⟨unsigned, digitless⟩ :=
    continuation_unread first.toNat first.toNat_lt (by rw [same]; exact inside)
  rw [same] at unsigned digitless
  rw [fromStrRadix, if_neg unsigned, digitless] at read
  cases read

theorem cut_unread {bytes : List UInt8} (cut : bytes.head?.any isContinuation = true) :
    ¬Stops bytes ∧ ¬AllRead bytes := by
  match bytes with
  | [] => cases cut
  | [_] => exact ⟨id, id⟩
  | first :: second :: rest =>
    have unread : ¬(fromStrRadix first second).isSome = true := by
      intro read
      rw [List.head?_cons, Option.any_some, read_starts_character read] at cut
      cases cut
    rw [Stops, AllRead, if_neg unread]
    exact ⟨fun whole => by simp [whole.1] at cut, fun all => unread all.1⟩

/-- The loop gives up exactly at such a slice, and fills all slots exactly when it can read
all bytes. -/
theorem fill_slots_iff {slots : Nat} {bytes : List UInt8} (size : bytes.length = slots * 2) :
    (fillSlots slots bytes = .ok none ↔ Stops bytes) ∧
      ((∃ filled, fillSlots slots bytes = .ok (some filled)) ↔ AllRead bytes) := by
  induction slots generalizing bytes with
  | zero =>
    obtain rfl := List.length_eq_zero_iff.mp (size.trans (Nat.zero_mul 2))
    simp [fillSlots, Stops, AllRead]
  | succ slots ih =>
    obtain ⟨first, second, rest, rfl, restSize⟩ := split_pair size
    obtain ⟨stops, reads⟩ := ih restSize
    rw [Stops, AllRead, fillSlots]
    cases pair : fromStrRadix first second with
    | none =>
      cases isContinuation first <;> cases rest.head?.any isContinuation <;> simp
    | some byte =>
      have fine : isContinuation first = false := read_starts_character (by rw [pair]; rfl)
      cases cut : rest.head?.any isContinuation with
      | true => simp [fine, cut_unread cut]
      | false =>
        rw [← stops, ← reads]
        cases fillSlots slots rest with
        | error fault => simp [fine]
        | ok read => cases read <;> simp [fine]

variable {id : String}

set_option maxRecDepth 4000 in
theorem lower_hex_plain : ∀ value, value < 256 → LowerHex (UInt8.ofNat value) →
    PlainByte (UInt8.ofNat value) := by
  decide

theorem digit_byte_lower : ∀ digit, digit < 16 → LowerHex (digitByte digit) := by
  decide

theorem hex_bytes_lower (bytes : List UInt8) : ∀ byte ∈ hexBytes bytes, LowerHex byte := by
  intro byte member
  obtain ⟨source, -, spelled⟩ := List.mem_flatMap.mp member
  have bound := source.toNat_lt
  simp only [List.mem_cons, List.not_mem_nil, or_false] at spelled
  rcases spelled with rfl | rfl
  · exact digit_byte_lower _ (by omega)
  · exact digit_byte_lower _ (by omega)

theorem peer_from_record_id_none (sized : (utf8Bytes id).length = peerIdLen * 2) :
    peerFromRecordId id = .ok none ↔ Stops (utf8Bytes id) := by
  rw [← (fill_slots_iff sized).1, peerFromRecordId, if_neg (not_not.mpr sized)]
  cases fillSlots peerIdLen (utf8Bytes id) with
  | error fault => simp
  | ok read => cases read <;> simp

theorem sound_id_iff :
    (∃ parsed, peerFromRecordId id = .ok parsed ∧
      ∀ peer, parsed = some peer ↔ id = memberRecordId peer) ↔ SoundId id := by
  constructor
  · intro canonical sized
    obtain ⟨parsed, read, named⟩ := canonical
    cases parsed with
    | none => exact Or.inl ((peer_from_record_id_none sized).mp read)
    | some peer =>
      rw [(named peer).mp rfl, member_record_id_bytes]
      exact Or.inr (hex_bytes_lower _)
  · intro sound
    by_cases sized : (utf8Bytes id).length = peerIdLen * 2
    · rcases sound sized with stops | lower
      · refine ⟨none, (peer_from_record_id_none sized).mpr stops, ?_⟩
        intro peer
        refine iff_of_false nofun ?_
        rintro rfl
        have back := peer_from_member_record_id peer
        rw [(peer_from_record_id_none sized).mpr stops] at back
        cases back
      · apply peer_from_plain_id
        intro _ byte member
        rw [← UInt8.ofNat_toNat (x := byte)]
        apply lower_hex_plain byte.toNat byte.toNat_lt
        rw [UInt8.ofNat_toNat]
        exact lower byte member
    · exact peer_from_plain_id fun same => absurd same sized

theorem id_readable_iff : idReadable id = true ↔ WholeId id := by
  rw [WholeId, idReadable, peerFromRecordId]
  split_ifs with other
  · simp [other]
  · rw [not_not] at other
    rw [forall_prop_of_true other, ← (fill_slots_iff other).1, ← (fill_slots_iff other).2]
    cases fillSlots peerIdLen (utf8Bytes id) with
    | error fault => simp
    | ok read => cases read <;> simp

end

/-- An id is read without a panic, and as a peer exactly when it is that peer's record id, if and
only if it is sound, so no two sound ids name one member. The evaluation panics if and only if
a visible id, with any frames merged on top, has a character that a slice cuts. -/
theorem record_ids_canonical_iff (id : String) :
    ((∃ parsed, peerFromRecordId id = .ok parsed ∧
      ∀ peer, parsed = some peer ↔ id = memberRecordId peer) ↔ SoundId id) ∧
    (∀ other peer, SoundId id → SoundId other → peerFromRecordId id = .ok (some peer) →
      peerFromRecordId other = .ok (some peer) → id = other) ∧
    ∀ (membership : Membership) (extra : List WriteFrame) (order : List RecordKey) (passes : Nat),
      Visits order (mergeAll membership.node.applier extra).cells →
      (membership.authorizedWith order extra passes = .error .panicked ↔
        ∃ id, (memberView (mergeAll membership.node.applier extra) id).isSome = true ∧
          ¬WholeId id) := by
  have named : ∀ {id peer}, SoundId id → peerFromRecordId id = .ok (some peer) →
      id = memberRecordId peer := by
    intro id peer sound read
    obtain ⟨parsed, isParsed, canonical⟩ := sound_id_iff.mpr sound
    rw [read, Except.ok.injEq] at isParsed
    exact (canonical peer).mp isParsed.symm
  refine ⟨sound_id_iff, ?_, ?_⟩
  · intro other peer sound otherSound read otherRead
    rw [named sound read, named otherSound otherRead]
  · intro membership extra order passes visits
    rw [authorized_with_merged, authorized_panics_iff visits]
    simp only [AllReadable, id_readable_iff, not_forall, exists_prop]

theorem once_invited_id_canonical :
    SoundId (memberRecordId (peerNumber 10)) ∧
      (∃ parsed, peerFromRecordId (memberRecordId (peerNumber 10)) = .ok parsed ∧
        ∀ peer, parsed = some peer ↔ memberRecordId (peerNumber 10) = memberRecordId peer) ∧
      onceInvited.authorizedWith [(membersEntity, memberRecordId (peerNumber 10))] [] 3 ≠
        .error .panicked := by
  have sound : SoundId (memberRecordId (peerNumber 10)) := by
    rw [SoundId, member_record_id_bytes]
    exact fun _ => Or.inr (hex_bytes_lower _)
  have readable : AllReadable (memberView onceInvited.node.applier) := by
    apply (entries_readable_iff once_invited_visits).mp
    decide
  have canonical := record_ids_canonical_iff (memberRecordId (peerNumber 10))
  refine ⟨sound, canonical.1.mpr sound, ?_⟩
  rw [ne_eq, canonical.2.2 onceInvited [] _ 3 once_invited_visits]
  rintro ⟨id, shown, cut⟩
  exact cut (id_readable_iff.mp (readable id shown))

def splitCharacterId : String := String.ofList ('a' :: 'é' :: List.replicate 61 'a')

def panickingMembership : Membership :=
  receivedMembership [memberWrite 1 splitCharacterId .member]

/-- A signed frame whose id holds a two-byte character across a slice is received, and
every evaluation of the membership panics. Two different ids are read as peer 10. -/
theorem record_ids_not_canonical :
    (((SyncState.new (peerNumber 2)).setAuth signedOnly).receive true
        (memberWrite 1 splitCharacterId .member) 5).2 = .appended ∧
      peerFromRecordId splitCharacterId = .error .panicked ∧
      (∀ order, Visits order panickingMembership.node.applier.cells →
        ∀ passes, panickingMembership.authorized order passes = .error .panicked) ∧
      peerFromRecordId upperCaseId = .ok (some (peerNumber 10)) ∧
      upperCaseId ≠ memberRecordId (peerNumber 10) := by
  refine ⟨by decide, by decide, ?_, by decide, by decide⟩
  intro order visits passes
  rw [authorized_panics_iff visits]
  intro readable
  have unread : idReadable splitCharacterId = false := by decide
  have shown : (memberView panickingMembership.node.applier splitCharacterId).isSome = true := by
    decide
  rw [readable splitCharacterId shown] at unread
  cases unread

end Stitch.P2P.RecordEvaluation
