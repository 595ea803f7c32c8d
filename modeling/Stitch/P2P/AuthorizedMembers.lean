import Stitch.Foundation.ByteLayout
import Stitch.Foundation.Delegation
import Stitch.Foundation.FiniteMap
import Stitch.P2P.HybridClock

/-!
# Authorized members

Transcription of the first part of `membership.rs`: roles, record ids and the authorized
members of a list of records. Slicing a string off a character boundary panics and the fixpoint
loop need not end, so these computations return `Except Fault`; the loop takes the number of
passes it may make.
-/

namespace Stitch.P2P.AuthorizedMembers

open Foundation.FiniteMap Foundation.Delegation Foundation.ByteLayout HybridClock

/-- How a computation can fail to return: a panic, or a loop still running after
the passes it was given. -/
inductive Fault where
  | panicked
  | running
  deriving DecidableEq

def membersEntity : String := "_members"

inductive Role where
  | owner
  | admin
  | member
  deriving DecidableEq

def Role.asByte : Role → UInt8
  | .owner => 0
  | .admin => 1
  | .member => 2

def Role.fromByte (byte : UInt8) : Option Role :=
  if byte = 0 then some .owner
  else if byte = 1 then some .admin
  else if byte = 2 then some .member
  else none

def Role.canAdmin : Role → Bool
  | .owner | .admin => true
  | .member => false

section

def hexPair (byte : UInt8) : List Char :=
  [(byte.toNat / 16).digitChar, (byte.toNat % 16).digitChar]

def memberRecordId (peer : PeerId) : String := String.ofList (peer.bytes.flatMap hexPair)

def toDigit (byte : UInt8) : Option Nat :=
  if 48 ≤ byte ∧ byte ≤ 57 then some (byte.toNat - 48)
  else if 97 ≤ byte ∧ byte ≤ 102 then some (byte.toNat - 87)
  else if 65 ≤ byte ∧ byte ≤ 70 then some (byte.toNat - 55)
  else none

/-- `u8::from_str_radix(_, 16)` of two bytes; a leading `+` is skipped. -/
def fromStrRadix (first second : UInt8) : Option UInt8 :=
  if first = 43 then (toDigit second).map UInt8.ofNat
  else (toDigit first).bind fun high =>
    (toDigit second).map fun low => UInt8.ofNat (16 * high + low)

/-- A byte inside a multi-byte character, where a slice may not start or end. -/
def isContinuation (byte : UInt8) : Bool := decide (128 ≤ byte ∧ byte < 192)

/-- The loop over the slots that are still to be filled, each from a slice of two bytes. -/
def fillSlots : (slots : Nat) → List UInt8 →
    Except Fault (Option { filled : List UInt8 // filled.length = slots })
  | 0, _ => .ok (some ⟨[], rfl⟩)
  | slots + 1, first :: second :: rest =>
    if isContinuation first || rest.head?.any isContinuation then .error .panicked
    else
      match fromStrRadix first second with
      | none => .ok none
      | some byte =>
        match fillSlots slots rest with
        | .error fault => .error fault
        | .ok none => .ok none
        | .ok (some filled) =>
          .ok (some ⟨byte :: filled.1, congrArg Nat.succ filled.2⟩)
  | _ + 1, _ => .error .panicked

def peerFromRecordId (id : String) : Except Fault (Option PeerId) :=
  if (utf8Bytes id).length ≠ peerIdLen * 2 then .ok none
  else
    match fillSlots peerIdLen (utf8Bytes id) with
    | .error fault => .error fault
    | .ok none => .ok none
    | .ok (some filled) => .ok (some ⟨filled.1, filled.2⟩)

def digitByte (digit : Nat) : UInt8 := UInt8.ofNat digit.digitChar.toNat

theorem digit_byte_read : ∀ digit, digit < 16 →
    String.utf8EncodeChar digit.digitChar = [digitByte digit] ∧
      isContinuation (digitByte digit) = false ∧ digitByte digit ≠ 43 ∧
      toDigit (digitByte digit) = some digit := by
  decide

def hexBytes (bytes : List UInt8) : List UInt8 :=
  bytes.flatMap fun byte => [digitByte (byte.toNat / 16), digitByte (byte.toNat % 16)]

theorem high_digit_lt (byte : UInt8) : byte.toNat / 16 < 16 := by
  have bound := byte.toNat_lt
  omega

theorem low_digit_lt (byte : UInt8) : byte.toNat % 16 < 16 := Nat.mod_lt _ (by omega)

theorem member_record_id_bytes (peer : PeerId) :
    utf8Bytes (memberRecordId peer) = hexBytes peer.bytes := by
  have encoded : utf8Bytes (memberRecordId peer) =
      (peer.bytes.flatMap hexPair).flatMap String.utf8EncodeChar := by
    simp [utf8Bytes, memberRecordId, List.utf8Encode]
  rw [encoded, List.flatMap_assoc]
  congr 1
  funext byte
  have high := (digit_byte_read _ (high_digit_lt byte)).1
  have low := (digit_byte_read _ (low_digit_lt byte)).1
  simp only [hexPair, List.flatMap_cons, List.flatMap_nil, high, low]
  rfl

theorem hex_bytes_length (bytes : List UInt8) : (hexBytes bytes).length = bytes.length * 2 := by
  induction bytes with
  | nil => rfl
  | cons byte rest ih =>
    have step : (hexBytes (byte :: rest)).length = (hexBytes rest).length + 2 := rfl
    rw [step, ih, List.length_cons]
    omega

theorem from_str_radix_hex (byte : UInt8) :
    fromStrRadix (digitByte (byte.toNat / 16)) (digitByte (byte.toNat % 16)) = some byte := by
  obtain ⟨-, -, notPlus, high⟩ := digit_byte_read _ (high_digit_lt byte)
  obtain ⟨-, -, -, low⟩ := digit_byte_read _ (low_digit_lt byte)
  rw [fromStrRadix, if_neg notPlus, high, low]
  simp only [Option.bind_some, Option.map_some, Nat.div_add_mod, UInt8.ofNat_toNat]

theorem hex_bytes_head (bytes : List UInt8) :
    (hexBytes bytes).head?.any isContinuation = false := by
  cases bytes with
  | nil => rfl
  | cons byte rest => exact (digit_byte_read _ (high_digit_lt byte)).2.1

theorem fill_slots_hex {slots : Nat} (bytes : List UInt8) (size : bytes.length = slots) :
    fillSlots slots (hexBytes bytes) = .ok (some ⟨bytes, size⟩) := by
  subst size
  induction bytes with
  | nil => rfl
  | cons byte rest ih =>
    have ascii := (digit_byte_read _ (high_digit_lt byte)).2.1
    change fillSlots (rest.length + 1)
      (digitByte (byte.toNat / 16) :: digitByte (byte.toNat % 16) :: hexBytes rest) = _
    simp only [fillSlots, ascii, hex_bytes_head, from_str_radix_hex, ih, Bool.or_self]
    rfl

theorem peer_from_member_record_id (peer : PeerId) :
    peerFromRecordId (memberRecordId peer) = .ok (some peer) := by
  rw [peerFromRecordId, member_record_id_bytes, hex_bytes_length, peer.size,
    fill_slots_hex peer.bytes peer.size]
  rfl

theorem member_record_id_inj {left right : PeerId}
    (same : memberRecordId left = memberRecordId right) : left = right := by
  have read := peer_from_member_record_id left
  rw [same, peer_from_member_record_id, Except.ok.injEq, Option.some.injEq] at read
  exact read.symm

end

abbrev MemberRecord := Grant PeerId Role

abbrev Roster := HashMap PeerId Role

section

/-- `authorized.get(peer).is_some_and(|r| r.can_admin())`. -/
def canAdminIn (authorized : Roster) (peer : PeerId) : Bool :=
  (authorized.lookup peer).any Role.canAdmin

/-- The loop body for one record, on the map and the `changed` flag. -/
def authorizeRecord (owner : PeerId) (current : Roster × Bool) (record : MemberRecord) :
    Roster × Bool :=
  if record.target = owner then current
  else if canAdminIn current.1 record.granter ∧
      current.1.lookup record.target ≠ some record.role then
    (current.1.insert record.target record.role, true)
  else current

def authorizePass (owner : PeerId) (records : List MemberRecord) (authorized : Roster) :
    Roster × Bool :=
  records.foldl (authorizeRecord owner) (authorized, false)

def authorizeLoop (owner : PeerId) (records : List MemberRecord) :
    Nat → Roster → Except Fault Roster
  | 0, _ => .error .running
  | passes + 1, authorized =>
    let pass := authorizePass owner records authorized
    if pass.2 then authorizeLoop owner records passes pass.1 else .ok pass.1

def authorizedMembers (passes : Nat) (owner : PeerId) (records : List MemberRecord) :
    Except Fault Roster :=
  authorizeLoop owner records passes (Finmap.insert owner .owner ∅)

/-- The meaning of the records: authority delegated from the owner. -/
abbrev Authorizes (owner : PeerId) (records : Set MemberRecord) : PeerId → Role → Prop :=
  Derives (fun role => role.canAdmin = true) owner Role.owner records

theorem can_admin_in_iff (authorized : Roster) (peer : PeerId) :
    canAdminIn authorized peer = true ↔
      ∃ role, authorized.lookup peer = some role ∧ role.canAdmin = true := by
  simp [canAdminIn, Option.any_eq_true]

def SingleRole (owner : PeerId) (records : Set MemberRecord) : Prop :=
  ∀ peer first second, Authorizes owner records peer first →
    Authorizes owner records peer second → first = second

/-- The map of the loop holds the owner and otherwise only derived roles. -/
structure Justified (owner : PeerId) (records : Set MemberRecord) (authorized : Roster) :
    Prop where
  ownerHeld : authorized.lookup owner = some .owner
  derived : ∀ peer role, authorized.lookup peer = some role → Authorizes owner records peer role

def Settled (owner : PeerId) (authorized : Roster) (record : MemberRecord) : Prop :=
  record.target ≠ owner → canAdminIn authorized record.granter = true →
    authorized.lookup record.target = some record.role

theorem authorize_record_cases (owner : PeerId) (current : Roster × Bool) (record : MemberRecord) :
    (authorizeRecord owner current record = current ∧ Settled owner current.1 record) ∨
      (record.target ≠ owner ∧ canAdminIn current.1 record.granter = true ∧
        current.1.lookup record.target ≠ some record.role ∧
        authorizeRecord owner current record =
          (current.1.insert record.target record.role, true)) := by
  unfold authorizeRecord
  split_ifs with targetsOwner effective
  · exact Or.inl ⟨rfl, fun notOwner => (notOwner targetsOwner).elim⟩
  · exact Or.inr ⟨targetsOwner, effective.1, effective.2, rfl⟩
  · refine Or.inl ⟨rfl, ?_⟩
    intro _ granter
    by_contra unset
    exact effective ⟨granter, unset⟩

theorem start_justified (owner : PeerId) (records : Set MemberRecord) :
    Justified owner records (Finmap.insert owner .owner ∅) := by
  constructor
  · exact Finmap.lookup_insert _
  · intro peer role found
    by_cases isOwner : peer = owner
    · subst isOwner
      rw [Finmap.lookup_insert, Option.some.injEq] at found
      subst found
      exact .root
    · rw [Finmap.lookup_insert_of_ne _ isOwner, Finmap.lookup_empty] at found
      cases found

variable {owner : PeerId}
variable {records : List MemberRecord} {current : Roster × Bool} {record : MemberRecord}
  {authorized roster : Roster} {passes : Nat}

theorem justified_record {records : Set MemberRecord}
    (justified : Justified owner records current.1) (listed : record ∈ records) :
    Justified owner records (authorizeRecord owner current record).1 := by
  rcases authorize_record_cases owner current record with
    ⟨same, -⟩ | ⟨notOwner, granter, -, changed⟩
  · rw [same]
    exact justified
  · rw [changed]
    constructor
    · rw [Finmap.lookup_insert_of_ne _ (Ne.symm notOwner)]
      exact justified.ownerHeld
    · intro peer role found
      by_cases isTarget : peer = record.target
      · subst isTarget
        rw [Finmap.lookup_insert, Option.some.injEq] at found
        subst found
        obtain ⟨granterRole, held, able⟩ := (can_admin_in_iff _ _).mp granter
        exact .granted listed notOwner (justified.derived _ _ held) able
      · rw [Finmap.lookup_insert_of_ne _ isTarget] at found
        exact justified.derived peer role found

theorem justified_pass {records : Set MemberRecord} (visited : List MemberRecord)
    (listed : ∀ record ∈ visited, record ∈ records) (justified : Justified owner records current.1)
    :
    Justified owner records (visited.foldl (authorizeRecord owner) current).1 := by
  induction visited generalizing current with
  | nil => exact justified
  | cons record rest ih =>
    have here := justified_record justified (listed record List.mem_cons_self)
    exact ih (fun other later => listed other (List.mem_cons_of_mem _ later)) here

theorem pass_keeps_flag (visited : List MemberRecord) (changed : current.2 = true) :
    (visited.foldl (authorizeRecord owner) current).2 = true := by
  induction visited generalizing current with
  | nil => exact changed
  | cons record rest ih =>
    apply ih
    rcases authorize_record_cases owner current record with ⟨same, -⟩ | ⟨-, -, -, set⟩
    · rw [same]
      exact changed
    · rw [set]

theorem quiet_pass (visited : List MemberRecord)
    (quiet : (visited.foldl (authorizeRecord owner) current).2 = false) :
    (visited.foldl (authorizeRecord owner) current).1 = current.1 ∧
      ∀ record ∈ visited, Settled owner current.1 record := by
  induction visited with
  | nil => exact ⟨rfl, fun _ member => by cases member⟩
  | cons record rest ih =>
    rw [List.foldl_cons] at quiet ⊢
    rcases authorize_record_cases owner current record with ⟨same, settled⟩ | ⟨-, -, -, set⟩
    · rw [same] at quiet ⊢
      obtain ⟨unchanged, restSettled⟩ := ih quiet
      exact ⟨unchanged, List.forall_mem_cons.mpr ⟨settled, restSettled⟩⟩
    · rw [pass_keeps_flag rest (by rw [set])] at quiet
      cases quiet

theorem changed_record_grows {records : Set MemberRecord} (single : SingleRole owner records)
    (justified : Justified owner records current.1) (listed : record ∈ records)
    (notOwner : record.target ≠ owner) (granter : canAdminIn current.1 record.granter = true)
    (unset : current.1.lookup record.target ≠ some record.role) :
    (current.1.insert record.target record.role).keys.card = current.1.keys.card + 1 := by
  apply keys_card_insert
  intro present
  obtain ⟨role, found⟩ := Finmap.mem_iff.mp present
  obtain ⟨granterRole, held, able⟩ := (can_admin_in_iff _ _).mp granter
  have given := Derives.granted listed notOwner (justified.derived _ _ held) able
  have same := single _ _ _ (justified.derived _ _ found) given
  exact unset (by rw [found, same])

theorem pass_grows {records : Set MemberRecord} (single : SingleRole owner records)
    (visited : List MemberRecord) (listed : ∀ record ∈ visited, record ∈ records)
    (justified : Justified owner records current.1) :
    let after := visited.foldl (authorizeRecord owner) current
    current.1.keys.card ≤ after.1.keys.card ∧
      (after.2 = true → current.2 = true ∨ current.1.keys.card < after.1.keys.card) := by
  induction visited generalizing current with
  | nil => exact ⟨le_rfl, Or.inl⟩
  | cons record rest ih =>
    have here := listed record List.mem_cons_self
    obtain ⟨grown, changed⟩ := ih (fun other later => listed other (List.mem_cons_of_mem _ later))
      (justified_record justified here)
    rw [List.foldl_cons]
    rcases authorize_record_cases owner current record with
      ⟨same, -⟩ | ⟨notOwner, granter, unset, set⟩
    · rw [same] at grown changed ⊢
      exact ⟨grown, changed⟩
    · have added := changed_record_grows single justified here notOwner granter unset
      rw [set] at grown ⊢
      dsimp only at grown
      exact ⟨by omega, fun _ => Or.inr (by omega)⟩

theorem justified_size (justified : Justified owner {record | record ∈ records} authorized) :
    authorized.keys.card ≤ records.length + 1 := by
  have included : authorized.keys ⊆ insert owner (records.map Grant.target).toFinset := by
    intro peer held
    obtain ⟨role, found⟩ := Finmap.mem_iff.mp (Finmap.mem_keys.mp held)
    rw [Finset.mem_insert, List.mem_toFinset, List.mem_map]
    rcases derives_inversion (justified.derived peer role found) with
      ⟨isOwner, -⟩ | ⟨-, record, listed, target, -⟩
    · exact Or.inl isOwner
    · exact Or.inr ⟨record, listed, target⟩
  calc authorized.keys.card
      ≤ (insert owner (records.map Grant.target).toFinset).card := Finset.card_le_card included
    _ ≤ (records.map Grant.target).toFinset.card + 1 := Finset.card_insert_le _ _
    _ ≤ (records.map Grant.target).length + 1 := by
        exact Nat.add_le_add_right (List.toFinset_card_le _) 1
    _ = records.length + 1 := by rw [List.length_map]

theorem authorize_pass_spec (records : List MemberRecord)
    (justified : Justified owner {record | record ∈ records} authorized) :
    Justified owner {record | record ∈ records} (authorizePass owner records authorized).1 ∧
      (¬(authorizePass owner records authorized).2 = true →
        (authorizePass owner records authorized).1 = authorized ∧
          ∀ record ∈ records, Settled owner authorized record) ∧
      (SingleRole owner {record | record ∈ records} →
        (authorizePass owner records authorized).2 = true →
        authorized.keys.card < (authorizePass owner records authorized).1.keys.card) := by
  have listed : ∀ record ∈ records, record ∈ {record | record ∈ records} := fun _ held => held
  have start : Justified owner {record | record ∈ records} (authorized, false).1 := justified
  refine ⟨justified_pass records listed start, ?_, ?_⟩
  · intro quiet
    exact quiet_pass records (Bool.eq_false_iff.mpr quiet)
  · intro single changed
    exact ((pass_grows single records listed start).2 changed).resolve_left Bool.false_ne_true

theorem loop_returns_authorizes {result : Roster}
    (justified : Justified owner {record | record ∈ records} authorized)
    (returned : authorizeLoop owner records passes authorized = .ok result) (peer : PeerId)
    (role : Role) :
    result.lookup peer = some role ↔
      Authorizes owner {record | record ∈ records} peer role := by
  induction passes generalizing authorized with
  | zero => cases returned
  | succ passes ih =>
    obtain ⟨next, quiet, -⟩ := authorize_pass_spec records justified
    simp only [authorizeLoop] at returned
    split_ifs at returned with changed
    · exact ih next returned
    · obtain ⟨unchanged, settled⟩ := quiet changed
      rw [Except.ok.injEq, unchanged] at returned
      subst returned
      apply closed_assignment_iff (fun peer => authorized.lookup peer) justified.ownerHeld
        justified.derived
      intro record listed notOwner granterRole held able
      exact settled record listed notOwner ((can_admin_in_iff _ _).mpr ⟨_, held, able⟩)

theorem loop_ends (single : SingleRole owner {record | record ∈ records}) (passes : Nat)
    (justified : Justified owner {record | record ∈ records} authorized)
    (enough : records.length + 1 - authorized.keys.card < passes) :
    ∃ result, authorizeLoop owner records passes authorized = .ok result := by
  induction passes generalizing authorized with
  | zero => omega
  | succ passes ih =>
    obtain ⟨next, -, grows⟩ := authorize_pass_spec records justified
    simp only [authorizeLoop]
    split_ifs with changed
    · apply ih next
      have grown := grows single changed
      have bound := justified_size next
      omega
    · exact ⟨_, rfl⟩

theorem authorized_members_ends (single : SingleRole owner {record | record ∈ records})
    (enough : records.length + 2 ≤ passes) :
    ∃ roster, authorizedMembers passes owner records = .ok roster := by
  apply loop_ends single _ (start_justified owner {record | record ∈ records})
  omega

theorem authorized_members_returned (returned : authorizedMembers passes owner records = .ok roster)
    (peer : PeerId) (role : Role) :
    roster.lookup peer = some role ↔ Authorizes owner {record | record ∈ records} peer role :=
  loop_returns_authorizes (start_justified owner {record | record ∈ records}) returned peer role

theorem single_role_of_roster {records : Set MemberRecord}
    (means : ∀ peer role, roster.lookup peer = some role ↔ Authorizes owner records peer role) :
    SingleRole owner records := by
  intro peer first second firstDerived secondDerived
  rw [← means] at firstDerived secondDerived
  rw [firstDerived, Option.some.injEq] at secondDerived
  exact secondDerived

theorem authorized_members_of_roster (means : ∀ peer role, roster.lookup peer = some role ↔
      Authorizes owner {record | record ∈ records} peer role) (enough : records.length + 2 ≤ passes)
    :
    authorizedMembers passes owner records = .ok roster := by
  obtain ⟨result, returned⟩ := authorized_members_ends (single_role_of_roster means) enough
  have same : result = roster := by
    apply ext_of_lookup_iff
    intro peer role
    rw [authorized_members_returned returned, means]
  rw [← same]
  exact returned

theorem authorized_members_returns_iff (owner : PeerId) (records : List MemberRecord)
    (roster : Roster) :
    (∃ passes, authorizedMembers passes owner records = .ok roster) ↔
      ∀ peer role, roster.lookup peer = some role ↔
        Authorizes owner {record | record ∈ records} peer role := by
  constructor
  · intro ended
    rcases ended with ⟨passes, returned⟩
    exact authorized_members_returned returned
  · intro means
    exact ⟨records.length + 2, authorized_members_of_roster means (Nat.le_refl _)⟩

end

end Stitch.P2P.AuthorizedMembers
