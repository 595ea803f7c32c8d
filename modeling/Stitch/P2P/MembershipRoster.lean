import Stitch.P2P.AuthorizedMembers
import Stitch.P2P.NodeState

/-!
# Membership of a scope

Transcription of `Membership::authorized_with`. The authorized map is a function of the write
each visible `_members` record shows. That write is settled before any authority is looked at:
a peer without authority cannot add a member, but it can replace the record that made one.
-/

namespace Stitch.P2P.MembershipRoster

open Foundation.FiniteMap Foundation.Delegation HybridClock LastWriterWins WireFormat
open NodeState AuthorizedMembers

section

/-- A node's state seen by the holder of a `Membership`, with the genesis owner. -/
structure Membership where
  node : SyncState
  owner : PeerId

/-- The closure of the `filter_map` in `authorized_with`. -/
def memberRecord (entry : String × List UInt8 × PeerId) : Except Fault (Option MemberRecord) :=
  match peerFromRecordId entry.1 with
  | .error fault => .error fault
  | .ok none => .ok none
  | .ok (some target) =>
    .ok ((entry.2.1.head?.bind Role.fromByte).map fun role => ⟨target, entry.2.2, role⟩)

def memberRecords : List (String × List UInt8 × PeerId) → Except Fault (List MemberRecord)
  | [] => .ok []
  | entry :: rest =>
    match memberRecord entry with
    | .error fault => .error fault
    | .ok none => memberRecords rest
    | .ok (some record) =>
      match memberRecords rest with
      | .error fault => .error fault
      | .ok records => .ok (record :: records)

/-- `order` visits the cells of the applier the extra frames are merged into. -/
def Membership.authorizedWith (membership : Membership) (order : List RecordKey)
    (extra : List WriteFrame) (passes : Nat) : Except Fault Roster :=
  match memberRecords
      (membership.node.entriesWithAuthorsIncluding order membersEntity extra) with
  | .error fault => .error fault
  | .ok records => authorizedMembers passes membership.owner records

def Membership.authorized (membership : Membership) (order : List RecordKey) (passes : Nat) :
    Except Fault Roster :=
  membership.authorizedWith order [] passes

theorem authorized_with_merged (membership : Membership) (order : List RecordKey)
    (extra : List WriteFrame) (passes : Nat) :
    membership.authorizedWith order extra passes =
      Membership.authorized
        ⟨{ membership.node with applier := mergeAll membership.node.applier extra },
          membership.owner⟩ order passes := by
  cases extra with
  | nil | cons frame rest => rfl

variable {membership : Membership} {order : List RecordKey}

theorem authorized_of_records {collected : Except Fault (List MemberRecord)}
    (read : memberRecords (membership.node.applier.entriesWithAuthors order membersEntity) =
      collected)
    (passes : Nat) :
    membership.authorized order passes =
      collected.bind (authorizedMembers passes membership.owner) := by
  rw [← read, Membership.authorized, Membership.authorizedWith]
  change _ = (memberRecords (membership.node.entriesWithAuthorsIncluding order _ [])).bind _
  cases memberRecords (membership.node.entriesWithAuthorsIncluding order membersEntity []) with
  | error fault | ok records => rfl

/-- In every iteration order, with enough passes, the authorized map is returned and is
the given one. -/
def Membership.AuthorizedIs (membership : Membership) (roster : Roster) : Prop :=
  ∀ order, Visits order membership.node.applier.cells →
    ∃ passes, membership.authorized order passes = .ok roster

def idReadable (id : String) : Bool :=
  match peerFromRecordId id with
  | .error _ => false
  | .ok _ => true

def recordShown (id : String) (shown : Option StampedWrite) : Option MemberRecord :=
  shown.bind fun write =>
    match memberRecord (id, write.data, write.stamp.peer) with
    | .error _ => none
    | .ok record => record

theorem member_record_error_iff (entry : String × List UInt8 × PeerId) :
    (∃ fault, memberRecord entry = .error fault) ↔ idReadable entry.1 = false := by
  unfold memberRecord idReadable
  cases peerFromRecordId entry.1 with
  | error fault => simp
  | ok read => cases read <;> simp

variable {entries : List (String × List UInt8 × PeerId)} {view : String → Option StampedWrite}

theorem member_records_ok (readable : ∀ entry ∈ entries, idReadable entry.1 = true) :
    ∃ records, memberRecords entries = .ok records ∧
      ∀ record, record ∈ records ↔ ∃ entry ∈ entries, memberRecord entry = .ok (some record) := by
  induction entries with
  | nil => exact ⟨[], rfl, by simp⟩
  | cons entry rest ih =>
    rw [List.forall_mem_cons] at readable
    obtain ⟨records, collected, members⟩ := ih readable.2
    cases parsed : memberRecord entry with
    | error fault =>
      have unreadable := (member_record_error_iff entry).mp ⟨fault, parsed⟩
      rw [readable.1] at unreadable
      cases unreadable
    | ok read =>
      cases read with
      | none => exact ⟨records, by simp [memberRecords, parsed, collected], by
          simp [parsed, members]⟩
      | some first => exact ⟨first :: records, by simp [memberRecords, parsed, collected], by
          simp [parsed, members, eq_comm]⟩

theorem member_records_error {entry : String × List UInt8 × PeerId} (listed : entry ∈ entries)
    (unreadable : idReadable entry.1 = false) :
    ∃ fault, memberRecords entries = .error fault := by
  obtain ⟨fault, failed⟩ := (member_record_error_iff entry).mpr unreadable
  induction entries with
  | nil => cases listed
  | cons first rest ih =>
    rcases List.mem_cons.mp listed with rfl | later
    · exact ⟨fault, by simp [memberRecords, failed]⟩
    · obtain ⟨restFault, restFailed⟩ := ih later
      cases parsed : memberRecord first with
      | error firstFault => exact ⟨firstFault, by simp [memberRecords, parsed]⟩
      | ok read => cases read <;> exact ⟨restFault, by simp [memberRecords, parsed, restFailed]⟩

def memberView (applier : Applier) (id : String) : Option StampedWrite :=
  (applier.cell (membersEntity, id)).shown

def recordsOf (view : String → Option StampedWrite) : Set MemberRecord :=
  {record | ∃ id, recordShown id (view id) = some record}

def AllReadable (view : String → Option StampedWrite) : Prop :=
  ∀ id, (view id).isSome = true → idReadable id = true

/-- What the authorized map means for a view: every id is read, and the map is
the authority delegated by the records. -/
def Means (owner : PeerId) (view : String → Option StampedWrite) (roster : Roster) : Prop :=
  AllReadable view ∧ ∀ peer role, roster.lookup peer = some role ↔
    Authorizes owner (recordsOf view) peer role

theorem record_shown_iff (id : String) (shown : Option StampedWrite) (record : MemberRecord) :
    recordShown id shown = some record ↔
      ∃ write, shown = some write ∧
        memberRecord (id, write.data, write.stamp.peer) = .ok (some record) := by
  cases shown with
  | none => simp [recordShown]
  | some write =>
    simp only [recordShown, Option.bind_some, Option.some.injEq, exists_eq_left']
    cases memberRecord (id, write.data, write.stamp.peer) <;> simp

section

variable {membership : Membership} {order : List RecordKey}
  (visits : Visits order membership.node.applier.cells)
include visits

theorem collected_records_view (record : MemberRecord) :
    (∃ entry ∈ membership.node.applier.entriesWithAuthors order membersEntity,
      memberRecord entry = .ok (some record)) ↔
      record ∈ recordsOf (memberView membership.node.applier) := by
  constructor
  · intro collected
    rcases collected with ⟨⟨id, data, author⟩, listed, parsed⟩
    obtain ⟨write, shown, rfl, rfl⟩ := (mem_entries_with_authors visits _ _ _ _).mp listed
    exact ⟨id, (record_shown_iff _ _ _).mpr ⟨write, shown, parsed⟩⟩
  · intro recorded
    rcases recorded with ⟨id, parsed⟩
    obtain ⟨write, shown, parsed⟩ := (record_shown_iff _ _ _).mp parsed
    exact ⟨_, (mem_entries_with_authors visits _ _ _ _).mpr ⟨write, shown, rfl, rfl⟩, parsed⟩

theorem entries_ids_iff (holds : String → Prop) :
    (∀ entry ∈ membership.node.applier.entriesWithAuthors order membersEntity, holds entry.1) ↔
      ∀ id, (memberView membership.node.applier id).isSome = true → holds id := by
  constructor
  · intro all id shown
    obtain ⟨write, isShown⟩ := Option.isSome_iff_exists.mp shown
    exact all _ ((mem_entries_with_authors visits _ _ _ _).mpr ⟨write, isShown, rfl, rfl⟩)
  · intro all entry listed
    rcases entry with ⟨id, data, author⟩
    obtain ⟨write, shown, -, -⟩ := (mem_entries_with_authors visits _ _ _ _).mp listed
    exact all id (Option.isSome_iff_exists.mpr ⟨write, shown⟩)

theorem entries_readable_iff :
    (∀ entry ∈ membership.node.applier.entriesWithAuthors order membersEntity,
      idReadable entry.1 = true) ↔ AllReadable (memberView membership.node.applier) :=
  entries_ids_iff visits fun id => idReadable id = true

theorem collected_records (readable : AllReadable (memberView membership.node.applier)) :
    ∃ records, memberRecords
        (membership.node.applier.entriesWithAuthors order membersEntity) = .ok records ∧
      {record | record ∈ records} = recordsOf (memberView membership.node.applier) := by
  obtain ⟨records, collected, members⟩ :=
    member_records_ok ((entries_readable_iff visits).mpr readable)
  refine ⟨records, collected, ?_⟩
  ext record
  exact (members record).trans (collected_records_view visits record)

theorem uncollected_records (unreadable : ¬AllReadable (memberView membership.node.applier)) :
    ∃ fault, memberRecords
      (membership.node.applier.entriesWithAuthors order membersEntity) = .error fault := by
  have unread := mt (entries_readable_iff visits).mp unreadable
  push Not at unread
  obtain ⟨entry, listed, entryUnread⟩ := unread
  exact member_records_error listed (Bool.eq_false_iff.mpr entryUnread)

theorem authorized_returns_iff (roster : Roster) :
    (∃ passes, membership.authorized order passes = .ok roster) ↔
      Means membership.owner (memberView membership.node.applier) roster := by
  by_cases readable : AllReadable (memberView membership.node.applier)
  · obtain ⟨records, collected, same⟩ := collected_records visits readable
    simp only [authorized_of_records collected, Except.bind, Means]
    rw [← same, ← authorized_members_returns_iff]
    exact (and_iff_right readable).symm
  · obtain ⟨fault, failed⟩ := uncollected_records visits readable
    simp only [authorized_of_records failed, Except.bind]
    constructor
    · intro ended
      rcases ended with ⟨passes, returned⟩
      cases returned
    · intro means
      exact (readable means.1).elim

end

theorem authorized_is_iff (membership : Membership) (roster : Roster) :
    membership.AuthorizedIs roster ↔
      Means membership.owner (memberView membership.node.applier) roster := by
  constructor
  · intro returned
    obtain ⟨order, visits⟩ := exists_visits membership.node.applier.cells
    exact (authorized_returns_iff visits roster).mp (returned order visits)
  · intro means order visits
    exact (authorized_returns_iff visits roster).mpr means

variable {membership : Membership}

theorem authorized_is_of_returned {order : List RecordKey}
    (visits : Visits order membership.node.applier.cells) {passes : Nat} {roster : Roster}
    (returned : membership.authorized order passes = .ok roster) :
    membership.AuthorizedIs roster :=
  (authorized_is_iff _ _).mpr ((authorized_returns_iff visits roster).mp ⟨passes, returned⟩)

theorem authorized_is_unique {left right : Roster} (leftIs : membership.AuthorizedIs left)
    (rightIs : membership.AuthorizedIs right) :
    left = right := by
  rw [authorized_is_iff] at leftIs rightIs
  apply ext_of_lookup_iff
  intro peer role
  rw [leftIs.2, rightIs.2]

theorem authorized_is_exists (membership : Membership)
    (readable : AllReadable (memberView membership.node.applier))
    (single : SingleRole membership.owner (recordsOf (memberView membership.node.applier))) :
    ∃ roster, membership.AuthorizedIs roster := by
  obtain ⟨order, visits⟩ := exists_visits membership.node.applier.cells
  obtain ⟨records, -, same⟩ := collected_records visits readable
  rw [← same] at single
  obtain ⟨roster, ended⟩ := authorized_members_ends single (Nat.le_refl _)
  have means := (authorized_members_returns_iff membership.owner records roster).mp ⟨_, ended⟩
  rw [same] at means
  exact ⟨roster, (authorized_is_iff _ _).mpr ⟨readable, means⟩⟩

/-- Every shown record has the id that `member_record_id` gives its target. -/
def CanonicalIds (view : String → Option StampedWrite) : Prop :=
  ∀ id, (view id).isSome = true → ∃ peer, id = memberRecordId peer

theorem canonical_ids_readable (canonical : CanonicalIds view) : AllReadable view := by
  intro id shown
  obtain ⟨peer, rfl⟩ := canonical id shown
  rw [idReadable, peer_from_member_record_id]

theorem canonical_record_id (canonical : CanonicalIds view) {id : String} {record : MemberRecord}
    (recorded : recordShown id (view id) = some record) : id = memberRecordId record.target := by
  obtain ⟨write, shown, parsed⟩ := (record_shown_iff _ _ _).mp recorded
  obtain ⟨peer, rfl⟩ := canonical id (Option.isSome_iff_exists.mpr ⟨write, shown⟩)
  rw [memberRecord, peer_from_member_record_id] at parsed
  rw [Except.ok.injEq, Option.map_eq_some_iff] at parsed
  obtain ⟨role, -, rfl⟩ := parsed
  rfl

theorem single_grant_of_named (named : ∀ id record, recordShown id (view id) = some record →
      id = memberRecordId record.target) :
    ∀ left ∈ recordsOf view, ∀ right ∈ recordsOf view, left.target = right.target →
      left = right := by
  intro left leftListed right rightListed sameTarget
  rcases leftListed with ⟨leftId, leftShown⟩
  rcases rightListed with ⟨rightId, rightShown⟩
  have sameId : leftId = rightId := by
    rw [named _ _ leftShown, named _ _ rightShown, sameTarget]
  rw [sameId, rightShown, Option.some.injEq] at leftShown
  exact leftShown.symm

theorem canonical_single_grant (canonical : CanonicalIds view) :
    ∀ left ∈ recordsOf view, ∀ right ∈ recordsOf view, left.target = right.target →
      left = right :=
  single_grant_of_named fun _ _ recorded => canonical_record_id canonical recorded

theorem single_role_of_single_grant (owner : PeerId) {records : Set MemberRecord}
    (single : ∀ left ∈ records, ∀ right ∈ records, left.target = right.target → left = right) :
    SingleRole owner records := by
  intro peer first second firstDerived secondDerived
  apply derives_functional _ firstDerived secondDerived
  intro left leftListed right rightListed sameTarget
  rw [single left leftListed right rightListed sameTarget]

theorem canonical_ids_single_role (owner : PeerId) (canonical : CanonicalIds view) :
    SingleRole owner (recordsOf view) :=
  single_role_of_single_grant owner (canonical_single_grant canonical)

end

section

def recordsBesides (view : String → Option StampedWrite) (id : String) : Set MemberRecord :=
  {record | ∃ other, other ≠ id ∧ recordShown other (view other) = some record}

variable {view after before : String → Option StampedWrite} {id : String} {owner : PeerId}
  {roster : Roster}

theorem records_of_none (unrecorded : recordShown id (view id) = none) :
    recordsOf view = recordsBesides view id := by
  ext record
  constructor
  · intro recorded
    rcases recorded with ⟨other, shown⟩
    refine ⟨other, ?_, shown⟩
    intro same
    subst same
    rw [unrecorded] at shown
    cases shown
  · intro recorded
    rcases recorded with ⟨other, -, shown⟩
    exact ⟨other, shown⟩

theorem records_of_some {own : MemberRecord} (recorded : recordShown id (view id) = some own) :
    recordsOf view = insert own (recordsBesides view id) := by
  ext record
  constructor
  · intro listed
    rcases listed with ⟨other, shown⟩
    by_cases same : other = id
    · subst same
      rw [recorded, Option.some.injEq] at shown
      exact Or.inl shown.symm
    · exact Or.inr ⟨other, same, shown⟩
  · intro listed
    rcases listed with rfl | ⟨other, -, shown⟩
    · exact ⟨id, recorded⟩
    · exact ⟨other, shown⟩

theorem records_besides_congr {left right : String → Option StampedWrite}
    (same : ∀ other, other ≠ id → left other = right other) :
    recordsBesides left id = recordsBesides right id := by
  ext record
  constructor
  · intro listed
    rcases listed with ⟨other, different, shown⟩
    exact ⟨other, different, by rw [← same other different, shown]⟩
  · intro listed
    rcases listed with ⟨other, different, shown⟩
    exact ⟨other, different, by rw [same other different, shown]⟩

theorem record_shown_granter {write : StampedWrite} {record : MemberRecord}
    (recorded : recordShown id (some write) = some record) :
    record.granter = write.stamp.peer := by
  obtain ⟨_, same, parsed⟩ := (record_shown_iff _ _ _).mp recorded
  cases same
  unfold memberRecord at parsed
  split at parsed
  · cases parsed
  · cases parsed
  · rw [Except.ok.injEq, Option.map_eq_some_iff] at parsed
    obtain ⟨role, -, rfl⟩ := parsed
    rfl

theorem able_iff_can_admin (means : Means owner view roster) (peer : PeerId) :
    Able (fun role => role.canAdmin = true) owner Role.owner (recordsOf view) peer ↔
      canAdminIn roster peer = true := by
  rw [can_admin_in_iff]
  exact exists_congr fun role => and_congr_left' (means.2 peer role).symm

variable (means : Means owner before roster)
  (others : ∀ other, other ≠ id → after other = before other)
  (outsider : ∀ write, after id = some write → canAdminIn roster write.stamp.peer = false)

include means others outsider

theorem outsider_record_idle (peer : PeerId) (role : Role) :
    Authorizes owner (recordsOf after) peer role ↔
      Authorizes owner (recordsBesides before id) peer role := by
  have besides := records_besides_congr others
  cases recorded : recordShown id (after id) with
  | none => rw [records_of_none recorded, besides]
  | some record =>
    rw [records_of_some recorded, besides]
    apply derives_insert_idle
    intro authority
    rcases authority with ⟨held, derived, able⟩
    obtain ⟨write, shown, -⟩ := (record_shown_iff _ _ _).mp recorded
    rw [shown] at recorded
    have included : recordsBesides before id ⊆ recordsOf before := by
      intro other listed
      rcases listed with ⟨otherId, -, found⟩
      exact ⟨otherId, found⟩
    have ableBefore := (able_iff_can_admin means record.granter).mp
      ⟨held, derives_mono included derived, able⟩
    rw [record_shown_granter recorded, outsider write shown] at ableBefore
    cases ableBefore

/-- A write without authority keeps the meaning exactly when its id is read and the record it
replaces is not missed. -/
theorem outsider_replacement_iff :
    Means owner after roster ↔
      ((after id).isSome = true → idReadable id = true) ∧
        ∀ replaced, recordShown id (before id) = some replaced →
          replaced.target = owner ∨ canAdminIn roster replaced.granter = false ∨
            Authorizes owner (recordsBesides before id) replaced.target replaced.role := by
  have readable : AllReadable after ↔ ((after id).isSome = true → idReadable id = true) := by
    constructor
    · intro all
      exact all id
    · intro here other shown
      by_cases same : other = id
      · rw [same] at shown ⊢
        exact here shown
      · rw [others other same] at shown
        exact means.1 other shown
  apply and_congr readable
  simp only [means.2, outsider_record_idle means others outsider]
  cases recorded : recordShown id (before id) with
  | none => simp [records_of_none recorded]
  | some replaced =>
    rw [records_of_some recorded, derives_insert_redundant_iff, ← records_of_some recorded,
      able_iff_can_admin means, Bool.not_eq_true]
    simp only [Option.some.injEq, forall_eq']

omit means others outsider

theorem receive_member_view {node : SyncState} {persisted : Bool} {frame : WriteFrame}
    {wallMs : Nat} (appended : (node.receive persisted frame wallMs).2 = .appended)
    (id : String) :
    memberView (node.receive persisted frame wallMs).1.applier id =
      if frame.entity = membersEntity ∧ id = frame.id ∧
          (node.applier.cell (membersEntity, id)).admits frame.stamp = true then
        (if frame.op.isDelete then none else some frame.intoStamped)
      else memberView node.applier id := by
  unfold memberView
  rw [receive_shown _ _ _ _ appended]
  apply if_congr _ rfl rfl
  rw [Prod.mk.injEq, and_assoc, eq_comm]

/-- The frame is no membership write, or it loses, or its id is read and the record it replaces was
not in force or is implied by the others. -/
def LeavesRoster (membership : Membership) (roster : Roster) (frame : WriteFrame) : Prop :=
  frame.entity = membersEntity →
    (membership.node.applier.cell (membersEntity, frame.id)).admits frame.stamp = true →
    (frame.op.isDelete = true ∨ idReadable frame.id = true) ∧
      ∀ replaced,
        recordShown frame.id (memberView membership.node.applier frame.id) = some replaced →
        replaced.target = membership.owner ∨ canAdminIn roster replaced.granter = false ∨
          Authorizes membership.owner
            (recordsBesides (memberView membership.node.applier) frame.id)
            replaced.target replaced.role

/-- A verified, in-order frame of a peer that is neither owner nor admin keeps
the authorized map exactly when it leaves the roster alone. -/
theorem outsider_frame_keeps_roster_iff (membership : Membership) (roster : Roster)
    (evaluated : membership.AuthorizedIs roster) (persisted : Bool) (frame : WriteFrame)
    (wallMs : Nat)
    (appended : (membership.node.receive persisted frame wallMs).2 = .appended)
    (outsider : canAdminIn roster frame.stamp.peer = false) :
    Membership.AuthorizedIs ⟨(membership.node.receive persisted frame wallMs).1, membership.owner⟩
      roster ↔ LeavesRoster membership roster frame := by
  rw [authorized_is_iff] at evaluated ⊢
  have view := receive_member_view appended
  by_cases replaces : frame.entity = membersEntity ∧
      (membership.node.applier.cell (membersEntity, frame.id)).admits frame.stamp = true
  · have others : ∀ other, other ≠ frame.id →
        memberView (membership.node.receive persisted frame wallMs).1.applier other =
          memberView membership.node.applier other := by
      intro other different
      rw [view, if_neg (fun here => different here.2.1)]
    have shown : memberView (membership.node.receive persisted frame wallMs).1.applier frame.id =
        if frame.op.isDelete then none else some frame.intoStamped := by
      rw [view, if_pos ⟨replaces.1, rfl, replaces.2⟩]
    rw [outsider_replacement_iff evaluated others, shown]
    · simp only [LeavesRoster, replaces, true_implies]
      apply and_congr_left'
      cases frame.op.isDelete <;> simp
    · intro write isShown
      rw [shown] at isShown
      split_ifs at isShown
      cases isShown
      exact outsider
  · have same : memberView (membership.node.receive persisted frame wallMs).1.applier =
        memberView membership.node.applier := by
      funext id
      rw [view, if_neg]
      intro replaced
      rcases replaced with ⟨entity, rfl, admitted⟩
      exact replaces ⟨entity, admitted⟩
    rw [same]
    refine iff_of_true evaluated ?_
    intro entity admitted
    exact (replaces ⟨entity, admitted⟩).elim

def signedInvite (author target : UInt8) (wallMs : Nat) (role : Role) : WriteFrame where
  stamp := ⟨⟨wallMs, 0⟩, peerNumber author⟩
  seq := 1
  op := .insert
  entity := membersEntity
  id := memberRecordId (peerNumber target)
  data := [role.asByte]
  signature := some (signedOnly.sign [])

def invitedMembership : Membership where
  node := (((SyncState.new (peerNumber 1)).setAuth signedOnly).receive true
    (signedInvite 1 2 1 .member) 5).1
  owner := peerNumber 1

def invitedRoster : Roster :=
  Finmap.insert (peerNumber 2) .member (Finmap.insert (peerNumber 1) .owner ∅)

theorem invited_roster_authorized : invitedMembership.AuthorizedIs invitedRoster := by
  have visits : Visits [(membersEntity, memberRecordId (peerNumber 2))]
      invitedMembership.node.applier.cells := visits_of_keys (by decide) (by decide)
  have returned : invitedMembership.authorized
      [(membersEntity, memberRecordId (peerNumber 2))] 2 = .ok invitedRoster := by decide
  exact authorized_is_of_returned visits returned

/-- Peer 3 invites itself, without effect. -/
theorem self_invite_keeps_roster :
    invitedMembership.AuthorizedIs invitedRoster ∧
      canAdminIn invitedRoster (peerNumber 3) = false ∧
      (invitedMembership.node.receive true (signedInvite 3 3 2 .admin) 6).2 = .appended ∧
      Membership.AuthorizedIs
        ⟨(invitedMembership.node.receive true (signedInvite 3 3 2 .admin) 6).1, peerNumber 1⟩
        invitedRoster := by
  have appended : (invitedMembership.node.receive true (signedInvite 3 3 2 .admin) 6).2 =
      .appended := by decide
  have outsider : canAdminIn invitedRoster (peerNumber 3) = false := by decide
  refine ⟨invited_roster_authorized, outsider, appended, ?_⟩
  apply (outsider_frame_keeps_roster_iff invitedMembership invitedRoster
    invited_roster_authorized true _ 6 appended outsider).mpr
  intro _ _
  have unused : recordShown (memberRecordId (peerNumber 3))
      (memberView invitedMembership.node.applier (memberRecordId (peerNumber 3))) = none := by
    decide
  refine ⟨Or.inr (by decide), ?_⟩
  intro replaced found
  rw [show (signedInvite 3 3 2 .admin).id = memberRecordId (peerNumber 3) from rfl, unused]
    at found
  cases found

/-- Peer 3 invites peer 2 again: the invite is ignored, and so is now the owner's. -/
theorem outsider_invite_unseats_member :
    invitedMembership.AuthorizedIs invitedRoster ∧
      canAdminIn invitedRoster (peerNumber 3) = false ∧
      (invitedMembership.node.receive true (signedInvite 3 2 2 .member) 6).2 = .appended ∧
      ¬Membership.AuthorizedIs
        ⟨(invitedMembership.node.receive true (signedInvite 3 2 2 .member) 6).1, peerNumber 1⟩
        invitedRoster := by
  refine ⟨invited_roster_authorized, by decide, by decide, ?_⟩
  intro kept
  have visits : Visits [(membersEntity, memberRecordId (peerNumber 2))]
      (invitedMembership.node.receive true (signedInvite 3 2 2 .member) 6).1.applier.cells :=
    visits_of_keys (by decide) (by decide)
  have returned : Membership.authorized
      ⟨(invitedMembership.node.receive true (signedInvite 3 2 2 .member) 6).1, peerNumber 1⟩
      [(membersEntity, memberRecordId (peerNumber 2))] 2 =
        .ok (Finmap.insert (peerNumber 1) .owner ∅) := by decide
  have same := authorized_is_unique (authorized_is_of_returned visits returned) kept
  exact absurd same (by decide)

end

end Stitch.P2P.MembershipRoster
