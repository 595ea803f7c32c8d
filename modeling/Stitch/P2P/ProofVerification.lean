import Stitch.P2P.Convergence
import Stitch.P2P.RecordEvaluation

/-!
# Verification of membership proofs

Transcription of `verify_frame` and `Membership::verify_proof` in `membership.rs` and of
`SyncNode::ingest` in `node.rs`. The signature scheme is a parameter.
-/

namespace Stitch.P2P.ProofVerification

open Foundation.FiniteMap HybridClock LastWriterWins WireFormat ReplicationLog
open NodeState Convergence AuthorizedMembers MembershipRoster RecordEvaluation

/-- The verifying side of the signature library: whether a peer id is a key, and
whether a signature over the bytes checks under it. -/
structure SignatureScheme where
  keyReads : PeerId → Bool
  checks : PeerId → List UInt8 → Signature → Bool

def verifyFrame (scheme : SignatureScheme) (frame : WriteFrame) : Bool :=
  match frame.signature with
  | none => false
  | some signature =>
    if scheme.keyReads frame.stamp.peer then
      match frame.signingBytes with
      | .error _ => false
      | .ok bytes => scheme.checks frame.stamp.peer bytes signature
    else false

/-- The state after the frames were received in order, and the frames that were
appended. `persisted` is the answer of the persister to each frame. -/
def ingest (state : SyncState) (persisted : WriteFrame → Bool) (now : Nat)
    (frames : List WriteFrame) : SyncState × List WriteFrame :=
  frames.foldl
    (fun current frame =>
      let received := current.1.receive (persisted frame) frame now
      (received.1,
        if received.2 = .appended then current.2 ++ [frame] else current.2))
    (state, [])

def verifiedFrames (scheme : SignatureScheme) (presented : List WriteFrame) : List WriteFrame :=
  presented.filter fun frame => frame.entity = membersEntity && verifyFrame scheme frame

/-- `order` visits the cells of the scratch applier. -/
def verifyProof (membership : Membership) (scheme : SignatureScheme) (order : List RecordKey)
    (passes : Nat) (persisted : WriteFrame → Bool) (now : Nat) (key : PeerId)
    (presented : List WriteFrame) : Except Fault (Membership × Bool) :=
  let verified := verifiedFrames scheme presented
  match membership.authorizedWith order verified passes with
  | .error fault => .error fault
  | .ok roster =>
    let admitted := (roster.lookup key).isSome
    if admitted && !verified.isEmpty then
      .ok ({ membership with node := (ingest membership.node persisted now verified).1 }, admitted)
    else .ok (membership, admitted)

def scratch (membership : Membership) (scheme : SignatureScheme) (presented : List WriteFrame) :
    Applier :=
  mergeAll membership.node.applier (verifiedFrames scheme presented)

/-- In every iteration order, with enough passes, `verify_proof` returns the
given answer. -/
def Decides (membership : Membership) (scheme : SignatureScheme) (key : PeerId)
    (presented : List WriteFrame) (admitted : Bool) : Prop :=
  ∀ order, Visits order (scratch membership scheme presented).cells →
    ∀ persisted now, ∃ passes after,
      verifyProof membership scheme order passes persisted now key presented = .ok (after, admitted)

section

variable {membership : Membership} {scheme : SignatureScheme} {order : List RecordKey}
  {key : PeerId} {presented : List WriteFrame} {admitted : Bool}

def scratchMembership (membership : Membership) (scheme : SignatureScheme)
    (presented : List WriteFrame) : Membership :=
  ⟨{ membership.node with applier := scratch membership scheme presented }, membership.owner⟩

theorem authorized_with_verified (passes : Nat) :
    membership.authorizedWith order (verifiedFrames scheme presented) passes =
      (scratchMembership membership scheme presented).authorized order passes :=
  authorized_with_merged membership order (verifiedFrames scheme presented) passes

theorem verify_proof_returned (visits : Visits order (scratch membership scheme presented).cells)
    {passes now : Nat} {persisted : WriteFrame → Bool} {after : Membership}
    (returned : verifyProof membership scheme order passes persisted now key presented =
      .ok (after, admitted)) :
    ∃ roster, Means membership.owner (memberView (scratch membership scheme presented)) roster ∧
      admitted = (roster.lookup key).isSome := by
  simp only [verifyProof, authorized_with_verified] at returned
  cases evaluated : (scratchMembership membership scheme presented).authorized order passes with
  | error fault => simp [evaluated] at returned
  | ok roster =>
    have visited : Visits order
        (scratchMembership membership scheme presented).node.applier.cells := visits
    refine ⟨roster, (authorized_returns_iff visited roster).mp ⟨passes, evaluated⟩, ?_⟩
    simp only [evaluated] at returned
    split_ifs at returned <;> cases returned <;> rfl

theorem decides_of_means {roster : Roster}
    (means : Means membership.owner (memberView (scratch membership scheme presented)) roster) :
    Decides membership scheme key presented (roster.lookup key).isSome := by
  intro order visits persisted now
  have visited : Visits order
      (scratchMembership membership scheme presented).node.applier.cells := visits
  rcases (authorized_returns_iff visited roster).mpr means with ⟨passes, evaluated⟩
  refine ⟨passes, ?_⟩
  simp only [verifyProof, authorized_with_verified, evaluated]
  split_ifs
  · exact ⟨_, rfl⟩
  · exact ⟨_, rfl⟩

theorem decides_iff :
    Decides membership scheme key presented admitted ↔
      ∃ roster, Means membership.owner (memberView (scratch membership scheme presented)) roster ∧
        admitted = (roster.lookup key).isSome := by
  constructor
  · intro decided
    rcases exists_visits (scratch membership scheme presented).cells with ⟨order, visits⟩
    rcases decided order visits (fun _ => true) 0 with ⟨passes, after, returned⟩
    exact verify_proof_returned visits returned
  · intro meaning
    rcases meaning with ⟨roster, means, rfl⟩
    exact decides_of_means means

end

section

theorem merge_all_cell (applier : Applier) (frames : List WriteFrame) (key : RecordKey) :
    (mergeAll applier frames).cell key =
      (applier.cell key).mergeWrites
        ((frames.filter fun frame => recordKey frame = key).map WriteFrame.intoStamped) := by
  induction frames using List.reverseRecOn with
  | nil => rfl
  | append_singleton frames last ih =>
    have step : mergeAll applier (frames ++ [last]) =
        ((mergeAll applier frames).merge last.intoStamped).1 := by
      simp [mergeAll, List.foldl_append]
    have keyed : (last.intoStamped.entity, last.intoStamped.id) = recordKey last := rfl
    rw [step, merge_cell, keyed, List.filter_append, List.map_append, ih]
    by_cases same : recordKey last = key
    · rw [if_pos same.symm, List.filter_cons_of_pos (by simpa using same), List.filter_nil,
        List.map_singleton, merge_writes_snoc]
    · rw [if_neg (Ne.symm same), List.filter_cons_of_neg (by simpa using same), List.filter_nil,
        List.map_nil, List.append_nil]

def DistinctStamps (frames : List WriteFrame) : Prop :=
  ∀ left ∈ frames, ∀ right ∈ frames, recordKey left = recordKey right →
    left.stamp = right.stamp → left = right

/-- A frame that makes no difference: of another entity, not verified, or not
above the write held for its record or the tombstone collected there. -/
def Ignored (membership : Membership) (scheme : SignatureScheme) (frame : WriteFrame) : Prop :=
  let cell := membership.node.applier.cell (recordKey frame)
  frame.entity ≠ membersEntity ∨ verifyFrame scheme frame = false ∨
    (∃ held, cell.current = some held ∧ frame.stamp ≤ held.stamp) ∨
    ∃ floor, cell.gcFloor = some floor ∧ frame.stamp ≤ floor

variable {scheme : SignatureScheme} {presented : List WriteFrame}

theorem mem_verified_frames {frame : WriteFrame} :
    frame ∈ verifiedFrames scheme presented ↔
      frame ∈ presented ∧ frame.entity = membersEntity ∧ verifyFrame scheme frame = true := by
  simp [verifiedFrames]

variable {membership : Membership}

theorem scratch_cell_congr {presented others : List WriteFrame}
    (distinct : DistinctStamps presented) (included : ∀ frame ∈ presented, frame ∈ others)
    (ignored : ∀ frame ∈ others, frame ∈ presented ∨ Ignored membership scheme frame)
    (key : RecordKey) :
    (scratch membership scheme others).cell key =
      (scratch membership scheme presented).cell key := by
  unfold scratch
  rw [merge_all_cell, merge_all_cell]
  apply merge_writes_congr
  · intro write listed
    rw [List.mem_map] at listed ⊢
    rcases listed with ⟨frame, member, same⟩
    rw [List.mem_filter, mem_verified_frames] at member
    refine ⟨frame, ?_, same⟩
    rw [List.mem_filter, mem_verified_frames]
    exact ⟨⟨included frame member.1.1, member.1.2⟩, member.2⟩
  · intro write listed
    rw [List.mem_map] at listed
    rcases listed with ⟨frame, member, rfl⟩
    rw [List.mem_filter, mem_verified_frames, decide_eq_true_eq] at member
    rcases member with ⟨⟨listedFrame, entity, verified⟩, keyed⟩
    rcases ignored frame listedFrame with known | otherEntity | unverified | stale | stale
    · left
      rw [List.mem_map]
      refine ⟨frame, ?_, rfl⟩
      rw [List.mem_filter, mem_verified_frames, decide_eq_true_eq]
      exact ⟨⟨known, entity, verified⟩, keyed⟩
    · exact (otherEntity entity).elim
    · rw [verified] at unverified
      cases unverified
    · rcases stale with ⟨held, isHeld, lower⟩
      rw [keyed] at isHeld
      right
      rw [Bool.eq_false_iff, Ne, admits_iff]
      intro above
      exact absurd (above.2 held isHeld) (not_lt_of_ge lower)
    · rcases stale with ⟨floor, isFloor, lower⟩
      rw [keyed] at isFloor
      right
      rw [Bool.eq_false_iff, Ne, admits_iff]
      intro above
      exact absurd (above.1 floor isFloor) (not_lt_of_ge lower)
  · intro left leftListed right rightListed stamps
    rw [List.mem_map] at leftListed rightListed
    rcases leftListed with ⟨leftFrame, leftMember, rfl⟩
    rcases rightListed with ⟨rightFrame, rightMember, rfl⟩
    rw [List.mem_filter, mem_verified_frames, decide_eq_true_eq] at leftMember rightMember
    rw [distinct leftFrame leftMember.1.1 rightFrame rightMember.1.1
      (leftMember.2.trans rightMember.2.symm) stamps]

/-- A write of highest stamp. On equal stamps a held write comes first, and among held ones the one
with the smaller number. -/
def Decisive (held presented : List WriteFrame) (key : RecordKey) (frame : WriteFrame) : Prop :=
  frame ∈ writesTo (held ++ presented) key ∧
    ∀ other ∈ writesTo (held ++ presented) key, other.stamp ≤ frame.stamp ∧
      (other.stamp = frame.stamp → other ∈ held → frame ∈ held ∧ frame.seq ≤ other.seq)

/-- The membership records of the decisive writes; a deleted record contributes none. -/
def decisiveRecords (held presented : List WriteFrame) : Set MemberRecord :=
  {record | ∃ id frame, Decisive held presented (membersEntity, id) frame ∧
    frame.op.isDelete = false ∧ recordShown id (some frame.intoStamped) = some record}

variable {logs : OriginLogs} {delivered : List WriteFrame}

theorem decisive_unique {held presented : List WriteFrame}
    (written : ∀ frame ∈ held, logs.Contains frame) (distinct : DistinctStamps presented)
    {key : RecordKey} {left right : WriteFrame} (leftDecisive : Decisive held presented key left)
    (rightDecisive : Decisive held presented key right) : left = right := by
  rcases leftDecisive with ⟨⟨leftListed, leftKeyed⟩, leftAbove⟩
  rcases rightDecisive with ⟨⟨rightListed, rightKeyed⟩, rightAbove⟩
  have ofLeft := leftAbove right ⟨rightListed, rightKeyed⟩
  have ofRight := rightAbove left ⟨leftListed, leftKeyed⟩
  have stamps := le_antisymm ofRight.1 ofLeft.1
  have held_iff : left ∈ held ↔ right ∈ held :=
    ⟨fun leftHeld => (ofRight.2 stamps leftHeld).1,
      fun rightHeld => (ofLeft.2 stamps.symm rightHeld).1⟩
  by_cases leftHeld : left ∈ held
  · have rightHeld := held_iff.mp leftHeld
    have seqs := Nat.le_antisymm (ofLeft.2 stamps.symm rightHeld).2 (ofRight.2 stamps leftHeld).2
    exact contains_unique (written left leftHeld) (written right rightHeld)
      (congrArg Stamp.peer stamps) seqs
  · have rightNotHeld := fun rightHeld => leftHeld (held_iff.mpr rightHeld)
    exact distinct left ((List.mem_append.mp leftListed).resolve_left leftHeld) right
      ((List.mem_append.mp rightListed).resolve_left rightNotHeld)
      (leftKeyed.trans rightKeyed.symm) stamps

theorem mem_record_writes {frames : List WriteFrame} {key : RecordKey} {write : StampedWrite} :
    write ∈ (frames.filter fun frame => recordKey frame = key).map WriteFrame.intoStamped ↔
      ∃ frame ∈ writesTo frames key, frame.intoStamped = write := by
  simp [writesTo]

theorem scratch_shows_decisive (tracks : Tracks logs delivered membership.node)
    (scheme : SignatureScheme) (presented : List WriteFrame) (key : RecordKey) :
    (writesTo (delivered ++ verifiedFrames scheme presented) key = ∅ ∧
        ((scratch membership scheme presented).cell key).shown = none) ∨
      ∃ frame, Decisive delivered (verifiedFrames scheme presented) key frame ∧
        ((scratch membership scheme presented).cell key).shown =
          if frame.op.isDelete then none else some frame.intoStamped := by
  have summary := tracks.cells key
  rw [scratch, merge_all_cell]
  rcases merge_writes_cases (membership.node.applier.cell key) _ with
    ⟨refused, same⟩ | ⟨write, listed, admitted, highest, current, -⟩
  · -- Nothing presented is admitted: the held writes decide.
    have lower : ∀ other ∈ writesTo (verifiedFrames scheme presented) key,
        (membership.node.applier.cell key).admits other.stamp = false := fun other member =>
      refused other.intoStamped (mem_record_writes.mpr ⟨other, member, rfl⟩)
    rw [same]
    rcases summary with ⟨none, empty⟩ | ⟨latest, isLatest, standing⟩
    · left
      rw [empty] at lower ⊢
      refine ⟨?_, rfl⟩
      rw [Set.eq_empty_iff_forall_notMem]
      intro other member
      rcases List.mem_append.mp member.1 with early | late
      · have held : other ∈ writesTo delivered key := ⟨early, member.2⟩
        rw [none] at held
        exact held
      · exact absurd (lower other ⟨late, member.2⟩) (by simp [Cell.admits, Cell.empty, atOrBelow])
    · right
      refine ⟨latest, ⟨⟨List.mem_append_left _ isLatest.1.1, isLatest.1.2⟩, ?_⟩,
        stands_for_shown standing⟩
      intro other member
      have ranked : other ∈ delivered → other.stamp < latest.stamp ∨
          other.stamp = latest.stamp ∧ latest.seq ≤ other.seq := fun held =>
        (rank_le_iff other latest).mp (isLatest.2 other ⟨held, member.2⟩)
      constructor
      · rcases List.mem_append.mp member.1 with early | late
        · rcases ranked early with less | ⟨equal, -⟩
          · exact less.le
          · exact equal.le
        · have unadmitted := lower other ⟨late, member.2⟩
          rw [Bool.eq_false_iff, Ne, stands_for_admits standing] at unadmitted
          exact not_lt.mp unadmitted
      · intro equal held
        rcases ranked held with less | ⟨-, seq⟩
        · exact absurd equal less.ne
        · exact ⟨isLatest.1.1, seq⟩
  · -- The highest admitted frame is above everything held.
    rcases mem_record_writes.mp listed with ⟨frame, member, rfl⟩
    right
    refine ⟨frame, ⟨⟨List.mem_append_right _ member.1, member.2⟩, ?_⟩, ?_⟩
    · intro other otherMember
      have above : other ∈ delivered → other.stamp < frame.stamp := fun held =>
        summarizes_admits summary admitted ⟨held, otherMember.2⟩
      constructor
      · rcases List.mem_append.mp otherMember.1 with early | late
        · exact (above early).le
        · exact highest _ (mem_record_writes.mpr ⟨other, ⟨late, otherMember.2⟩, rfl⟩)
      · intro equal held
        exact absurd equal (above held).ne
    · simp only [Cell.shown, current]
      rfl

theorem scratch_records (membership : Membership) (tracks : Tracks logs delivered membership.node)
    (scheme : SignatureScheme) (distinct : DistinctStamps presented) :
    recordsOf (memberView (scratch membership scheme presented)) =
      decisiveRecords delivered (verifiedFrames scheme presented) := by
  have written : ∀ frame ∈ delivered, logs.Contains frame := fun frame member =>
    ((tracks.recorded frame).mp member).1
  have verifiedDistinct : DistinctStamps (verifiedFrames scheme presented) := by
    intro left leftMember right rightMember
    exact distinct left (mem_verified_frames.mp leftMember).1 right
      (mem_verified_frames.mp rightMember).1
  ext record
  constructor
  · intro recorded
    rcases recorded with ⟨id, shown⟩
    rcases scratch_shows_decisive tracks scheme presented (membersEntity, id) with
      ⟨-, nothing⟩ | ⟨frame, decisive, visible⟩
    · rw [memberView, nothing] at shown
      cases shown
    · rw [memberView, visible] at shown
      cases deleted : frame.op.isDelete with
      | true =>
        rw [deleted] at shown
        cases shown
      | false =>
        rw [deleted] at shown
        exact ⟨id, frame, decisive, deleted, shown⟩
  · intro recorded
    rcases recorded with ⟨id, frame, decisive, kept, shown⟩
    refine ⟨id, ?_⟩
    rcases scratch_shows_decisive tracks scheme presented (membersEntity, id) with
      ⟨empty, -⟩ | ⟨other, otherDecisive, visible⟩
    · have member := decisive.1
      rw [empty] at member
      exact member.elim
    · rw [decisive_unique written verifiedDistinct otherDecisive decisive, kept] at visible
      rw [memberView, visible]
      exact shown

end

def CanonicalFrames (frames : List WriteFrame) : Prop :=
  ∀ frame ∈ frames, frame.entity = membersEntity → ∃ peer, frame.id = memberRecordId peer

variable {presented : List WriteFrame}

theorem scratch_shown_from {membership : Membership} {scheme : SignatureScheme} {id : String}
    {write : StampedWrite}
    (shown : memberView (scratch membership scheme presented) id = some write) :
    memberView membership.node.applier id = some write ∨
      ∃ frame ∈ verifiedFrames scheme presented, frame.id = id ∧ frame.intoStamped = write := by
  rw [memberView, scratch, merge_all_cell] at shown
  rcases merge_writes_cases (membership.node.applier.cell (membersEntity, id)) _ with
    ⟨-, same⟩ | ⟨merged, listed, -, -, current, -⟩
  · rw [same] at shown
    exact Or.inl shown
  · rcases mem_record_writes.mp listed with ⟨frame, member, rfl⟩
    simp only [Cell.shown, current] at shown
    split_ifs at shown
    cases shown
    exact Or.inr ⟨frame, member.1, congrArg Prod.snd member.2, rfl⟩

theorem scratch_canonical (membership : Membership)
    (held : CanonicalIds (memberView membership.node.applier)) (scheme : SignatureScheme)
    (canonical : CanonicalFrames presented) :
    CanonicalIds (memberView (scratch membership scheme presented)) := by
  intro id isShown
  rcases Option.isSome_iff_exists.mp isShown with ⟨write, shown⟩
  rcases scratch_shown_from shown with before | ⟨frame, verified, rfl, -⟩
  · exact held id (Option.isSome_iff_exists.mpr ⟨write, before⟩)
  · rcases mem_verified_frames.mp verified with ⟨listed, entity, -⟩
    exact canonical frame listed entity

/-- Presented frames with canonical ids neither hide an id that cannot be read nor add one. -/
theorem scratch_readable_iff (membership : Membership) (scheme : SignatureScheme)
    (canonical : CanonicalFrames presented) :
    AllReadable (memberView (scratch membership scheme presented)) ↔
      AllReadable (memberView membership.node.applier) := by
  have named : ∀ frame ∈ verifiedFrames scheme presented, idReadable frame.id = true := by
    intro frame verified
    obtain ⟨listed, entity, -⟩ := mem_verified_frames.mp verified
    obtain ⟨peer, named⟩ := canonical frame listed entity
    rw [named, idReadable, peer_from_member_record_id]
  constructor
  · intro readable id shown
    by_contra unread
    refine unread (readable id ?_)
    have untouched : (scratch membership scheme presented).cell (membersEntity, id) =
        membership.node.applier.cell (membersEntity, id) := by
      rw [scratch, merge_all_cell, List.filter_eq_nil_iff.mpr]
      · rfl
      · intro frame verified same
        have here : frame.id = id := congrArg Prod.snd (of_decide_eq_true same)
        exact unread (here ▸ named frame verified)
    rw [memberView, untouched]
    exact shown
  · intro readable id isShown
    obtain ⟨write, shown⟩ := Option.isSome_iff_exists.mp isShown
    rcases scratch_shown_from shown with before | ⟨frame, verified, rfl, -⟩
    · exact readable id (Option.isSome_iff_exists.mpr ⟨write, before⟩)
    · exact named frame verified

theorem scratch_decides_iff (membership : Membership) (scheme : SignatureScheme) (key : PeerId)
    (presented : List WriteFrame) :
    (∃ admitted, Decides membership scheme key presented admitted) ↔
      AllReadable (memberView (scratch membership scheme presented)) ∧
        SingleRole membership.owner (recordsOf (memberView (scratch membership scheme presented))) := by
  constructor
  · intro decided
    obtain ⟨admitted, decides⟩ := decided
    obtain ⟨roster, means, -⟩ := decides_iff.mp decides
    exact ⟨means.1, single_role_of_roster means.2⟩
  · intro evaluable
    obtain ⟨roster, evaluated⟩ := authorized_is_exists
      (scratchMembership membership scheme presented) evaluable.1 evaluable.2
    exact ⟨_, decides_of_means ((authorized_is_iff _ roster).mp evaluated)⟩

/-- Soundness of the decision. Order, repetition and frames that make no difference do not
change it. It is returned, and admits the key exactly when the decisive writes over the held and
the verified frames authorize it, if and only if the held ids can be read and these writes give
no peer two roles; both hold while the held ids are canonical. -/
theorem proof_decision_sound_iff {logs : OriginLogs} {delivered : List WriteFrame}
    {state : SyncState} (run : Reaches logs delivered state) (owner : PeerId)
    (scheme : SignatureScheme) {presented : List WriteFrame}
    (canonical : CanonicalFrames presented) (distinct : DistinctStamps presented)
    (key : PeerId) :
    (∀ others, (∀ frame ∈ presented, frame ∈ others) →
        (∀ frame ∈ others, frame ∈ presented ∨ Ignored ⟨state, owner⟩ scheme frame) →
        ∀ admitted, Decides ⟨state, owner⟩ scheme key others admitted ↔
          Decides ⟨state, owner⟩ scheme key presented admitted) ∧
      ((∃ admitted, Decides ⟨state, owner⟩ scheme key presented admitted ∧
          (admitted = true ↔ ∃ role, Authorizes owner
            (decisiveRecords delivered (verifiedFrames scheme presented)) key role)) ↔
        AllReadable (memberView state.applier) ∧
          SingleRole owner (decisiveRecords delivered (verifiedFrames scheme presented))) ∧
      (CanonicalIds (memberView state.applier) → AllReadable (memberView state.applier) ∧
        SingleRole owner (decisiveRecords delivered (verifiedFrames scheme presented))) := by
  have tracks := reaches_tracks run
  have records := scratch_records ⟨state, owner⟩ tracks scheme distinct
  have decides := scratch_decides_iff ⟨state, owner⟩ scheme key presented
  rw [scratch_readable_iff _ _ canonical, records] at decides
  refine ⟨?_, ?_, ?_⟩
  · intro others included ignored admitted
    have same : memberView (scratch ⟨state, owner⟩ scheme others) =
        memberView (scratch ⟨state, owner⟩ scheme presented) := by
      funext id
      unfold memberView
      rw [scratch_cell_congr distinct included ignored]
    rw [decides_iff, decides_iff, same]
  · rw [← decides]
    refine exists_congr fun admitted => and_iff_left_of_imp ?_
    intro decided
    obtain ⟨roster, means, rfl⟩ := decides_iff.mp decided
    rw [← records, Option.isSome_iff_exists]
    exact exists_congr fun role => means.2 key role
  · intro held
    have scratchCanonical := scratch_canonical ⟨state, owner⟩ held scheme canonical
    rw [← records]
    exact ⟨canonical_ids_readable held, canonical_ids_single_role owner scratchCanonical⟩

def anySignature : SignatureScheme := ⟨fun _ => true, fun _ _ _ => true⟩

def emptyReceiver : Membership := ⟨SyncState.new (peerNumber 3), peerNumber 1⟩

def ownerInvite : WriteFrame := signedInvite 1 2 1 .member

theorem owner_invite_decides :
    Decides emptyReceiver anySignature (peerNumber 2) [ownerInvite] true := by
  have visits : Visits [(membersEntity, memberRecordId (peerNumber 2))]
      (scratch emptyReceiver anySignature [ownerInvite]).cells :=
    visits_of_keys (by decide) (by decide)
  have returned : ∃ after, verifyProof emptyReceiver anySignature
      [(membersEntity, memberRecordId (peerNumber 2))] 2 (fun _ => true) 9 (peerNumber 2)
      [ownerInvite] = .ok (after, true) := ⟨_, rfl⟩
  rcases returned with ⟨after, ended⟩
  exact decides_iff.mpr (verify_proof_returned visits ended)

/-- The owner's invite admits the invited peer, also when it is presented twice
and together with an unsigned copy. -/
theorem repeated_invite_decides :
    Decides emptyReceiver anySignature (peerNumber 2)
      [ownerInvite, { ownerInvite with signature := none }, ownerInvite] true := by
  have run : Reaches sampleLogs [] (SyncState.new (peerNumber 3)) := .start (peerNumber 3) none
  have canonical : CanonicalFrames [ownerInvite] := by
    intro frame listed _
    rw [List.mem_singleton.mp listed]
    exact ⟨peerNumber 2, rfl⟩
  have distinct : DistinctStamps [ownerInvite] := by
    intro left leftListed right rightListed _ _
    rw [List.mem_singleton.mp leftListed, List.mem_singleton.mp rightListed]
  have sound := proof_decision_sound_iff run (peerNumber 1) anySignature canonical distinct (peerNumber 2)
  apply (sound.1 _ _ _ true).mpr owner_invite_decides
  · intro frame listed
    rw [List.mem_singleton.mp listed]
    exact List.mem_cons_self
  · intro frame listed
    rw [List.mem_cons, List.mem_cons, List.mem_singleton] at listed
    rcases listed with rfl | rfl | rfl
    · exact Or.inl List.mem_cons_self
    · exact Or.inr (Or.inr (Or.inl rfl))
    · exact Or.inl List.mem_cons_self

def twiceInvitedLogs : OriginLogs where
  frames origin :=
    if origin = peerNumber 1 then
      [memberWrite 1 (memberRecordId (peerNumber 10)) .admin, memberWrite 2 upperCaseId .member]
    else []
  numbered := by
    intro origin index frame found
    split_ifs at found with owner
    · match index with
      | 0 | 1 =>
        obtain rfl := Option.some.inj found
        exact ⟨owner.symm, rfl⟩
      | index + 2 => cases found
    · cases found

/-- A receiver that holds two records for one member, under two ids, is asked with no frames at
all. It never answers. -/
theorem twice_invited_never_decides :
    (∃ delivered, Reaches twiceInvitedLogs delivered twiceInvited.node) ∧
      CanonicalFrames [] ∧ DistinctStamps [] ∧
      ∀ order, Visits order twiceInvited.node.applier.cells → ∀ passes persisted now,
        verifyProof twiceInvited anySignature order passes persisted now (peerNumber 2) [] =
          .error .running := by
  have start : Reaches twiceInvitedLogs [] ((SyncState.new (peerNumber 2)).setAuth signedOnly) :=
    .start (peerNumber 2) (some signedOnly)
  have first : twiceInvitedLogs.Contains (memberWrite 1 (memberRecordId (peerNumber 10)) .admin) :=
    List.mem_cons_self
  have second : twiceInvitedLogs.Contains (memberWrite 2 upperCaseId .member) :=
    List.mem_cons_of_mem _ List.mem_cons_self
  refine ⟨⟨_, (start.receive _ first true 5).receive _ second true 5⟩, nofun, nofun, ?_⟩
  intro order visits passes persisted now
  have readable : AllReadable (memberView twiceInvited.node.applier) := by
    apply (entries_readable_iff twice_invited_visits).mp
    decide
  have running : twiceInvited.authorizedWith order (verifiedFrames anySignature []) passes =
      .error .running := authorized_running visits readable twice_invited_two_roles passes
  simp only [verifyProof, running]

end Stitch.P2P.ProofVerification
