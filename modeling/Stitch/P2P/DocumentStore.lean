import Stitch.P2P.Convergence
import Stitch.P2P.MembershipRoster

/-!
# Document store

Transcription of `read`, `list` and `entries` of `store.rs` with the filter on authorized
authors. `fromSlice` stands for `serde_json::from_slice(..).ok()`. A call takes the order in
which it visits the map of cells and the passes it may make over the membership records; its
two looks at the node are taken in one state.
-/

namespace Stitch.P2P.DocumentStore

open Foundation.FiniteMap HybridClock LastWriterWins WireFormat ReplicationLog NodeState Convergence
open AuthorizedMembers MembershipRoster

/-- `owner` is `none` for an open store, which shows every author. -/
structure Store where
  node : SyncState
  owner : Option PeerId

def Store.membership (store : Store) : Option Membership :=
  store.owner.map fun owner => ⟨store.node, owner⟩

def Store.authorizedAuthors (store : Store) (order : List RecordKey) (passes : Nat) :
    Except Fault (Option Roster) :=
  match store.membership with
  | none => .ok none
  | some membership => (membership.authorized order passes).map some

def permits (authors : Option Roster) (author : PeerId) : Bool :=
  match authors with
  | some roster => decide (author ∈ roster)
  | none => true

def Store.authorAuthorized (store : Store) (order : List RecordKey) (passes : Nat)
    (author : PeerId) : Except Fault Bool :=
  (store.authorizedAuthors order passes).map fun authors => permits authors author

section

variable {Value : Type} (fromSlice : List UInt8 → Option Value)

def Store.read (store : Store) (order : List RecordKey) (passes : Nat) (entity id : String) :
    Except Fault (Option Value) :=
  match store.node.visibleWithAuthor entity id with
  | none => .ok none
  | some (bytes, author) =>
    (store.authorAuthorized order passes author).map fun authorized =>
      if authorized then fromSlice bytes else none

def Store.entries (store : Store) (order : List RecordKey) (passes : Nat) (entity : String) :
    Except Fault (List (String × Value)) :=
  (store.authorizedAuthors order passes).map fun authors =>
    ((store.node.entriesWithAuthors order entity).filter fun entry =>
      permits authors entry.2.2).filterMap fun entry =>
        (fromSlice entry.2.1).map fun value => (entry.1, value)

def Store.list (store : Store) (order : List RecordKey) (passes : Nat) (entity : String) :
    Except Fault (List Value) :=
  (store.entries fromSlice order passes entity).map fun entries => entries.map Prod.snd

/-- Whatever the iteration order, `read` returns this value given enough passes. -/
def Store.ReadIs (store : Store) (entity id : String) (value : Option Value) : Prop :=
  ∀ order, Visits order store.node.applier.cells →
    ∃ passes, store.read fromSlice order passes entity id = .ok value

/-- Whatever the iteration order, `entries` returns these entries in some order
given enough passes. -/
def Store.EntriesAre (store : Store) (entity : String) (entries : Multiset (String × Value)) :
    Prop :=
  ∀ order, Visits order store.node.applier.cells →
    ∃ passes listed, store.entries fromSlice order passes entity = .ok listed ∧
      (listed : Multiset (String × Value)) = entries

/-- Both stores return, and return the same, from every `read` and every `entries`. -/
def SameViews (left right : Store) : Prop :=
  (∀ entity id, ∃ value, left.ReadIs fromSlice entity id value ∧
    right.ReadIs fromSlice entity id value) ∧
  ∀ entity, ∃ entries, left.EntriesAre fromSlice entity entries ∧
    right.EntriesAre fromSlice entity entries

def viewOf (authors : Option Roster) (shown : Option StampedWrite) : Option Value :=
  shown.bind fun write =>
    if permits authors write.stamp.peer then fromSlice write.data else none

end

/-- In every iteration order the authorized authors are returned, given enough
passes, and are these. -/
def Store.AuthorsAre (store : Store) (authors : Option Roster) : Prop :=
  ∀ order, Visits order store.node.applier.cells → ∀ found,
    (∃ passes, store.authorizedAuthors order passes = .ok found) ↔ found = authors

theorem map_ok_iff {Error Source Target : Type} (change : Source → Target)
    (result : Except Error Source) (target : Target) :
    result.map change = .ok target ↔ ∃ source, result = .ok source ∧ change source = target := by
  cases result <;> simp [Except.map]

theorem owned_authors_are {node : SyncState} {owner : PeerId} {roster : Roster}
    (evaluated : Membership.AuthorizedIs ⟨node, owner⟩ roster) :
    Store.AuthorsAre ⟨node, some owner⟩ (some roster) := by
  intro order visits found
  have unfolded : ∀ passes, Store.authorizedAuthors ⟨node, some owner⟩ order passes =
      (Membership.authorized ⟨node, owner⟩ order passes).map some := fun _ => rfl
  simp only [unfolded, map_ok_iff]
  constructor
  · intro answered
    rcases answered with ⟨passes, other, returned, rfl⟩
    rw [authorized_is_unique (authorized_is_of_returned visits returned) evaluated]
  · intro same
    subst same
    obtain ⟨passes, returned⟩ := evaluated order visits
    exact ⟨passes, roster, returned, rfl⟩

section

variable {Value : Type} (fromSlice : List UInt8 → Option Value) {store : Store}
  {authors : Option Roster} (authorsAre : store.AuthorsAre authors)
include authorsAre

variable {order : List RecordKey}

theorem read_returns_iff (visits : Visits order store.node.applier.cells) (entity id : String)
    (value : Option Value) :
    (∃ passes, store.read fromSlice order passes entity id = .ok value) ↔
      value = viewOf fromSlice authors (store.node.applier.cell (entity, id)).shown := by
  have visible : store.node.visibleWithAuthor entity id = _ :=
    visible_with_author_eq_shown store.node.applier entity id
  unfold Store.read Store.authorAuthorized
  rw [visible]
  cases (store.node.applier.cell (entity, id)).shown with
  | none =>
    constructor
    · intro answered
      rcases answered with ⟨_, same⟩
      exact (Except.ok.inj same).symm
    · intro same
      subst same
      exact ⟨0, rfl⟩
  | some write =>
    simp only [Option.map_some, map_ok_iff, viewOf, Option.bind_some]
    constructor
    · intro answered
      rcases answered with ⟨passes, authorized, ⟨found, returned, rfl⟩, rfl⟩
      rw [(authorsAre order visits found).mp ⟨passes, returned⟩]
    · intro same
      subst same
      obtain ⟨passes, returned⟩ := (authorsAre order visits authors).mpr rfl
      exact ⟨passes, _, ⟨authors, returned, rfl⟩, rfl⟩

theorem read_is_iff (entity id : String) (value : Option Value) :
    store.ReadIs fromSlice entity id value ↔
      value = viewOf fromSlice authors (store.node.applier.cell (entity, id)).shown := by
  constructor
  · intro read
    obtain ⟨order, visits⟩ := exists_visits store.node.applier.cells
    exact (read_returns_iff fromSlice authorsAre visits entity id value).mp (read order visits)
  · intro same order visits
    exact (read_returns_iff fromSlice authorsAre visits entity id value).mpr same

/-- Every call of `entries` that returns lists each record a reader sees, once. -/
theorem entries_listed (visits : Visits order store.node.applier.cells) {passes : Nat}
    {entity : String} {listed : List (String × Value)}
    (returned : store.entries fromSlice order passes entity = .ok listed) :
    listed.Nodup ∧ ∀ id value, (id, value) ∈ listed ↔
      viewOf fromSlice authors (store.node.applier.cell (entity, id)).shown = some value := by
  obtain ⟨found, authorized, rfl⟩ := (map_ok_iff _ _ _).mp returned
  rw [(authorsAre order visits found).mp ⟨passes, authorized⟩]
  have distinct := entries_with_authors_distinct visits entity
  constructor
  · apply List.Nodup.of_map Prod.fst
    refine List.Nodup.sublist (filterMap_labels_sublist Prod.fst Prod.fst ?_ _) ?_
    · intro entry other selected
      obtain ⟨value, -, rfl⟩ := Option.map_eq_some_iff.mp selected
      rfl
    · exact distinct.sublist (List.filter_sublist.map _)
  · intro id value
    simp only [List.mem_filterMap, List.mem_filter, Option.map_eq_some_iff, Prod.mk.injEq,
      viewOf, Option.bind_eq_some_iff]
    constructor
    · intro selected
      rcases selected with ⟨⟨entryId, data, author⟩, ⟨member, permitted⟩, decoded, parsed, rfl, rfl⟩
      obtain ⟨write, shown, rfl, rfl⟩ := (mem_entries_with_authors visits _ _ _ _).mp member
      exact ⟨write, shown, by rw [if_pos permitted, parsed]⟩
    · intro visible
      rcases visible with ⟨write, shown, parsed⟩
      split_ifs at parsed with permitted
      exact ⟨(id, write.data, write.stamp.peer),
        ⟨(mem_entries_with_authors visits _ _ _ _).mpr ⟨write, shown, rfl, rfl⟩, permitted⟩,
        value, parsed, rfl, rfl⟩

theorem entries_returned (visits : Visits order store.node.applier.cells) (entity : String) :
    ∃ passes listed, store.entries fromSlice order passes entity = .ok listed := by
  obtain ⟨passes, returned⟩ := (authorsAre order visits authors).mpr rfl
  exact ⟨passes, _, (map_ok_iff _ _ _).mpr ⟨authors, returned, rfl⟩⟩

theorem entries_are_iff (entity : String) (entries : Multiset (String × Value)) :
    store.EntriesAre fromSlice entity entries ↔
      entries.Nodup ∧ ∀ id value, (id, value) ∈ entries ↔
        viewOf fromSlice authors (store.node.applier.cell (entity, id)).shown = some value := by
  constructor
  · intro listing
    obtain ⟨order, visits⟩ := exists_visits store.node.applier.cells
    obtain ⟨passes, listed, returned, rfl⟩ := listing order visits
    exact entries_listed fromSlice authorsAre visits returned
  · intro spec order visits
    rcases spec with ⟨distinct, members⟩
    obtain ⟨passes, listed, returned⟩ := entries_returned fromSlice authorsAre visits entity
    obtain ⟨listedDistinct, listedMembers⟩ :=
      entries_listed fromSlice authorsAre visits returned
    refine ⟨passes, listed, returned, ?_⟩
    apply (Multiset.Nodup.ext (Multiset.coe_nodup.mpr listedDistinct) distinct).mpr
    intro entry
    rw [Multiset.mem_coe, listedMembers, members]

end

section

variable {Value : Type} (fromSlice : List UInt8 → Option Value)

/-- Two stores return the same exactly when every record shows the same to their readers. -/
theorem same_views_iff {left right : Store} {leftAuthors rightAuthors : Option Roster}
    (leftAre : left.AuthorsAre leftAuthors) (rightAre : right.AuthorsAre rightAuthors) :
    SameViews fromSlice left right ↔
      ∀ key, viewOf fromSlice leftAuthors (left.node.applier.cell key).shown =
        viewOf fromSlice rightAuthors (right.node.applier.cell key).shown := by
  constructor
  · intro same key
    rcases same with ⟨reads, -⟩
    rcases key with ⟨entity, id⟩
    obtain ⟨value, leftRead, rightRead⟩ := reads entity id
    rw [read_is_iff fromSlice leftAre] at leftRead
    rw [read_is_iff fromSlice rightAre] at rightRead
    rw [← leftRead, ← rightRead]
  · intro same
    constructor
    · intro entity id
      refine ⟨_, (read_is_iff fromSlice leftAre entity id _).mpr rfl, ?_⟩
      exact (read_is_iff fromSlice rightAre entity id _).mpr (same (entity, id))
    · intro entity
      obtain ⟨order, visits⟩ := exists_visits left.node.applier.cells
      obtain ⟨passes, listed, returned⟩ := entries_returned fromSlice leftAre visits entity
      obtain ⟨distinct, members⟩ := entries_listed fromSlice leftAre visits returned
      refine ⟨listed, (entries_are_iff fromSlice leftAre entity _).mpr ⟨?_, members⟩, ?_⟩
      · exact Multiset.coe_nodup.mpr distinct
      · apply (entries_are_iff fromSlice rightAre entity _).mpr
        refine ⟨Multiset.coe_nodup.mpr distinct, ?_⟩
        intro id value
        rw [Multiset.mem_coe, members, same (entity, id)]

theorem view_of_none_iff (roster : Roster) (shown : Option StampedWrite) :
    viewOf fromSlice (some roster) shown = none ↔
      ∀ write, shown = some write → write.stamp.peer ∈ roster →
        fromSlice write.data = none := by
  cases shown with
  | none => simp [viewOf]
  | some write => simp [viewOf, permits]

/-- A frame hides nothing: it loses against what its record holds, or what the
record shows was not readable. -/
def HidesNothing (node : SyncState) (roster : Roster) (frame : WriteFrame) : Prop :=
  (node.applier.cell (frame.entity, frame.id)).admits frame.stamp = true →
    ∀ write, (node.applier.cell (frame.entity, frame.id)).shown = some write →
      write.stamp.peer ∈ roster → fromSlice write.data = none

/-- A verified, in-order frame on a data entity, written by a peer that is not a
member, changes no `read` and no `entries` exactly when it hides nothing. -/
theorem outsider_frame_keeps_views_iff (node : SyncState) (owner : PeerId) (roster : Roster)
    (evaluated : Membership.AuthorizedIs ⟨node, owner⟩ roster) (persisted : Bool)
    (frame : WriteFrame) (wallMs : Nat)
    (appended : (node.receive persisted frame wallMs).2 = .appended)
    (dataEntity : frame.entity ≠ membersEntity) (outsider : frame.stamp.peer ∉ roster) :
    SameViews fromSlice ⟨node, some owner⟩ ⟨(node.receive persisted frame wallMs).1, some owner⟩ ↔
      HidesNothing fromSlice node roster frame := by
  have shown := receive_shown node persisted frame wallMs appended
  have sameMembers : memberView (node.receive persisted frame wallMs).1.applier =
      memberView node.applier := by
    funext id
    rw [receive_member_view appended, if_neg (fun replaced => dataEntity replaced.1)]
  have after : Membership.AuthorizedIs ⟨(node.receive persisted frame wallMs).1, owner⟩ roster := by
    rw [authorized_is_iff] at evaluated ⊢
    rw [sameMembers]
    exact evaluated
  -- The outsider's own write shows nothing to a reader.
  have hidden : viewOf fromSlice (some roster)
      (if frame.op.isDelete then none else some frame.intoStamped) = none := by
    rw [view_of_none_iff]
    intro write isShown member
    split_ifs at isShown
    cases isShown
    exact (outsider member).elim
  rw [same_views_iff fromSlice (owned_authors_are evaluated) (owned_authors_are after)]
  simp only [shown]
  constructor
  · intro same admitted
    have here := same (frame.entity, frame.id)
    rw [if_pos ⟨rfl, admitted⟩, hidden] at here
    exact (view_of_none_iff fromSlice roster _).mp here
  · intro hides key
    by_cases replaced : key = (frame.entity, frame.id) ∧
        (node.applier.cell key).admits frame.stamp = true
    · rw [if_pos replaced, hidden, replaced.1, view_of_none_iff]
      apply hides
      rw [← replaced.1]
      exact replaced.2
    · rw [if_neg replaced]

def decodeDigit (bytes : List UInt8) : Option Nat :=
  match bytes with
  | [byte] => if 48 ≤ byte ∧ byte ≤ 57 then some (byte.toNat - 48) else none
  | _ => none

def signedTask (author : UInt8) (wallMs : Nat) (id : String) (byte : UInt8) : WriteFrame where
  stamp := ⟨⟨wallMs, 0⟩, peerNumber author⟩
  seq := 1
  op := .insert
  entity := "task"
  id := id
  data := [byte]
  signature := some (signedOnly.sign [])

def ownedNode : SyncState :=
  (((SyncState.new (peerNumber 1)).setAuth signedOnly).receive true
    (signedTask 1 1 "t1" 55) 5).1

def ownerOnly : Roster := Finmap.insert (peerNumber 1) .owner ∅

theorem owner_only_authorized : Membership.AuthorizedIs ⟨ownedNode, peerNumber 1⟩ ownerOnly := by
  have visits : Visits [("task", "t1")] ownedNode.applier.cells :=
    visits_of_keys (by decide) (by decide)
  have returned : Membership.authorized ⟨ownedNode, peerNumber 1⟩ [("task", "t1")] 1 =
      .ok ownerOnly := by decide
  exact authorized_is_of_returned visits returned

/-- Peer 3 writes a record of its own, which nobody sees. -/
theorem outsider_new_record_unseen :
    Membership.AuthorizedIs ⟨ownedNode, peerNumber 1⟩ ownerOnly ∧
      peerNumber 3 ∉ ownerOnly ∧
      (ownedNode.receive true (signedTask 3 2 "t2" 56) 6).2 = .appended ∧
      SameViews decodeDigit ⟨ownedNode, some (peerNumber 1)⟩
        ⟨(ownedNode.receive true (signedTask 3 2 "t2" 56) 6).1, some (peerNumber 1)⟩ := by
  have appended : (ownedNode.receive true (signedTask 3 2 "t2" 56) 6).2 = .appended := by decide
  have dataEntity : (signedTask 3 2 "t2" 56).entity ≠ membersEntity := by decide
  have outsider : (signedTask 3 2 "t2" 56).stamp.peer ∉ ownerOnly := by decide
  refine ⟨owner_only_authorized, outsider, appended, ?_⟩
  apply (outsider_frame_keeps_views_iff decodeDigit ownedNode (peerNumber 1) ownerOnly
    owner_only_authorized true _ 6 appended dataEntity outsider).mpr
  intro _ write shown
  have unused : (ownedNode.applier.cell ("task", "t2")).shown = none := by decide
  cases unused.symm.trans shown

/-- Peer 3 overwrites the owner's record with a later stamp: the record is gone
for every reader. -/
theorem outsider_overwrite_hides_record :
    Membership.AuthorizedIs ⟨ownedNode, peerNumber 1⟩ ownerOnly ∧
      (signedTask 3 2 "t1" 56).entity ≠ membersEntity ∧
      (signedTask 3 2 "t1" 56).stamp.peer ∉ ownerOnly ∧
      (ownedNode.receive true (signedTask 3 2 "t1" 56) 6).2 = .appended ∧
      Store.ReadIs decodeDigit ⟨ownedNode, some (peerNumber 1)⟩ "task" "t1" (some 7) ∧
      ¬SameViews decodeDigit ⟨ownedNode, some (peerNumber 1)⟩
        ⟨(ownedNode.receive true (signedTask 3 2 "t1" 56) 6).1, some (peerNumber 1)⟩ := by
  have visits : Visits [("task", "t1")]
      (ownedNode.receive true (signedTask 3 2 "t1" 56) 6).1.applier.cells :=
    visits_of_keys (by decide) (by decide)
  have returned : Membership.authorized
      ⟨(ownedNode.receive true (signedTask 3 2 "t1" 56) 6).1, peerNumber 1⟩
      [("task", "t1")] 1 = .ok ownerOnly := by decide
  have before := owned_authors_are owner_only_authorized
  have after := owned_authors_are (authorized_is_of_returned visits returned)
  refine ⟨owner_only_authorized, by decide, by decide, by decide, ?_, ?_⟩
  · exact (read_is_iff decodeDigit before "task" "t1" (some 7)).mpr (by decide)
  · rw [same_views_iff decodeDigit before after]
    intro same
    exact absurd (same ("task", "t1")) (by decide)

/-- Two stores of one scope that have run over the same per-origin logs, with
agreeing cursors and canonical membership ids, compute the same authorized map
and return the same from every `read` and every `entries`. -/
theorem equal_cursors_same_views (logs : OriginLogs)
    {leftDelivered rightDelivered : List WriteFrame} {left right : SyncState}
    (leftRun : Reaches logs leftDelivered left) (rightRun : Reaches logs rightDelivered right)
    (cursors : ∀ origin, left.log.cursorFor origin = right.log.cursorFor origin)
    (canonical : CanonicalIds (memberView left.applier)) (owner : PeerId) :
    (∃ roster, Membership.AuthorizedIs ⟨left, owner⟩ roster ∧
      Membership.AuthorizedIs ⟨right, owner⟩ roster) ∧
      SameViews fromSlice ⟨left, some owner⟩ ⟨right, some owner⟩ := by
  have shown := same_cursors_same_shown (reaches_tracks leftRun) (reaches_tracks rightRun) cursors
  have sameMembers : memberView left.applier = memberView right.applier := by
    funext id
    exact shown (membersEntity, id)
  obtain ⟨roster, leftIs⟩ := authorized_is_exists ⟨left, owner⟩
    (canonical_ids_readable canonical) (canonical_ids_single_role owner canonical)
  have rightIs : Membership.AuthorizedIs ⟨right, owner⟩ roster := by
    rw [authorized_is_iff] at leftIs ⊢
    rw [← sameMembers]
    exact leftIs
  refine ⟨⟨roster, leftIs, rightIs⟩, ?_⟩
  rw [same_views_iff fromSlice (owned_authors_are leftIs) (owned_authors_are rightIs)]
  intro key
  rw [shown key]

def inviteAndTask : OriginLogs :=
  firstFrames (signedInvite 1 2 1 .member) (signedTask 2 2 "t1" 55) rfl rfl

def afterBoth (first second : WriteFrame) : SyncState :=
  let start := { SyncState.new (peerNumber 3) with auth := some signedOnly }
  ((start.receive true first 5).1.receive true second 6).1

def inviteThenTask : SyncState := afterBoth (signedInvite 1 2 1 .member) (signedTask 2 2 "t1" 55)

def taskThenInvite : SyncState := afterBoth (signedTask 2 2 "t1" 55) (signedInvite 1 2 1 .member)

theorem invite_and_task_converge :
    Store.read decodeDigit ⟨inviteThenTask, some (peerNumber 1)⟩
        [("task", "t1"), (membersEntity, memberRecordId (peerNumber 2))] 2 "task" "t1" =
      .ok (some 7) ∧
    SameViews decodeDigit ⟨inviteThenTask, some (peerNumber 1)⟩
      ⟨taskThenInvite, some (peerNumber 1)⟩ := by
  have inviteWritten : inviteAndTask.Contains (signedInvite 1 2 1 .member) := by decide
  have taskWritten : inviteAndTask.Contains (signedTask 2 2 "t1" 55) := by decide
  have start : Reaches inviteAndTask [] _ := .start (peerNumber 3) (some signedOnly)
  have leftRun := (start.receive _ inviteWritten true 5).receive _ taskWritten true 6
  have rightRun := (start.receive _ taskWritten true 5).receive _ inviteWritten true 6
  have observed : inviteThenTask.log.observed = taskThenInvite.log.observed := by decide
  have base : inviteThenTask.log.base = taskThenInvite.log.base := by decide
  have cursors := cursor_for_congr observed base
  have canonical : CanonicalIds (memberView inviteThenTask.applier) := by
    intro id shown
    by_cases invited : id = memberRecordId (peerNumber 2)
    · exact ⟨peerNumber 2, invited⟩
    · have cells : inviteThenTask.applier.cells.keys =
          {(membersEntity, memberRecordId (peerNumber 2)), ("task", "t1")} := by decide
      have absent : (membersEntity, id) ∉ inviteThenTask.applier.cells := by
        rw [← Finmap.mem_keys, cells, Finset.mem_insert, Finset.mem_singleton]
        intro listed
        rcases listed with same | other
        · exact invited (Prod.mk.inj same).2
        · exact absurd (Prod.mk.inj other).1 (by decide)
      rw [memberView, Applier.cell, getOr_of_not_mem absent] at shown
      cases shown
  refine ⟨by decide, ?_⟩
  exact (equal_cursors_same_views decodeDigit inviteAndTask leftRun rightRun cursors canonical
    (peerNumber 1)).2

end

end Stitch.P2P.DocumentStore
