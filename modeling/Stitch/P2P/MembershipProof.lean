import Stitch.P2P.ProofVerification

/-!
# Membership proofs

Transcription of `Membership::proof`: the newest logged frame of each record, followed from this
node up to the owner. Authorization is read from the applier instead, so the two agree only while
the log still holds the frame behind every record in force.
-/

namespace Stitch.P2P.MembershipProof

open Foundation.FiniteMap Foundation.Delegation HybridClock LastWriterWins WireFormat ReplicationLog
open NodeState Convergence AuthorizedMembers MembershipRoster ProofVerification

/-- A signing identity: its peer id is its public key, and what it signs checks
under that key. -/
structure Identity (scheme : SignatureScheme) where
  peerId : PeerId
  sign : List UInt8 → Signature
  keyReads : scheme.keyReads peerId = true
  checks : ∀ bytes, scheme.checks peerId bytes (sign bytes) = true

def Identity.auth {scheme : SignatureScheme} (identity : Identity scheme) : FrameAuth where
  sign := identity.sign
  verify := verifyFrame scheme

section

/-- The body of the loop over the logged membership frames. -/
def keepWinner (winners : HashMap String WriteFrame) (frame : WriteFrame) :
    HashMap String WriteFrame :=
  match winners.lookup frame.id with
  | some existing =>
    if frame.stamp ≤ existing.stamp then winners else winners.insert frame.id frame
  | none => winners.insert frame.id frame

def winnersOf (frames : List WriteFrame) : HashMap String WriteFrame :=
  frames.foldl keepWinner ∅

/-- The loop that follows the granters, for the given number of steps. -/
def walkChain (owner : PeerId) (winners : HashMap String WriteFrame) :
    Nat → Finset String → String → Except Fault (List WriteFrame)
  | 0, _, _ => .error .running
  | steps + 1, visited, cursor =>
    if cursor ∈ visited then .ok []
    else
      match winners.lookup cursor with
      | none => .ok []
      | some frame =>
        if frame.stamp.peer = owner then .ok [frame]
        else
          match walkChain owner winners steps (insert cursor visited)
              (memberRecordId frame.stamp.peer) with
          | .error fault => .error fault
          | .ok rest => .ok (frame :: rest)

/-- `order` visits the origins of the replication log. -/
def proof (membership : Membership) (order : List PeerId) (steps : Nat) :
    Except Fault (List WriteFrame) :=
  walkChain membership.owner
    (winnersOf (membership.node.framesForEntity order membersEntity)) steps ∅
    (memberRecordId membership.node.selfId)

end

/-- The runs of a signing node. `allowed` restricts the calls of `reclaim`. -/
inductive SignedRuns {scheme : SignatureScheme} (identity : Identity scheme)
    (allowed : SyncState → List PeerId → Prop) : SyncState → Prop where
  | start : SignedRuns identity allowed
      ((SyncState.new identity.peerId).setAuth identity.auth)
  | localWrite {state : SyncState} (prior : SignedRuns identity allowed state)
      (persisted : Bool) (wallMs : Nat) (op : Op) (entity id : String) (data : List UInt8) :
      SignedRuns identity allowed (state.localWrite persisted wallMs op entity id data).1
  | receive {state : SyncState} (prior : SignedRuns identity allowed state)
      (persisted : Bool) (frame : WriteFrame) (wallMs : Nat) :
      SignedRuns identity allowed (state.receive persisted frame wallMs).1
  | notePeerCursors {state : SyncState} (prior : SignedRuns identity allowed state)
      (peer : PeerId) (cursors : Cursors) :
      SignedRuns identity allowed (state.notePeerCursors peer cursors)
  | reclaim {state : SyncState} (prior : SignedRuns identity allowed state)
      (origins members : List PeerId) (permitted : allowed state members) :
      SignedRuns identity allowed (state.reclaim origins members).1

/-- Reclaiming for these members keeps every frame whose write a membership
record shows. -/
def KeepsShown (state : SyncState) (members : List PeerId) : Prop :=
  ∀ origin, ∀ frame ∈ state.log.stored origin, frame.entity = membersEntity →
    memberView state.applier frame.id = some frame.intoStamped →
    state.lowWaterMark members origin < frame.seq

section

/-- A frame of highest stamp among those of its id, and the first such. -/
structure Wins (frames : List WriteFrame) (id : String) (winner : WriteFrame) : Prop where
  keyed : winner.id = id
  highest : ∀ frame ∈ frames, frame.id = id → frame.stamp ≤ winner.stamp
  first : ∃ before after, frames = before ++ winner :: after ∧
    ∀ frame ∈ before, frame.id = id → frame.stamp < winner.stamp

theorem winners_snoc (frames : List WriteFrame) (frame : WriteFrame) :
    winnersOf (frames ++ [frame]) = keepWinner (winnersOf frames) frame := by
  simp [winnersOf, List.foldl_append]

variable {id : String}

theorem keep_winner_other (winners : HashMap String WriteFrame) {frame : WriteFrame}
    (other : id ≠ frame.id) :
    (keepWinner winners frame).lookup id = winners.lookup id := by
  unfold keepWinner
  cases winners.lookup frame.id with
  | none => exact Finmap.lookup_insert_of_ne _ other
  | some existing =>
    simp only
    split_ifs
    · rfl
    · exact Finmap.lookup_insert_of_ne _ other

theorem winners_lookup (frames : List WriteFrame) (id : String) :
    ((∀ frame ∈ frames, frame.id ≠ id) ∧ (winnersOf frames).lookup id = none) ∨
      ∃ winner, (winnersOf frames).lookup id = some winner ∧ Wins frames id winner := by
  induction frames using List.reverseRecOn with
  | nil => exact Or.inl ⟨by simp, Finmap.lookup_empty _⟩
  | append_singleton frames last ih =>
    rw [winners_snoc]
    by_cases here : id = last.id
    · subst here
      right
      rcases ih with ⟨none, unknown⟩ | ⟨winner, known, wins⟩
      · refine ⟨last, by simp [keepWinner, unknown], rfl, ?_, frames, [], rfl, ?_⟩
        · intro frame listed same
          rcases List.mem_append.mp listed with early | late
          · exact (none frame early same).elim
          · rw [List.mem_singleton.mp late]
        · intro frame early same
          exact (none frame early same).elim
      · rcases wins.first with ⟨before, after, split, earlier⟩
        by_cases lower : last.stamp ≤ winner.stamp
        · refine ⟨winner, by simp [keepWinner, known, lower], wins.keyed, ?_,
            before, after ++ [last], by rw [split]; simp, earlier⟩
          intro frame listed same
          rcases List.mem_append.mp listed with early | late
          · exact wins.highest frame early same
          · rw [List.mem_singleton.mp late]
            exact lower
        · have above : winner.stamp < last.stamp := not_le.mp lower
          refine ⟨last, by simp [keepWinner, known, lower], rfl, ?_, frames, [], rfl, ?_⟩
          · intro frame listed same
            rcases List.mem_append.mp listed with early | late
            · exact (wins.highest frame early same).trans above.le
            · rw [List.mem_singleton.mp late]
          · intro frame early same
            exact (wins.highest frame early same).trans_lt above
    · rw [keep_winner_other _ here]
      rcases ih with ⟨none, unknown⟩ | ⟨winner, known, wins⟩
      · refine Or.inl ⟨?_, unknown⟩
        intro frame listed
        rcases List.mem_append.mp listed with early | late
        · exact none frame early
        · rw [List.mem_singleton.mp late]
          exact Ne.symm here
      · rcases wins.first with ⟨before, after, split, earlier⟩
        refine Or.inr ⟨winner, known, wins.keyed, ?_, before, after ++ [last], by
          rw [split]; simp, earlier⟩
        intro frame listed same
        rcases List.mem_append.mp listed with early | late
        · exact wins.highest frame early same
        · rw [List.mem_singleton.mp late] at same
          exact (here same.symm).elim

theorem wins_mem {frames : List WriteFrame} {winner : WriteFrame} (wins : Wins frames id winner) :
    winner ∈ frames := by
  rcases wins.first with ⟨before, after, split, -⟩
  rw [split]
  simp

end

section

/-- Every step visits a new winner, so the walk ends. -/
theorem walk_returns (owner : PeerId) (winners : HashMap String WriteFrame) (steps : Nat)
    (visited : Finset String) (cursor : String)
    (enough : (winners.keys \ visited).card < steps) :
    ∃ chain, walkChain owner winners steps visited cursor = .ok chain := by
  induction steps generalizing visited cursor with
  | zero => omega
  | succ steps ih =>
    rw [walkChain]
    split_ifs with seen
    · exact ⟨[], rfl⟩
    · cases found : winners.lookup cursor with
      | none => exact ⟨[], rfl⟩
      | some frame =>
        simp only
        split_ifs
        · exact ⟨[frame], rfl⟩
        · have smaller : (winners.keys \ insert cursor visited).card <
              (winners.keys \ visited).card := by
            apply Finset.card_lt_card
            rw [Finset.ssubset_iff_of_subset
              (Finset.sdiff_subset_sdiff (Finset.Subset.refl _) (Finset.subset_insert _ _))]
            refine ⟨cursor, ?_, by simp⟩
            rw [Finset.mem_sdiff]
            exact ⟨Finmap.mem_keys.mpr (Finmap.mem_of_lookup_eq_some found), seen⟩
          rcases ih (insert cursor visited) (memberRecordId frame.stamp.peer) (by omega) with
            ⟨rest, returned⟩
          exact ⟨frame :: rest, by rw [returned]⟩

variable {owner : PeerId} {winners : HashMap String WriteFrame}
variable {steps : Nat} {visited : Finset String} {peer : PeerId}

theorem walk_members {chain : List WriteFrame}
    (returned : walkChain owner winners steps visited (memberRecordId peer) = .ok chain) :
    ∀ frame ∈ chain, ∃ other, winners.lookup (memberRecordId other) = some frame := by
  induction steps generalizing visited peer chain with
  | zero => cases returned
  | succ steps ih =>
    rw [walkChain] at returned
    split_ifs at returned
    · cases returned
      simp
    · cases found : winners.lookup (memberRecordId peer) with
      | none =>
        rw [found] at returned
        cases returned
        simp
      | some frame =>
        rw [found] at returned
        simp only at returned
        split_ifs at returned
        · cases returned
          intro other listed
          rw [List.mem_singleton.mp listed]
          exact ⟨peer, found⟩
        · cases continued : walkChain owner winners steps (insert (memberRecordId peer) visited)
              (memberRecordId frame.stamp.peer) with
          | error fault =>
            rw [continued] at returned
            cases returned
          | ok rest =>
            rw [continued] at returned
            cases returned
            intro other listed
            rcases List.mem_cons.mp listed with rfl | later
            · exact ⟨peer, found⟩
            · exact ih continued other later

/-- When every shown membership write has its frame among the winners, the walk collects a whole
chain of grants. -/
theorem walk_follows {view : String → Option StampedWrite} (canonical : CanonicalIds view)
    (winning : ∀ id write, view id = some write →
      ∃ frame, winners.lookup id = some frame ∧ frame.intoStamped = write)
    {grants : List MemberRecord} (isChain : GrantChain owner (recordsOf view) peer grants)
    (distinct : (grants.map Grant.target).Nodup)
    (unseen : ∀ grant ∈ grants, memberRecordId grant.target ∉ visited)
    (enough : grants.length ≤ steps) :
    ∃ chain, walkChain owner winners steps visited (memberRecordId peer) = .ok chain ∧
      ∀ grant ∈ grants, ∃ frame ∈ chain,
        winners.lookup (memberRecordId grant.target) = some frame ∧
          view (memberRecordId grant.target) = some frame.intoStamped := by
  -- The frame of the record of one grant.
  have recorded : ∀ grant ∈ recordsOf view, ∃ frame,
      winners.lookup (memberRecordId grant.target) = some frame ∧
        view (memberRecordId grant.target) = some frame.intoStamped ∧
        frame.stamp.peer = grant.granter := by
    intro grant listed
    rcases listed with ⟨id, shown⟩
    have keyed := canonical_record_id canonical shown
    subst keyed
    rcases (record_shown_iff _ _ _).mp shown with ⟨write, visible, -⟩
    rcases winning _ write visible with ⟨frame, found, rfl⟩
    rw [visible] at shown
    exact ⟨frame, found, visible, (record_shown_granter shown).symm⟩
  induction isChain generalizing visited steps with
  | direct listed fromRoot =>
    rename_i grant
    rcases recorded grant listed with ⟨frame, found, visible, author⟩
    cases steps with
    | zero => simp at enough
    | succ steps =>
      refine ⟨[frame], ?_, ?_⟩
      · rw [walkChain, if_neg (unseen grant List.mem_cons_self), found]
        simp only
        rw [if_pos (author.trans fromRoot)]
      · intro other member
        rw [List.mem_singleton.mp member]
        exact ⟨frame, List.mem_cons_self, found, visible⟩
  | through listed delegated rest ih =>
    rename_i grant tail
    rcases recorded grant listed with ⟨frame, found, visible, author⟩
    rw [List.map_cons, List.nodup_cons] at distinct
    cases steps with
    | zero => simp at enough
    | succ steps =>
      have unseenRest : ∀ other ∈ tail,
          memberRecordId other.target ∉ insert (memberRecordId grant.target) visited := by
        intro other member
        rw [Finset.mem_insert, not_or]
        refine ⟨?_, unseen other (List.mem_cons_of_mem _ member)⟩
        intro same
        have target := member_record_id_inj same
        exact distinct.1 (List.mem_map.mpr ⟨other, member, target⟩)
      have shorter : tail.length ≤ steps := Nat.le_of_succ_le_succ enough
      rcases ih distinct.2 unseenRest shorter with ⟨chain, returned, collected⟩
      refine ⟨frame :: chain, ?_, ?_⟩
      · rw [walkChain, if_neg (unseen grant List.mem_cons_self), found]
        simp only
        rw [if_neg (by rw [author]; exact delegated), author, returned]
      · intro other member
        rcases List.mem_cons.mp member with rfl | later
        · exact ⟨frame, List.mem_cons_self, found, visible⟩
        · rcases collected other later with ⟨otherFrame, otherListed, facts⟩
          exact ⟨otherFrame, List.mem_cons_of_mem _ otherListed, facts⟩

end

section

/-- Every logged frame is verified and merged, and the write of every shown membership record has
its frame in the log, the first one with its stamp. -/
structure Logged {scheme : SignatureScheme} (identity : Identity scheme) (state : SyncState) :
    Prop where
  selfId : state.selfId = identity.peerId
  auth : state.auth = some identity.auth
  verified : ∀ origin, ∀ frame ∈ state.log.stored origin, verifyFrame scheme frame = true
  merged : ∀ origin, ∀ frame ∈ state.log.stored origin,
    (state.applier.cell (recordKey frame)).admits frame.stamp = false
  shown : ∀ id write, memberView state.applier id = some write →
    ∃ frame ∈ state.log.stored write.stamp.peer, recordKey frame = (membersEntity, id) ∧
      frame.intoStamped = write ∧
      ∀ other ∈ state.log.stored write.stamp.peer, recordKey other = (membersEntity, id) →
        other.stamp = frame.stamp → frame.seq ≤ other.seq

variable {scheme : SignatureScheme} {identity : Identity scheme} {state : SyncState}

theorem start_logged : Logged identity ((SyncState.new identity.peerId).setAuth identity.auth) := by
  constructor
  · rfl
  · rfl
  · intro origin frame stored
    cases stored
  · intro origin frame stored
    cases stored
  · intro id write visible
    cases visible

variable {next : SyncState} {frame : WriteFrame}

variable (logged : Logged identity state)

include logged

theorem logged_same (selfId : next.selfId = state.selfId) (auth : next.auth = state.auth)
    (log : next.log = state.log) (applier : next.applier = state.applier) :
    Logged identity next := by
  constructor
  · rw [selfId, logged.selfId]
  · rw [auth, logged.auth]
  · rw [log]
    exact logged.verified
  · rw [log, applier]
    exact logged.merged
  · rw [log, applier]
    exact logged.shown

theorem logged_record (appended : state.log.classify frame = .appended)
    (valid : verifyFrame scheme frame = true) (selfId : next.selfId = state.selfId)
    (auth : next.auth = state.auth) (log : next.log = (state.log.record frame).1)
    (applier : next.applier = (state.applier.merge frame.intoStamped).1) :
    Logged identity next := by
  have storedCases : ∀ origin other, other ∈ next.log.stored origin ↔
      other ∈ state.log.stored origin ∨ origin = frame.stamp.peer ∧ other = frame := by
    intro origin other
    rw [log, record_stored_appended _ _ appended]
    split_ifs with same <;> simp [same]
  have cell : ∀ key, next.applier.cell key =
      if key = recordKey frame then ((state.applier.cell key).merge frame.intoStamped).1
      else state.applier.cell key := by
    intro key
    rw [applier]
    exact merge_cell state.applier frame.intoStamped key
  constructor
  · rw [selfId, logged.selfId]
  · rw [auth, logged.auth]
  · intro origin other stored
    rcases (storedCases origin other).mp stored with old | ⟨-, rfl⟩
    · exact logged.verified origin other old
    · exact valid
  · intro origin other stored
    rw [cell, Bool.eq_false_iff]
    intro admitted
    rcases (storedCases origin other).mp stored with old | ⟨-, rfl⟩
    · have refused := logged.merged origin other old
      split_ifs at admitted
      · rw [(merge_admits admitted).1] at refused
        cases refused
      · rw [admitted] at refused
        cases refused
    · rw [if_pos rfl] at admitted
      exact lt_irrefl _ (merge_admits admitted).2
  · intro id write visible
    rw [memberView, cell] at visible
    by_cases replaces : (membersEntity, id) = recordKey frame ∧
        (state.applier.cell (membersEntity, id)).admits frame.intoStamped.stamp = true
    · rw [if_pos replaces.1, merge_shown, if_pos replaces.2] at visible
      split_ifs at visible
      cases visible
      refine ⟨frame, (storedCases _ _).mpr (.inr ⟨rfl, rfl⟩), replaces.1.symm, rfl, ?_⟩
      intro other stored keyed same
      rcases (storedCases _ _).mp stored with old | ⟨-, rfl⟩
      · have refused := logged.merged _ other old
        have admitted : (state.applier.cell (membersEntity, id)).admits frame.stamp = true :=
          replaces.2
        rw [keyed, same, admitted] at refused
        cases refused
      · exact Nat.le_refl _
    · have before : memberView state.applier id = some write := by
        by_cases keyed : (membersEntity, id) = recordKey frame
        · rw [if_pos keyed, merge_shown,
            if_neg (fun admitted => replaces ⟨keyed, admitted⟩)] at visible
          exact visible
        · rw [if_neg keyed] at visible
          exact visible
      rcases logged.shown id write before with ⟨held, stored, keyed, same, first⟩
      refine ⟨held, (storedCases _ _).mpr (.inl stored), keyed, same, ?_⟩
      intro other otherStored otherKeyed stamps
      rcases (storedCases _ _).mp otherStored with old | ⟨origin, rfl⟩
      · exact first other old otherKeyed stamps
      · have bound := stored_seq_le stored
        have number := classify_appended appended
        rw [origin] at bound
        omega

theorem signed_frame_verifies {unsigned : WriteFrame} (author : unsigned.stamp.peer = state.selfId)
    (signed : state.signFrame unsigned = .ok frame) :
    verifyFrame scheme frame = true := by
  unfold SyncState.signFrame at signed
  rw [logged.auth] at signed
  cases bytes : unsigned.signingBytes with
  | error error => simp [bytes] at signed
  | ok signing =>
    simp only [bytes, Except.ok.injEq] at signed
    subst signed
    have sameBytes : ({ unsigned with signature := some (identity.auth.sign signing) } :
        WriteFrame).signingBytes = .ok signing := bytes
    unfold verifyFrame
    simp only [sameBytes, author, logged.selfId, identity.keyReads, if_true]
    exact identity.checks signing

theorem local_write_logged (persisted : Bool) (wallMs : Nat) (op : Op) (entity id : String)
    (data : List UInt8) :
    Logged identity (state.localWrite persisted wallMs op entity id data).1 := by
  cases written : state.localWrite persisted wallMs op entity id data with
  | mk next result =>
    cases result with
    | error error =>
      rcases local_write_error written with rfl | rfl
      · exact logged
      · exact logged_same logged rfl rfl rfl rfl
    | ok frame =>
      rcases local_write_ok written with ⟨-, -, peer, seq, rfl⟩
      have valid := signed_frame_verifies logged rfl (local_write_built written).2.1
      have appended : state.log.classify frame = .appended := by
        rw [← peer] at seq
        simp [ReplLog.classify, seq]
      exact logged_record logged appended valid rfl rfl rfl rfl

theorem receive_logged (persisted : Bool) (frame : WriteFrame) (wallMs : Nat) :
    Logged identity (state.receive persisted frame wallMs).1 := by
  have kept := receive_frame state persisted frame wallMs
  by_cases recorded : (state.receive persisted frame wallMs).2 = .appended
  · rw [receive_appended_iff] at recorded
    have log := receive_log state persisted frame wallMs
    have applier := receive_applier state persisted frame wallMs
    rw [if_pos recorded.1] at log
    rw [if_pos recorded] at applier
    have valid : verifyFrame scheme frame = true := by
      have accepted := recorded.1
      simp only [SyncState.accepts, SyncState.refuses, logged.auth, Bool.and_eq_true,
        Bool.not_not] at accepted
      exact accepted.1
    exact logged_record logged recorded.2 valid kept.1 kept.2.1 log applier
  · rw [receive_appended_iff] at recorded
    have log := receive_log state persisted frame wallMs
    have applier := receive_applier state persisted frame wallMs
    rw [if_neg recorded] at applier
    refine logged_same logged kept.1 kept.2.1 ?_ applier
    rw [log]
    split_ifs with accepted
    · rw [record_unchanged _ _ fun appended => recorded ⟨accepted, appended⟩]
    · rfl

theorem reclaim_logged (origins members : List PeerId) (keeps : KeepsShown state members) :
    Logged identity (state.reclaim origins members).1 := by
  rcases reclaim_frame state origins members with ⟨selfId, auth, applier, -, -⟩
  have stored := reclaim_stored state origins members
  constructor
  · rw [selfId, logged.selfId]
  · rw [auth, logged.auth]
  · intro origin frame listed
    exact logged.verified origin frame ((stored origin).1 frame listed)
  · intro origin frame listed
    rw [applier]
    exact logged.merged origin frame ((stored origin).1 frame listed)
  · intro id write visible
    rw [applier] at visible
    rcases logged.shown id write visible with ⟨frame, listed, keyed, same, first⟩
    rcases Prod.mk.inj keyed with ⟨entity, named⟩
    have above := keeps _ frame listed entity (by rw [named, visible, same])
    refine ⟨frame, (stored _).2 frame listed above, keyed, same, ?_⟩
    intro other otherListed
    exact first other ((stored _).1 other otherListed)

omit logged

theorem signed_runs_logged (run : SignedRuns identity KeepsShown state) :
    Logged identity state := by
  induction run with
  | start => exact start_logged
  | localWrite prior persisted wallMs op entity id data ih =>
    exact local_write_logged ih persisted wallMs op entity id data
  | receive prior persisted frame wallMs ih => exact receive_logged ih persisted frame wallMs
  | notePeerCursors prior peer cursors ih => exact logged_same ih rfl rfl rfl rfl
  | reclaim prior origins members permitted ih => exact reclaim_logged ih origins members permitted

end

section

variable {scheme : SignatureScheme} {identity : Identity scheme} {state : SyncState}
  {order : List PeerId} (visits : Visits order state.log.observed)
include visits

theorem mem_frames_for_entity (entity : String) (frame : WriteFrame) :
    frame ∈ state.framesForEntity order entity ↔
      frame ∈ state.log.stored frame.stamp.peer ∧ frame.entity = entity := by
  unfold SyncState.framesForEntity ReplLog.framesForEntity
  simp only [List.mem_flatMap, List.mem_filter, decide_eq_true_eq]
  constructor
  · intro listed
    rcases listed with ⟨origin, -, stored, keyed⟩
    rw [stored_peer stored]
    exact ⟨stored, keyed⟩
  · intro listed
    refine ⟨frame.stamp.peer, ?_, listed⟩
    rw [visits.2]
    by_contra unknown
    rw [stored_of_lookup_none (Finmap.lookup_eq_none.mpr unknown)] at listed
    cases listed.1

theorem frames_for_entity_ascending (entity : String) :
    (state.framesForEntity order entity).Pairwise fun left right =>
      left.stamp = right.stamp → left.seq < right.seq := by
  unfold SyncState.framesForEntity ReplLog.framesForEntity
  rw [List.pairwise_flatMap]
  constructor
  · intro origin _
    have ascending : ((state.log.stored origin).filter fun frame => frame.entity = entity).Pairwise
        fun left right => left.seq < right.seq := stored_ascending.filter _
    apply ascending.imp
    intro left right less _
    exact less
  · refine visits.1.imp ?_
    intro first second different left leftListed right rightListed same
    have leftPeer := stored_peer (List.mem_filter.mp leftListed).1
    have rightPeer := stored_peer (List.mem_filter.mp rightListed).1
    rw [← leftPeer, ← rightPeer, same] at different
    exact (different rfl).elim

/-- The log's winner for a shown membership record is the frame of its write. -/
theorem shown_winner (logged : Logged identity state) (id : String) (write : StampedWrite)
    (visible : memberView state.applier id = some write) :
    ∃ frame, (winnersOf (state.framesForEntity order membersEntity)).lookup id = some frame ∧
      frame.intoStamped = write := by
  rcases logged.shown id write visible with ⟨frame, stored, keyed, same, first⟩
  rcases Prod.mk.inj keyed with ⟨entity, named⟩
  have listed : frame ∈ state.framesForEntity order membersEntity := by
    rw [mem_frames_for_entity visits, stored_peer stored]
    exact ⟨stored, entity⟩
  rcases winners_lookup (state.framesForEntity order membersEntity) id with
    ⟨none, -⟩ | ⟨winner, found, wins⟩
  · exact (none frame listed named).elim
  · refine ⟨winner, found, ?_⟩
    have winnerStored := (mem_frames_for_entity visits membersEntity winner).mp (wins_mem wins)
    have winnerKeyed : recordKey winner = (membersEntity, id) :=
      Prod.ext winnerStored.2 wins.keyed
    have refused := logged.merged _ winner winnerStored.1
    rw [winnerKeyed, Bool.eq_false_iff, Ne, shown_admits visible, not_lt] at refused
    have stamp : frame.stamp = write.stamp := congrArg StampedWrite.stamp same
    have stamps : winner.stamp = frame.stamp :=
      le_antisymm (refused.trans stamp.ge) (wins.highest frame listed named)
    rcases wins.first with ⟨before, after, split, earlier⟩
    have ascending := frames_for_entity_ascending visits membersEntity
    rw [split] at listed ascending
    -- Among equal stamps the log lists the smaller number first.
    rcases List.mem_append.mp listed with early | late
    · exact absurd (earlier frame early named) (by rw [stamps]; exact lt_irrefl _)
    · rcases List.mem_cons.mp late with isWinner | after
      · rw [← isWinner]
        exact same
      · have less := (List.pairwise_cons.mp (List.pairwise_append.mp ascending).2.1).1 frame after
          stamps
        rw [stamps, stamp] at winnerStored
        have notLess := first winner winnerStored.1 winnerKeyed stamps
        omega

theorem winner_verified (logged : Logged identity state) (id : String) (frame : WriteFrame)
    (found : (winnersOf (state.framesForEntity order membersEntity)).lookup id = some frame) :
    frame.id = id ∧ frame.entity = membersEntity ∧ verifyFrame scheme frame = true := by
  rcases winners_lookup (state.framesForEntity order membersEntity) id with
    ⟨-, unknown⟩ | ⟨winner, known, wins⟩
  · rw [unknown] at found
    cases found
  · rw [found] at known
    cases known
    have stored := (mem_frames_for_entity visits membersEntity frame).mp (wins_mem wins)
    exact ⟨wins.keyed, stored.2, logged.verified _ frame stored.1⟩

end

section

variable {receiver : Membership} {presented : List WriteFrame}

theorem empty_receiver_shows {scheme : SignatureScheme}
    (empty : receiver.node.applier = Applier.new) {frame : WriteFrame}
    (verified : frame ∈ verifiedFrames scheme presented)
    (alone : ∀ other ∈ verifiedFrames scheme presented, other.id = frame.id → other = frame)
    (kept : frame.op.isDelete = false) :
    memberView (scratch receiver scheme presented) frame.id = some frame.intoStamped := by
  rw [memberView, scratch, empty, merge_all_cell, new_cell]
  rcases merge_writes_cases Cell.empty
      (((verifiedFrames scheme presented).filter fun other =>
        recordKey other = (membersEntity, frame.id)).map WriteFrame.intoStamped) with
    ⟨refused, -⟩ | ⟨write, listed, -, -, current, -⟩
  · have member : frame ∈ writesTo (verifiedFrames scheme presented) (membersEntity, frame.id) :=
      ⟨verified, Prod.ext (mem_verified_frames.mp verified).2.1 rfl⟩
    have unadmitted := refused _ (mem_record_writes.mpr ⟨frame, member, rfl⟩)
    cases unadmitted
  · rcases mem_record_writes.mp listed with ⟨other, member, rfl⟩
    rw [alone other member.1 (congrArg Prod.snd member.2)] at current
    have notDeleted : ¬frame.intoStamped.op.isDelete = true := Bool.eq_false_iff.mp kept
    simp only [Cell.shown, current, if_neg notDeleted]

theorem empty_receiver_decides {scheme : SignatureScheme}
    (empty : receiver.node.applier = Applier.new) (canonical : CanonicalFrames presented)
    {key : PeerId} (derived : ∃ role, Authorizes receiver.owner
      (recordsOf (memberView (scratch receiver scheme presented))) key role) :
    Decides receiver scheme key presented true := by
  have held : CanonicalIds (memberView receiver.node.applier) := by
    intro id shown
    rw [empty, memberView, new_cell] at shown
    cases shown
  have scratchCanonical := scratch_canonical receiver held scheme canonical
  rcases authorized_is_exists (scratchMembership receiver scheme presented)
    (canonical_ids_readable scratchCanonical)
    (canonical_ids_single_role receiver.owner scratchCanonical) with ⟨roster, evaluated⟩
  have means := (authorized_is_iff _ _).mp evaluated
  rcases derived with ⟨role, authorized⟩
  rw [decides_iff]
  exact ⟨roster, means, by rw [(means.2 key role).mpr authorized]; rfl⟩

end

/-- Completeness while nothing in force is reclaimed. In every run of a signing
node in which no `reclaim` drops the frame of a shown membership record, a node
that finds itself authorized returns a proof that any receiver with the same
owner and no frames accepts. -/
theorem kept_records_prove_membership {scheme : SignatureScheme} {identity : Identity scheme}
    {state : SyncState} (run : SignedRuns identity KeepsShown state) (owner : PeerId)
    (canonical : CanonicalIds (memberView state.applier)) {roster : Roster}
    (evaluated : Membership.AuthorizedIs ⟨state, owner⟩ roster)
    (member : state.selfId ∈ roster) {order : List PeerId}
    (visits : Visits order state.log.observed) :
    ∃ steps chain, proof ⟨state, owner⟩ order steps = .ok chain ∧
      ∀ receiver : Membership, receiver.owner = owner → receiver.node.applier = Applier.new →
        Decides receiver scheme state.selfId chain true := by
  have logged := signed_runs_logged run
  have means := (authorized_is_iff _ _).mp evaluated
  have winning := shown_winner visits logged
  have facts := winner_verified visits logged
  let winners := winnersOf (state.framesForEntity order membersEntity)
  -- Everything the walk collects is the only verified frame of a canonical id.
  have collected : ∀ steps chain,
      walkChain owner winners steps ∅ (memberRecordId state.selfId) = .ok chain →
      CanonicalFrames chain ∧ ∀ frame ∈ chain, frame ∈ verifiedFrames scheme chain ∧
        winners.lookup frame.id = some frame := by
    intro steps chain returned
    have members := walk_members returned
    constructor
    · intro frame listed _
      rcases members frame listed with ⟨other, found⟩
      exact ⟨other, (facts _ frame found).1⟩
    · intro frame listed
      rcases members frame listed with ⟨other, found⟩
      rcases facts _ frame found with ⟨keyed, entity, verified⟩
      rw [keyed]
      exact ⟨mem_verified_frames.mpr ⟨listed, entity, verified⟩, found⟩
  by_cases isOwner : state.selfId = owner
  · rcases walk_returns owner winners (winners.keys.card + 1) ∅
      (memberRecordId state.selfId) (by simp) with ⟨chain, returned⟩
    refine ⟨_, chain, returned, ?_⟩
    intro receiver sameOwner empty
    apply empty_receiver_decides empty (collected _ chain returned).1
    rw [isOwner, sameOwner]
    exact ⟨.owner, .root⟩
  · rcases Finmap.mem_iff.mp member with ⟨role, held⟩
    have authorized : Authorizes owner (recordsOf (memberView state.applier)) state.selfId role :=
      (means.2 _ _).mp held
    rcases derives_chain authorized rfl isOwner with ⟨grants, isChain, enough⟩
    have distinct := grant_chain_nodup (canonical_single_grant canonical) isChain
    have unseen : ∀ grant ∈ grants, memberRecordId grant.target ∉ (∅ : Finset String) :=
      fun _ _ => Finset.notMem_empty _
    rcases walk_follows canonical winning isChain distinct unseen (Nat.le_refl _) with
      ⟨chain, returned, frames⟩
    rcases collected _ chain returned with ⟨canonicalChain, chainFacts⟩
    refine ⟨_, chain, returned, ?_⟩
    intro receiver sameOwner empty
    apply empty_receiver_decides empty canonicalChain
    rw [sameOwner]
    refine ⟨role, enough _ ?_⟩
    intro grant listed
    rcases grant_chain_listed isChain grant listed with ⟨id, shown⟩
    rcases frames grant listed with ⟨frame, frameListed, found, visible⟩
    have alone : ∀ other ∈ verifiedFrames scheme chain, other.id = frame.id → other = frame := by
      intro other otherVerified sameId
      have otherFound := (chainFacts other (mem_verified_frames.mp otherVerified).1).2
      rw [sameId, (chainFacts frame frameListed).2, Option.some.injEq] at otherFound
      exact otherFound.symm
    have received := empty_receiver_shows empty (chainFacts frame frameListed).1 alone
      (shown_not_deleted visible)
    rw [(facts _ frame found).1, ← visible, ← canonical_record_id canonical shown] at received
    exact ⟨id, by rw [received, shown]⟩

def memberIdentity : Identity anySignature where
  peerId := peerNumber 2
  sign := signedOnly.sign
  keyReads := rfl
  checks _ := rfl

def invitedNode : SyncState :=
  (((SyncState.new (peerNumber 2)).setAuth memberIdentity.auth).receive true ownerInvite 5).1

theorem invited_node_authorized :
    Membership.AuthorizedIs ⟨invitedNode, peerNumber 1⟩ invitedRoster := by
  have visits : Visits [(membersEntity, memberRecordId (peerNumber 2))]
      invitedNode.applier.cells := visits_of_keys (by decide) (by decide)
  have returned : Membership.authorized ⟨invitedNode, peerNumber 1⟩
      [(membersEntity, memberRecordId (peerNumber 2))] 2 = .ok invitedRoster := by decide
  exact authorized_is_of_returned visits returned

theorem invited_node_proves_membership :
    ∃ steps chain, proof ⟨invitedNode, peerNumber 1⟩ [peerNumber 1] steps = .ok chain ∧
      Decides emptyReceiver anySignature (peerNumber 2) chain true := by
  have run : SignedRuns memberIdentity KeepsShown invitedNode :=
    SignedRuns.start.receive true ownerInvite 5
  have appended : (((SyncState.new (peerNumber 2)).setAuth memberIdentity.auth).receive true
      ownerInvite 5).2 = .appended := by decide
  have canonical : CanonicalIds (memberView invitedNode.applier) := by
    intro id shown
    by_cases invited : id = ownerInvite.id
    · exact ⟨peerNumber 2, invited⟩
    · rw [invitedNode, receive_member_view appended, if_neg (fun here => invited here.2.1)] at shown
      change (memberView Applier.new id).isSome = true at shown
      rw [memberView, new_cell] at shown
      cases shown
  have visits : Visits [peerNumber 1] invitedNode.log.observed :=
    visits_of_keys (by decide) (by decide)
  rcases kept_records_prove_membership run (peerNumber 1) canonical invited_node_authorized
    (by decide) visits with ⟨steps, chain, returned, accepted⟩
  exact ⟨steps, chain, returned, accepted emptyReceiver rfl rfl⟩

def reclaimedNode : SyncState :=
  ((invitedNode.notePeerCursors (peerNumber 1) invitedNode.cursors).reclaim [peerNumber 1]
    [peerNumber 1, peerNumber 2]).1

/-- The reclaimed node still finds itself authorized, and its proof is empty. -/
theorem reclaimed_node_cannot_prove :
    SignedRuns memberIdentity (fun _ _ => True) reclaimedNode ∧
      Membership.AuthorizedIs ⟨reclaimedNode, peerNumber 1⟩ invitedRoster ∧
      peerNumber 2 ∈ invitedRoster ∧
      proof ⟨reclaimedNode, peerNumber 1⟩ [peerNumber 1] 1 = .ok [] ∧
      Decides emptyReceiver anySignature (peerNumber 2) [] false := by
  have run : SignedRuns memberIdentity (fun _ _ => True) reclaimedNode :=
    ((SignedRuns.start.receive true ownerInvite 5).notePeerCursors _ _).reclaim _ _ trivial
  have visits : Visits [(membersEntity, memberRecordId (peerNumber 2))]
      reclaimedNode.applier.cells := visits_of_keys (by decide) (by decide)
  have returned : Membership.authorized ⟨reclaimedNode, peerNumber 1⟩
      [(membersEntity, memberRecordId (peerNumber 2))] 2 = .ok invitedRoster := by decide
  have ended : ∃ after, verifyProof emptyReceiver anySignature [] 1 (fun _ => true) 9
      (peerNumber 2) [] = .ok (after, false) := ⟨_, rfl⟩
  rcases ended with ⟨after, refused⟩
  exact ⟨run, authorized_is_of_returned visits returned, by decide, by decide,
    decides_iff.mpr (verify_proof_returned visits_empty refused)⟩

end Stitch.P2P.MembershipProof
