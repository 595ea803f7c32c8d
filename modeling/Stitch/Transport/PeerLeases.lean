import Stitch.Foundation.FiniteMap

/-!
# Peer leases

Transcription of how `signaling.rs` judges the records of the peers: by the time since the
observer first saw their `expires_at`, as long as the table of sightings knows the peer or has
room for it, and by the wall clock otherwise.
-/

namespace Stitch.Transport.PeerLeases

open Foundation.FiniteMap

def clientIdPrefix : String := "mqp2p-"

def maxTrackedClients : Nat := 4096

def clientIdFor (name : String) : String := clientIdPrefix ++ name

section

structure PresenceMark where
  ts : UInt64
  online : Bool

abbrev PresenceTable := HashMap String PresenceMark

def departed (table : PresenceTable) (name : String) : Bool :=
  (table.lookup (clientIdFor name)).any (fun mark => !mark.online)

structure PresenceEvent where
  clientId : String
  event : String
  ts : UInt64

/-- The mark of an event; those of other clients and of other kinds are ignored. -/
def PresenceEvent.mark (event : PresenceEvent) : Option PresenceMark :=
  if event.clientId.startsWith clientIdPrefix then
    match event.event with
    | "connect" => some ⟨event.ts, true⟩
    | "disconnect" => some ⟨event.ts, false⟩
    | _ => none
  else none

def PresenceEvent.counts (event : PresenceEvent) (table : PresenceTable) : Bool :=
  match table.lookup event.clientId with
  | some held => held.ts ≤ event.ts
  | none => table.keys.card < maxTrackedClients

def applyPresence (table : PresenceTable) (event : PresenceEvent) : PresenceTable :=
  match event.mark with
  | none => table
  | some mark => if event.counts table then table.insert event.clientId mark else table

/-- The mark of an event of the client. -/
def PresenceEvent.of (id : String) (event : PresenceEvent) : Option PresenceMark :=
  if event.clientId = id then event.mark else none

/-- The last one of the newest marks. -/
def Newest (marks : List PresenceMark) (held : Option PresenceMark) : Prop :=
  ∃ front mark back, marks = front ++ mark :: back ∧ held = some mark ∧
    (∀ earlier ∈ front, earlier.ts ≤ mark.ts) ∧ ∀ later ∈ back, later.ts < mark.ts

theorem mark_ts {event : PresenceEvent} {mark : PresenceMark} (marked : event.mark = some mark) :
    mark.ts = event.ts := by
  unfold PresenceEvent.mark at marked
  split_ifs at marked
  split at marked <;> cases marked <;> rfl

theorem apply_presence_lookup (table : PresenceTable) (event : PresenceEvent) (id : String) :
    (applyPresence table event).lookup id =
      if event.counts table then (event.of id).or (table.lookup id) else table.lookup id := by
  unfold applyPresence PresenceEvent.of
  by_cases same : event.clientId = id
  · cases event.mark <;> split_ifs <;> simp [same]
  · cases event.mark <;> split_ifs <;> simp [Finmap.lookup_insert_of_ne _ (Ne.symm same)]

theorem apply_presence_full {table : PresenceTable} (full : maxTrackedClients ≤ table.keys.card)
    (event : PresenceEvent) : maxTrackedClients ≤ (applyPresence table event).keys.card := by
  refine full.trans (Finset.card_le_card ?_)
  intro id known
  rw [Finmap.mem_keys, ← Finmap.lookup_isSome] at known ⊢
  rw [apply_presence_lookup]
  split_ifs
  · rw [Option.isSome_or, known, Bool.or_true]
  · exact known

/-- In whatever order presence events come, the table holds the newest mark of every client,
except for clients whose first event found the table full. -/
theorem presence_newest (events : List PresenceEvent) (id : String) :
    let table := events.foldl applyPresence ∅
    let marks := events.filterMap (PresenceEvent.of id)
    Newest marks (table.lookup id) ∨
      table.lookup id = none ∧ (marks = [] ∨ maxTrackedClients ≤ table.keys.card) := by
  induction events using List.reverseRecOn with
  | nil => exact Or.inr ⟨rfl, Or.inl rfl⟩
  | append_singleton events event ih =>
    simp only [List.foldl_append, List.foldl_cons, List.foldl_nil, List.filterMap_append,
      apply_presence_lookup]
    cases marked : event.of id with
    | none =>
      rw [List.filterMap_cons_none marked, List.filterMap_nil, List.append_nil, Option.none_or,
        ite_self]
      rcases ih with newest | ⟨absent, why⟩
      · exact Or.inl newest
      · exact Or.inr ⟨absent, why.imp_right (apply_presence_full · event)⟩
    | some mark =>
      rw [List.filterMap_cons_some marked, List.filterMap_nil, Option.some_or]
      obtain ⟨same, marked⟩ := Option.ite_none_right_eq_some.mp marked
      rw [PresenceEvent.counts, same, ← mark_ts marked]
      rcases ih with ⟨front, held, back, marks, shown, before, after⟩ | ⟨absent, why⟩
      · rw [shown, marks]
        left
        by_cases counts : held.ts ≤ mark.ts
        · refine ⟨front ++ held :: back, mark, [], rfl, by simp [counts], ?_, nofun⟩
          intro earlier inside
          rcases List.mem_append.mp inside with inside | inside
          · exact UInt64.le_trans (before earlier inside) counts
          · rcases List.mem_cons.mp inside with rfl | inside
            · exact counts
            · exact UInt64.le_trans (UInt64.le_of_lt (after earlier inside)) counts
        · refine ⟨front, held, back ++ [mark], by simp, by simp [counts], before, ?_⟩
          intro later inside
          rcases List.mem_append.mp inside with inside | inside
          · exact after later inside
          · rw [List.mem_singleton.mp inside]
            exact UInt64.not_le.mp counts
      · rw [absent]
        by_cases room : (events.foldl applyPresence ∅).keys.card < maxTrackedClients
        · left
          rw [why.resolve_right (Nat.not_le.mpr room)]
          exact ⟨[], mark, [], rfl, by simp [room], nofun, nofun⟩
        · right
          have full := Nat.not_lt.mp room
          exact ⟨by simp [room], Or.inr (apply_presence_full full event)⟩

structure PeerInfo where
  id : String
  name : String
  expiresAt : Option UInt64
  leaseSecs : Option UInt64
  deriving DecidableEq

/-- Instants are in nanoseconds. -/
structure LeaseSighting where
  expiresAt : UInt64
  seenAt : Nat
  deriving DecidableEq

abbrev LeaseTable := HashMap String LeaseSighting

def fromSecs (seconds : UInt64) : Nat := seconds.toNat * 1000000000

def peerIsLive (expiresAt : Option UInt64) (now : UInt64) : Bool :=
  (expiresAt.map (fun expiry => decide (now < expiry))).getD true

/-- The time from which a lease counts, unless the table has no room for the peer. -/
def sightedAt (table : LeaseTable) (id : String) (expiresAt : UInt64) (now : Nat) : Option Nat :=
  match table.lookup id with
  | some sighting => some (if sighting.expiresAt = expiresAt then sighting.seenAt else now)
  | none => if maxTrackedClients ≤ table.keys.card then none else some now

def leaseIsLive (table : LeaseTable) (peer : PeerInfo) (now : Nat) (unixNow : UInt64) :
    Bool × LeaseTable :=
  match peer.expiresAt, peer.leaseSecs with
  | some expiresAt, some leaseSecs =>
    match sightedAt table peer.id expiresAt now with
    | some seenAt =>
      (decide (now - seenAt < fromSecs leaseSecs), table.insert peer.id ⟨expiresAt, seenAt⟩)
    | none => (peerIsLive peer.expiresAt unixNow, table)
  | _, _ => (peerIsLive peer.expiresAt unixNow, table)

/-- A listing: the records that were returned, the clocks and the presence table. -/
structure Round where
  records : List PeerInfo
  now : Nat
  unixNow : UInt64
  presence : PresenceTable

/-- The records one after the other, with the verdict on each. -/
def judge (now : Nat) (unixNow : UInt64) :
    List PeerInfo → LeaseTable → List (PeerInfo × Bool) × LeaseTable
  | [], table => ([], table)
  | peer :: rest, table =>
    let verdict := leaseIsLive table peer now unixNow
    let later := judge now unixNow rest verdict.2
    ((peer, verdict.1) :: later.1, later.2)

def retained (leases : LeaseTable) (round : Round) : LeaseTable :=
  keepKeys (fun id => round.records.any (fun peer => decide (peer.id = id))) leases

def reports (leases : LeaseTable) (round : Round) : List (PeerInfo × Bool) :=
  (judge round.now round.unixNow round.records (retained leases round)).1

def listPeers (leases : LeaseTable) (round : Round) : List PeerInfo × LeaseTable :=
  (((reports leases round).filter
      (fun report => report.2 && !departed round.presence report.1.name)).map Prod.fst,
    (judge round.now round.unixNow round.records (retained leases round)).2)

def leasesAfter (rounds : List Round) : LeaseTable :=
  rounds.foldl (fun leases round => (listPeers leases round).2) ∅

/-- The table a listing has come to after the records of its front part. -/
def tableAt (leases : LeaseTable) (round : Round) (front : List PeerInfo) : LeaseTable :=
  (judge round.now round.unixNow front (retained leases round)).2

variable {now : Nat} {unixNow : UInt64} {table : LeaseTable} {id : String} {expiresAt : UInt64}
  {seenAt : Nat}

def Unrenewed (id : String) (expiresAt : UInt64) (peer : PeerInfo) : Prop :=
  peer.id = id → ∀ other, peer.expiresAt = some other → peer.leaseSecs ≠ none → other = expiresAt

variable {peer : PeerInfo} {leases : LeaseTable}

theorem lease_is_live_keeps (unrenewed : Unrenewed id expiresAt peer)
    (sighted : table.lookup id = some ⟨expiresAt, seenAt⟩) :
    (leaseIsLive table peer now unixNow).2.lookup id = some ⟨expiresAt, seenAt⟩ := by
  unfold leaseIsLive
  cases expiry : peer.expiresAt with
  | none => exact sighted
  | some other =>
    cases lease : peer.leaseSecs with
    | none => exact sighted
    | some leaseSecs =>
      dsimp only
      by_cases same : peer.id = id
      · have named : other = expiresAt :=
          unrenewed same other expiry (by rw [lease]; exact nofun)
        have known : sightedAt table peer.id other now = some seenAt := by
          rw [sightedAt, same, sighted]
          dsimp only
          rw [if_pos named.symm]
        rw [known, same, named]
        exact Finmap.lookup_insert _
      · cases sightedAt table peer.id other now with
        | none => exact sighted
        | some seen =>
          rw [Finmap.lookup_insert_of_ne _ (Ne.symm same)]
          exact sighted

theorem judge_keeps {records : List PeerInfo}
    (unrenewed : ∀ peer ∈ records, Unrenewed id expiresAt peer)
    (sighted : table.lookup id = some ⟨expiresAt, seenAt⟩) :
    (judge now unixNow records table).2.lookup id = some ⟨expiresAt, seenAt⟩ := by
  induction records generalizing table with
  | nil => exact sighted
  | cons peer rest ih =>
    exact ih (fun other member => unrenewed other (List.mem_cons_of_mem peer member))
      (lease_is_live_keeps (unrenewed peer List.mem_cons_self) sighted)

theorem retained_keeps {round : Round} (listed : ∃ peer ∈ round.records, peer.id = id)
    (sighted : leases.lookup id = some ⟨expiresAt, seenAt⟩) :
    (retained leases round).lookup id = some ⟨expiresAt, seenAt⟩ := by
  obtain ⟨peer, member, same⟩ := listed
  rw [retained, lookup_keepKeys, if_pos]
  · exact sighted
  · exact List.any_eq_true.mpr ⟨peer, member, decide_eq_true same⟩

theorem rounds_keep {rounds : List Round}
    (listed : ∀ round ∈ rounds, (∃ peer ∈ round.records, peer.id = id) ∧
      ∀ peer ∈ round.records, Unrenewed id expiresAt peer)
    (sighted : leases.lookup id = some ⟨expiresAt, seenAt⟩) :
    (rounds.foldl (fun leases round => (listPeers leases round).2) leases).lookup id =
      some ⟨expiresAt, seenAt⟩ := by
  induction rounds generalizing leases with
  | nil => exact sighted
  | cons round rest ih =>
    obtain ⟨present, unrenewed⟩ := listed round List.mem_cons_self
    exact ih (fun other member => listed other (List.mem_cons_of_mem round member))
      (judge_keeps unrenewed (retained_keeps present sighted))

theorem lease_is_live_sighted {leaseSecs : UInt64} (expiry : peer.expiresAt = some expiresAt)
    (lease : peer.leaseSecs = some leaseSecs)
    (known : sightedAt table peer.id expiresAt now = some seenAt) :
    leaseIsLive table peer now unixNow =
      (decide (now - seenAt < fromSecs leaseSecs),
        table.insert peer.id ⟨expiresAt, seenAt⟩) := by
  unfold leaseIsLive
  rw [expiry, lease]
  dsimp only
  rw [known]

theorem sighted_at_known (sighted : table.lookup id = some ⟨expiresAt, seenAt⟩) :
    sightedAt table id expiresAt now = some seenAt := by
  rw [sightedAt, sighted]
  dsimp only
  rw [if_pos rfl]

theorem judge_append (front back : List PeerInfo) (table : LeaseTable) :
    (judge now unixNow (front ++ back) table).2 =
      (judge now unixNow back (judge now unixNow front table).2).2 := by
  induction front generalizing table with
  | nil => rfl
  | cons peer rest ih => exact ih _

theorem list_peers_sighted {round : Round} {front back : List PeerInfo} {leaseSecs : UInt64}
    (records : round.records = front ++ peer :: back) (expiry : peer.expiresAt = some expiresAt)
    (lease : peer.leaseSecs = some leaseSecs)
    (known : sightedAt (tableAt leases round front) peer.id expiresAt round.now = some seenAt)
    (unrenewed : ∀ record ∈ back, Unrenewed peer.id expiresAt record) :
    (listPeers leases round).2.lookup peer.id = some ⟨expiresAt, seenAt⟩ := by
  change (judge round.now round.unixNow round.records (retained leases round)).2.lookup peer.id = _
  rw [records, judge_append, judge]
  refine judge_keeps unrenewed ?_
  change (leaseIsLive (tableAt leases round front) peer round.now round.unixNow).2.lookup
    peer.id = _
  rw [lease_is_live_sighted expiry lease known]
  exact Finmap.lookup_insert _

theorem sighted_at_tracked
    (tracked : peer.id ∈ table ∨ table.keys.card < maxTrackedClients) :
    ∃ seenAt, sightedAt table peer.id expiresAt now = some seenAt := by
  unfold sightedAt
  cases found : table.lookup peer.id with
  | some sighting => exact ⟨_, rfl⟩
  | none =>
    rcases tracked with member | room
    · exact absurd member (Finmap.lookup_eq_none.mp found)
    · exact ⟨now, if_neg (Nat.not_le_of_lt room)⟩

/-- A record that was judged not live by its sighting is not live in any later listing, as long
as every listing in between has the peer and none of them names another `expires_at` for it. -/
theorem expired_lease_stays {before between : List Round} {first last : Round}
    {front back lastFront lastBack : List PeerInfo} {peer twin : PeerInfo}
    {expiresAt leaseSecs : UInt64}
    (ordered : (before ++ first :: (between ++ [last])).Pairwise
      (fun earlier later => earlier.now ≤ later.now))
    (records : first.records = front ++ peer :: back)
    (expiry : peer.expiresAt = some expiresAt) (lease : peer.leaseSecs = some leaseSecs)
    (tracked : peer.id ∈ tableAt (leasesAfter before) first front ∨
      (tableAt (leasesAfter before) first front).keys.card < maxTrackedClients)
    (expired : (leaseIsLive (tableAt (leasesAfter before) first front) peer first.now
      first.unixNow).1 = false)
    (rest : ∀ record ∈ back, Unrenewed peer.id expiresAt record)
    (listed : ∀ round ∈ between, (∃ record ∈ round.records, record.id = peer.id) ∧
      ∀ record ∈ round.records, Unrenewed peer.id expiresAt record)
    (lastRecords : last.records = lastFront ++ twin :: lastBack)
    (lastUnrenewed : ∀ record ∈ lastFront, Unrenewed peer.id expiresAt record)
    (same : twin.id = peer.id ∧ twin.expiresAt = peer.expiresAt ∧
      twin.leaseSecs = peer.leaseSecs) :
    (leaseIsLive (tableAt (leasesAfter (before ++ first :: between)) last lastFront) twin last.now
      last.unixNow).1 = false := by
  obtain ⟨seenAt, known⟩ := sighted_at_tracked tracked
  rw [lease_is_live_sighted expiry lease known] at expired
  have elapsed := of_decide_eq_false expired
  have later : first.now ≤ last.now :=
    (List.pairwise_cons.mp (List.pairwise_append.mp ordered).2.1).1 last (by simp)
  -- the sighting goes through the rest of the first listing, the ones in between and the front
  -- of the last one
  have between_done : (leasesAfter (before ++ first :: between)).lookup peer.id =
      some ⟨expiresAt, seenAt⟩ := by
    rw [leasesAfter, List.foldl_append, List.foldl_cons]
    exact rounds_keep listed (list_peers_sighted records expiry lease known rest)
  have present : ∃ record ∈ last.records, record.id = peer.id :=
    ⟨twin, by rw [lastRecords]; simp, same.1⟩
  have last_front : (tableAt (leasesAfter (before ++ first :: between)) last lastFront).lookup
      twin.id = some ⟨expiresAt, seenAt⟩ := by
    rw [same.1]
    exact judge_keeps lastUnrenewed (retained_keeps present between_done)
  rw [lease_is_live_sighted (same.2.1.trans expiry) (same.2.2.trans lease)
    (sighted_at_known last_front)]
  apply decide_eq_false
  omega

def Revives (before : List Round) (first : Round) (between : List Round) (last : Round)
    (peer : PeerInfo) : Prop :=
  (before ++ first :: (between ++ [last])).Pairwise
      (fun earlier later => earlier.now ≤ later.now) ∧
    (peer, false) ∈ reports (leasesAfter before) first ∧
    (peer, true) ∈ reports (leasesAfter (before ++ first :: between)) last

instance (before : List Round) (first : Round) (between : List Round) (last : Round)
    (peer : PeerInfo) : Decidable (Revives before first between last peer) :=
  inferInstanceAs (Decidable (_ ∧ _ ∧ _))

def listing (records : List PeerInfo) (seconds unixNow : UInt64) : Round :=
  ⟨records, fromSecs seconds, unixNow, ∅⟩

def leasedUntil (expiresAt : UInt64) : PeerInfo := ⟨"peer", "peer", some expiresAt, some 15⟩

def withoutLease : PeerInfo := ⟨"peer", "peer", some 100, none⟩

theorem judge_reports_append (front back : List PeerInfo) (table : LeaseTable) :
    (judge now unixNow (front ++ back) table).1 =
      (judge now unixNow front table).1 ++
        (judge now unixNow back (judge now unixNow front table).2).1 := by
  induction front generalizing table with
  | nil => rfl
  | cons peer rest ih =>
    rw [List.cons_append, judge, judge]
    rw [ih, List.cons_append]

theorem judge_fills {records : List PeerInfo} {table : LeaseTable}
    (distinct : (records.map PeerInfo.id).Nodup) (fresh : ∀ peer ∈ records, peer.id ∉ table)
    (leased : ∀ peer ∈ records, ∃ expiresAt leaseSecs,
      peer.expiresAt = some expiresAt ∧ peer.leaseSecs = some leaseSecs)
    (room : table.keys.card + records.length ≤ maxTrackedClients) :
    (judge now unixNow records table).2.keys.card = table.keys.card + records.length ∧
      ∀ id ∈ (judge now unixNow records table).2, id ∈ table ∨ id ∈ records.map PeerInfo.id := by
  induction records generalizing table with
  | nil => exact ⟨rfl, fun id member => Or.inl member⟩
  | cons peer rest ih =>
    obtain ⟨expiresAt, leaseSecs, expiry, lease⟩ := leased peer List.mem_cons_self
    rw [List.map_cons, List.nodup_cons] at distinct
    rw [List.length_cons] at room
    have absent := fresh peer List.mem_cons_self
    have known : sightedAt table peer.id expiresAt now = some now := by
      rw [sightedAt, Finmap.lookup_eq_none.mpr absent]
      rw [if_neg (by omega)]
    have placed : (leaseIsLive table peer now unixNow).2 =
        table.insert peer.id ⟨expiresAt, now⟩ := by
      rw [lease_is_live_sighted expiry lease known]
    have size : (leaseIsLive table peer now unixNow).2.keys.card = table.keys.card + 1 := by
      rw [placed, keys_card_insert absent]
    have others : ∀ other ∈ rest, other.id ∉ (leaseIsLive table peer now unixNow).2 := by
      intro other member held
      rw [placed, Finmap.mem_insert] at held
      rcases held with same | earlier
      · exact distinct.1 (same ▸ List.mem_map_of_mem member)
      · exact fresh other (List.mem_cons_of_mem peer member) earlier
    obtain ⟨whole, only⟩ := ih distinct.2 others
      (fun other member => leased other (List.mem_cons_of_mem peer member)) (by omega)
    rw [judge]
    refine ⟨by rw [whole, size, List.length_cons]; omega, ?_⟩
    intro id member
    rcases only id member with held | later
    · rw [placed, Finmap.mem_insert] at held
      rcases held with same | earlier
      · rw [same]
        exact Or.inr List.mem_cons_self
      · exact Or.inl earlier
    · exact Or.inr (List.mem_cons_of_mem _ later)

section

variable {others : List PeerInfo}

def crowdedListing (others : List PeerInfo) : Round :=
  listing (others ++ [leasedUntil 100]) 0 200

/-- As many other peers as the table has room for. -/
structure Crowd (others : List PeerInfo) : Prop where
  distinct : (others.map PeerInfo.id).Nodup
  leased : ∀ peer ∈ others, ∃ expiresAt leaseSecs,
    peer.expiresAt = some expiresAt ∧ peer.leaseSecs = some leaseSecs
  size : others.length = maxTrackedClients
  apart : (leasedUntil 100).id ∉ others.map PeerInfo.id

theorem crowded_table (crowd : Crowd others) :
    (judge 0 200 others ∅).2.keys.card = maxTrackedClients ∧
      (leasedUntil 100).id ∉ (judge 0 200 others ∅).2 := by
  have filled := @judge_fills 0 200 others ∅ crowd.distinct (fun _ _ => Finmap.notMem_empty)
    crowd.leased (by rw [crowd.size, Finmap.keys_empty, Finset.card_empty, Nat.zero_add])
  refine ⟨?_, ?_⟩
  · rw [filled.1, crowd.size, Finmap.keys_empty, Finset.card_empty, Nat.zero_add]
  · intro member
    rcases filled.2 _ member with held | named
    · exact Finmap.notMem_empty held
    · exact crowd.apart named

theorem crowded_verdict (crowd : Crowd others) :
    leaseIsLive (judge 0 200 others ∅).2 (leasedUntil 100) 0 200 =
      (false, (judge 0 200 others ∅).2) := by
  obtain ⟨full, absent⟩ := crowded_table crowd
  have unseen : sightedAt (judge 0 200 others ∅).2 (leasedUntil 100).id 100 0 = none := by
    rw [sightedAt, Finmap.lookup_eq_none.mpr absent]
    exact if_pos full.ge
  have judged : ∀ table, sightedAt table (leasedUntil 100).id 100 0 = none →
      leaseIsLive table (leasedUntil 100) 0 200 = (false, table) := by
    intro table missing
    unfold leaseIsLive
    dsimp only [leasedUntil] at missing ⊢
    rw [missing]
    rfl
  exact judged _ unseen

theorem crowded_revives (crowd : Crowd others) :
    Revives [] (crowdedListing others) [] (listing [leasedUntil 100] 1 0) (leasedUntil 100) := by
  have verdict := crowded_verdict crowd
  have table : leasesAfter [crowdedListing others] = (judge 0 200 others ∅).2 := by
    change (judge 0 200 (others ++ [leasedUntil 100]) ∅).2 = _
    rw [judge_append]
    change (leaseIsLive (judge 0 200 others ∅).2 (leasedUntil 100) 0 200).2 = _
    rw [verdict]
  have forgotten : retained (leasesAfter [crowdedListing others])
      (listing [leasedUntil 100] 1 0) = ∅ := by
    apply Finmap.ext_lookup
    intro id
    rw [table, retained, lookup_keepKeys, Finmap.lookup_empty]
    split_ifs with listed
    · have same : (leasedUntil 100).id = id := by simpa [listing] using listed
      rw [← same, Finmap.lookup_eq_none.mpr (crowded_table crowd).2]
    · rfl
  refine ⟨by simp [crowdedListing, listing, fromSecs], ?_, ?_⟩
  · change (leasedUntil 100, false) ∈ (judge 0 200 (others ++ [leasedUntil 100]) ∅).1
    rw [judge_reports_append]
    apply List.mem_append_right
    change _ ∈ [(leasedUntil 100, (leaseIsLive (judge 0 200 others ∅).2 (leasedUntil 100) 0 200).1)]
    rw [verdict]
    exact List.mem_cons_self
  · rw [List.nil_append, reports, forgotten]
    decide

end

def filler (index : Nat) : PeerInfo :=
  ⟨String.ofList (List.replicate index 'f'), "filler", some 1, some 15⟩

def fillers (count : Nat) : List PeerInfo := (List.range count).map filler

theorem fillers_crowd : Crowd (fillers maxTrackedClients) := by
  refine ⟨?_, ?_, ?_, ?_⟩
  · rw [fillers, List.map_map]
    apply List.nodup_range.map
    intro index other same
    have letters := congrArg (fun id : String => id.toList.length) same
    simpa [filler] using letters
  · intro peer member
    obtain ⟨index, -, same⟩ := List.mem_map.mp member
    rw [← same]
    exact ⟨1, 15, rfl, rfl⟩
  · rw [fillers, List.length_map, List.length_range]
  · intro member
    rw [fillers, List.map_map] at member
    obtain ⟨index, -, same⟩ := List.mem_map.mp member
    have spelled : "peer".toList = ['p', 'e', 'e', 'r'] := by decide
    have letters : (String.ofList (List.replicate index 'f')).toList = "peer".toList :=
      congrArg String.toList same
    rw [spelled, String.toList_ofList] at letters
    have first : 'p' ∈ List.replicate index 'f' := by
      rw [letters]
      exact List.mem_cons_self
    exact absurd (List.eq_of_mem_replicate first) (by decide)

end

/-- A record comes back to life when a listing leaves it out, when the table of sightings was
full at the verdict, when it has no lease and the wall clock goes back, and when another
`expires_at` was seen in between. -/
theorem expired_lease_revives :
    Revives [listing [leasedUntil 100] 0 0] (listing [leasedUntil 100] 15 0) [listing [] 16 0]
        (listing [leasedUntil 100] 17 0) (leasedUntil 100) ∧
      Revives [] (crowdedListing (fillers maxTrackedClients)) []
        (listing [leasedUntil 100] 1 0) (leasedUntil 100) ∧
      Revives [] (listing [withoutLease] 0 200) [] (listing [withoutLease] 1 50) withoutLease ∧
      Revives [listing [leasedUntil 100] 0 0] (listing [leasedUntil 100] 15 0)
        [listing [leasedUntil 105] 16 0] (listing [leasedUntil 100] 17 0) (leasedUntil 100) :=
  ⟨by decide, crowded_revives fillers_crowd, by decide, by decide⟩

/-- A lease of fifteen seconds that has run out stays so. -/
theorem expired_lease_stays_listed :
    (leaseIsLive (tableAt (leasesAfter [listing [leasedUntil 100] 0 0, listing [leasedUntil 100] 15 0,
      listing [leasedUntil 100] 16 0]) (listing [leasedUntil 100] 17 0) []) (leasedUntil 100)
        (fromSecs 17) 0).1 = false := by
  have unrenewed : ∀ record ∈ [leasedUntil 100], Unrenewed "peer" 100 record := by
    intro record member same other expiry lease
    rw [List.mem_singleton.mp member] at expiry
    exact (Option.some.inj expiry).symm
  exact @expired_lease_stays [listing [leasedUntil 100] 0 0] [listing [leasedUntil 100] 16 0]
    (listing [leasedUntil 100] 15 0) (listing [leasedUntil 100] 17 0) [] [] [] []
    (leasedUntil 100) (leasedUntil 100) 100 15 (by decide) rfl rfl rfl (by decide)
    (by decide) (List.forall_mem_nil _)
    (by
      intro round member
      rw [List.mem_singleton.mp member]
      exact ⟨⟨leasedUntil 100, List.mem_cons_self, rfl⟩, unrenewed⟩)
    rfl (List.forall_mem_nil _) ⟨rfl, rfl, rfl⟩

end Stitch.Transport.PeerLeases
