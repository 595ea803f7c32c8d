import Stitch.Transport.InboundRouting

/-!
# The buffer of connections nobody waits for

The buffer is kept in order of arrival, so the front of some queue is the oldest connection of
all. No queue is left empty, which lets the eviction loop always make progress.
-/

namespace Stitch.Transport.ArrivalBuffer

open Foundation.FiniteMap Foundation.QueueMap InboundRouting

variable {Conn : Type}

section

variable {fingerprintOf : Conn → String} {clock : Nat}
  {arrived after : HashMap String (List (Buffered Conn))} {fingerprint : String}

/-- Queues are in order of arrival and hold connections of their fingerprint. -/
structure InOrder (fingerprintOf : Conn → String) (clock : Nat)
    (arrived : HashMap String (List (Buffered Conn))) : Prop where
  tidy : Tidy arrived
  sorted : ∀ fingerprint queue, arrived.lookup fingerprint = some queue →
    queue.Pairwise fun first second => first.arrivedAt ≤ second.arrivedAt
  routed : ∀ fingerprint queue, arrived.lookup fingerprint = some queue →
    ∀ buffered ∈ queue, fingerprintOf buffered.conn = fingerprint ∧ buffered.arrivedAt ≤ clock

theorem in_order_empty : InOrder fingerprintOf clock ∅ := by
  constructor <;> intro fingerprint queue held <;> cases held

/-- Nothing was added: what is left was there, and no fingerprint is new. -/
structure Shrinks (arrived after : HashMap String (List (Buffered Conn))) : Prop where
  items : allItems after ≤ allItems arrived
  absent : ∀ fingerprint, arrived.lookup fingerprint = none → after.lookup fingerprint = none

theorem shrinks_refl (arrived : HashMap String (List (Buffered Conn))) :
    Shrinks arrived arrived := ⟨le_refl _, fun _ absent => absent⟩

theorem Shrinks.trans {last : HashMap String (List (Buffered Conn))}
    (first : Shrinks arrived after) (second : Shrinks after last) : Shrinks arrived last :=
  ⟨second.items.trans first.items,
    fun fingerprint absent => second.absent fingerprint (first.absent fingerprint absent)⟩

theorem cut_front {front rest : List (Buffered Conn)}
    (ordered : InOrder fingerprintOf clock arrived)
    (found : arrived.lookup fingerprint = some (front ++ rest)) :
    InOrder fingerprintOf clock (storeQueue arrived fingerprint rest) ∧
      Shrinks arrived (storeQueue arrived fingerprint rest) := by
  have part := List.sublist_append_right front rest
  refine ⟨⟨tidy_store ordered.tidy fingerprint rest, ?_, ?_⟩, ⟨?_, ?_⟩⟩
  · intro other queue held
    obtain ⟨whole, before, sub⟩ := store_sublist found part held
    exact (ordered.sorted other whole before).sublist sub
  · intro other queue held buffered member
    obtain ⟨whole, before, sub⟩ := store_sublist found part held
    exact ordered.routed other whole before buffered (sub.subset member)
  · rw [← all_items_store_rest found]
    exact Multiset.le_add_left _ _
  · intro other absent
    have different : other ≠ fingerprint := by
      intro same
      rw [same, found] at absent
      cases absent
    rw [lookup_store_other _ _ different, absent]

variable {now : Nat}

theorem in_order_later (ordered : InOrder fingerprintOf clock arrived) (later : clock ≤ now) :
    InOrder fingerprintOf now arrived where
  tidy := ordered.tidy
  sorted := ordered.sorted
  routed := by
    intro fingerprint queue held buffered member
    obtain ⟨same, before⟩ := ordered.routed fingerprint queue held buffered member
    exact ⟨same, before.trans later⟩

theorem push_back {conn : Conn} (ordered : InOrder fingerprintOf clock arrived)
    (later : clock ≤ now) (same : fingerprintOf conn = fingerprint) :
    InOrder fingerprintOf now
      (arrived.insert fingerprint (getOr arrived fingerprint [] ++ [⟨conn, now⟩])) := by
  refine ⟨tidy_push_back ordered.tidy fingerprint _, ?_, ?_⟩
  · intro other queue held
    apply pairwise_push_back ordered.sorted _ held
    intro before found buffered member
    exact (ordered.routed fingerprint before found buffered member).2.trans later
  · intro other queue held buffered member
    rcases mem_push_back held member with ⟨here, newest⟩ | ⟨before, found, old⟩
    · rw [here, newest]
      exact ⟨same, Nat.le_refl now⟩
    · exact (in_order_later ordered later).routed other before found buffered old

def Covers (order : List String) (arrived : HashMap String (List (Buffered Conn))) : Prop :=
  ∀ fingerprint queue, arrived.lookup fingerprint = some queue → fingerprint ∈ order

variable {order : List String}

theorem covers_of_visits (visits : Visits order arrived) :
    Covers order arrived :=
  fun fingerprint _ held => (visits.2 fingerprint).mpr (Finmap.mem_of_lookup_eq_some held)

theorem covers_shrinks (covers : Covers order arrived) (shrinks : Shrinks arrived after) :
    Covers order after := by
  intro fingerprint queue held
  cases before : arrived.lookup fingerprint with
  | none =>
    rw [shrinks.absent fingerprint before] at held
    cases held
  | some whole => exact covers fingerprint whole before

variable {state next : AcceptState Conn} {dropped : Buffered Conn}

theorem mem_fronts {at_ : Nat} :
    (fingerprint, at_) ∈ state.fronts order ↔ fingerprint ∈ order ∧
      ∃ first rest, state.arrived.lookup fingerprint = some (first :: rest) ∧
        first.arrivedAt = at_ := by
  unfold AcceptState.fronts
  rw [List.mem_filterMap]
  constructor
  · intro listed
    obtain ⟨visited, inOrder, made⟩ := listed
    cases found : state.arrived.lookup visited with
    | none => simp [found] at made
    | some queue =>
      cases queue with
      | nil => simp [found] at made
      | cons first rest =>
        simp only [found, Option.bind_some, List.head?_cons, Option.map_some,
          Option.some.injEq, Prod.mk.injEq] at made
        obtain ⟨rfl, same⟩ := made
        exact ⟨inOrder, first, rest, found, same⟩
  · intro front
    obtain ⟨inOrder, first, rest, found, same⟩ := front
    refine ⟨fingerprint, inOrder, ?_⟩
    rw [found, ← same]
    rfl

theorem item_behind_front (covers : Covers order state.arrived) {item : Buffered Conn}
    (listed : item ∈ allItems state.arrived) :
    ∃ fingerprint head tail, state.arrived.lookup fingerprint = some (head :: tail) ∧
      item ∈ head :: tail ∧ (fingerprint, head.arrivedAt) ∈ state.fronts order := by
  obtain ⟨fingerprint, queue, found, member⟩ := mem_all_items.mp listed
  cases queue with
  | nil => cases member
  | cons head tail =>
    refine ⟨fingerprint, head, tail, found, member, ?_⟩
    exact mem_fronts.mpr ⟨covers fingerprint _ found, head, tail, found, rfl⟩

theorem evict_oldest_some (ordered : InOrder fingerprintOf clock state.arrived)
    (covers : Covers order state.arrived) (evicts : state.evictOldest order = some (next, dropped)) :
    (∃ fingerprint rest, state.arrived.lookup fingerprint = some ([dropped] ++ rest) ∧
      next = { state with arrived := storeQueue state.arrived fingerprint rest }) ∧
    ∀ other ∈ allItems state.arrived, dropped.arrivedAt ≤ other.arrivedAt := by
  unfold AcceptState.evictOldest at evicts
  split at evicts
  · cases evicts
  · rename_i oldest at_ chosen
    obtain ⟨-, first, rest, held, time⟩ := mem_fronts.mp (List.argmin_mem chosen)
    rw [held] at evicts
    cases evicts
    refine ⟨⟨oldest, rest, held, rfl⟩, ?_⟩
    intro other listed
    obtain ⟨fingerprint, head, tail, found, member, front⟩ := item_behind_front covers listed
    have least : dropped.arrivedAt ≤ head.arrivedAt := by
      rw [time]
      exact List.le_of_mem_argmin front chosen
    have sorted := ordered.sorted fingerprint _ found
    rcases List.mem_cons.mp member with first | later
    · rw [first]
      exact least
    · exact least.trans ((List.pairwise_cons.mp sorted).1 other later)

theorem evict_oldest_none (covers : Covers order state.arrived)
    (stops : state.evictOldest order = none) : allItems state.arrived = 0 := by
  apply Multiset.eq_zero_of_forall_notMem
  intro other listed
  unfold AcceptState.evictOldest at stops
  split at stops
  · rename_i nothing
    rw [List.argmin_eq_none] at nothing
    obtain ⟨fingerprint, head, tail, -, -, front⟩ := item_behind_front covers listed
    rw [nothing] at front
    cases front
  · rename_i oldest at_ chosen
    obtain ⟨-, first, rest, held, -⟩ := mem_fronts.mp (List.argmin_mem chosen)
    rw [held] at stops
    cases stops

def Minimal (eviction : AcceptState.Eviction Conn) : Prop :=
  eviction.dropped ∈ eviction.buffered ∧
    ∀ other ∈ eviction.buffered, eviction.dropped.arrivedAt ≤ other.arrivedAt

theorem total_eq_card (state : AcceptState Conn) :
    state.bufferedTotal = (allItems state.arrived).card := sum_length_eq_card state.arrived

theorem evict_rounds (order : List String) (rounds : Nat) (state : AcceptState Conn)
    (ordered : InOrder fingerprintOf clock state.arrived) (covers : Covers order state.arrived)
    (enough : state.bufferedTotal ≤ rounds) :
    let evicted := AcceptState.evictRounds order rounds state
    InOrder fingerprintOf clock evicted.1.arrived ∧ Shrinks state.arrived evicted.1.arrived ∧
      evicted.1 = { state with arrived := evicted.1.arrived } ∧
      evicted.1.bufferedTotal < maxBufferedConnections ∧
      ∀ eviction ∈ evicted.2, Minimal eviction := by
  induction rounds generalizing state with
  | zero =>
    have small : state.bufferedTotal < maxBufferedConnections :=
      enough.trans_lt (by decide)
    exact ⟨ordered, shrinks_refl _, rfl, small, by simp [AcceptState.evictRounds]⟩
  | succ rounds ih =>
    unfold AcceptState.evictRounds
    by_cases small : state.bufferedTotal < maxBufferedConnections
    · rw [if_pos small]
      exact ⟨ordered, shrinks_refl _, rfl, small, by simp⟩
    rw [if_neg small]
    cases evicts : state.evictOldest order with
    | none =>
      have nothing := evict_oldest_none covers evicts
      rw [total_eq_card, nothing, Multiset.card_zero] at small
      exact absurd (by decide) small
    | some round =>
      obtain ⟨next, dropped⟩ := round
      obtain ⟨⟨fingerprint, rest, found, same⟩, least⟩ :=
        evict_oldest_some ordered covers evicts
      obtain ⟨nextOrdered, nextShrinks⟩ := cut_front ordered found
      have items := all_items_store_rest found
      have fewer : next.bufferedTotal ≤ rounds := by
        rw [total_eq_card, ← items, Multiset.card_add, Multiset.coe_card,
          List.length_singleton] at enough
        rw [same, total_eq_card]
        change (allItems (storeQueue state.arrived fingerprint rest)).card ≤ rounds
        omega
      have arrivedNext : next.arrived = storeQueue state.arrived fingerprint rest := by
        rw [same]
      rw [← arrivedNext] at nextOrdered nextShrinks
      obtain ⟨finalOrdered, finalShrinks, finalSame, finalSmall, minimal⟩ :=
        ih next nextOrdered (covers_shrinks covers nextShrinks) fewer
      refine ⟨finalOrdered, nextShrinks.trans finalShrinks, ?_, finalSmall, ?_⟩
      · rw [finalSame, same]
      · intro eviction listed
        rcases List.mem_cons.mp listed with first | later
        · rw [first]
          refine ⟨?_, least⟩
          rw [← items]
          exact Multiset.mem_add.mpr (Or.inl (List.mem_singleton_self _))
        · exact minimal eviction later

theorem buffer_spec {conn : Conn} {now : Nat} (later : clock ≤ now)
    (ordered : InOrder fingerprintOf clock state.arrived) (visits : Visits order state.arrived)
    (same : fingerprintOf conn = fingerprint) :
    let kept := state.buffer fingerprint conn now order
    InOrder fingerprintOf now kept.1.arrived ∧
      allItems kept.1.arrived ≤ ⟨conn, now⟩ ::ₘ allItems state.arrived ∧
      (∀ other, other ≠ fingerprint → state.arrived.lookup other = none →
        kept.1.arrived.lookup other = none) ∧
      kept.1 = { state with arrived := kept.1.arrived } ∧
      kept.1.bufferedTotal ≤ maxBufferedConnections ∧
      ∀ eviction ∈ kept.2, Minimal eviction := by
  intro kept
  obtain ⟨evictedOrdered, shrinks, unchanged, small, minimal⟩ :=
    evict_rounds order state.bufferedTotal state ordered (covers_of_visits visits) (Nat.le_refl _)
  set evicted := AcceptState.evictRounds order state.bufferedTotal state with evictedIs
  have keptIs : kept = ({ evicted.1 with
      arrived := evicted.1.arrived.insert fingerprint
        (getOr evicted.1.arrived fingerprint [] ++ [⟨conn, now⟩]) }, evicted.2) := rfl
  have items : allItems kept.1.arrived = ⟨conn, now⟩ ::ₘ allItems evicted.1.arrived := by
    exact all_items_insert_snoc evicted.1.arrived fingerprint ⟨conn, now⟩
  refine ⟨?_, ?_, ?_, ?_, ?_, minimal⟩
  · exact push_back evictedOrdered later same
  · rw [items]
    exact Multiset.cons_le_cons _ shrinks.items
  · intro other different absent
    exact (Finmap.lookup_insert_of_ne _ different).trans (shrinks.absent other absent)
  · rw [keptIs]
    rw [unchanged]
  · rw [total_eq_card, items, Multiset.card_cons, ← total_eq_card]
    exact small

theorem expire_queue (now : Nat) (ordered : InOrder fingerprintOf clock arrived)
    (fingerprint : String) :
    InOrder fingerprintOf clock (AcceptState.expireQueue now arrived fingerprint) ∧
      Shrinks arrived (AcceptState.expireQueue now arrived fingerprint) := by
  unfold AcceptState.expireQueue
  cases found : arrived.lookup fingerprint with
  | none => exact ⟨ordered, shrinks_refl arrived⟩
  | some queue =>
    rw [← List.takeWhile_append_dropWhile (p := AcceptState.isExpired now) (l := queue)] at found
    exact cut_front ordered found

theorem expire_queues (now : Nat) (order : List String)
    (ordered : InOrder fingerprintOf clock arrived) :
    InOrder fingerprintOf clock (order.foldl (AcceptState.expireQueue now) arrived) ∧
      Shrinks arrived (order.foldl (AcceptState.expireQueue now) arrived) := by
  induction order generalizing arrived with
  | nil => exact ⟨ordered, shrinks_refl arrived⟩
  | cons fingerprint rest ih =>
    obtain ⟨firstOrdered, firstShrinks⟩ := expire_queue now ordered fingerprint
    obtain ⟨lastOrdered, lastShrinks⟩ := ih firstOrdered
    exact ⟨lastOrdered, firstShrinks.trans lastShrinks⟩

theorem take_open_split (isOpen : Conn → Bool) (queue : List (Buffered Conn)) :
    ∃ skipped, queue = skipped ++ (AcceptState.takeOpen isOpen queue).1.toList ++
      (AcceptState.takeOpen isOpen queue).2 := by
  induction queue with
  | nil => exact ⟨[], rfl⟩
  | cons first rest ih =>
    unfold AcceptState.takeOpen
    by_cases isThere : isOpen first.conn
    · rw [if_pos isThere]
      exact ⟨[], rfl⟩
    · rw [if_neg isThere]
      obtain ⟨skipped, same⟩ := ih
      exact ⟨first :: skipped, congrArg (List.cons first) same⟩

theorem take_open_none {isOpen : Conn → Bool} {queue : List (Buffered Conn)}
    (nothing : (AcceptState.takeOpen isOpen queue).1 = none) :
    (AcceptState.takeOpen isOpen queue).2 = [] := by
  induction queue with
  | nil => rfl
  | cons first rest ih =>
    unfold AcceptState.takeOpen at nothing ⊢
    by_cases isThere : isOpen first.conn
    · rw [if_pos isThere] at nothing
      cases nothing
    · rw [if_neg isThere] at nothing ⊢
      exact ih nothing

theorem offer_split (isLive : Nat → Bool) (queue : List Nat) :
    ∃ dead, queue = dead ++ (AcceptState.offer isLive queue).1.toList ++
        (AcceptState.offer isLive queue).2 ∧
      (∀ id ∈ dead, isLive id = false) ∧
      (∀ id ∈ (AcceptState.offer isLive queue).1, isLive id = true) := by
  induction queue with
  | nil => exact ⟨[], rfl, by simp, by simp [AcceptState.offer]⟩
  | cons first rest ih =>
    unfold AcceptState.offer
    by_cases live : isLive first
    · rw [if_pos live]
      refine ⟨[], rfl, by simp, ?_⟩
      intro id taken
      cases taken
      exact live
    · rw [if_neg live]
      obtain ⟨dead, same, passed, sent⟩ := ih
      refine ⟨first :: dead, congrArg (List.cons first) same, ?_, sent⟩
      intro id member
      rcases List.mem_cons.mp member with here | later
      · rw [here]
        exact Bool.eq_false_of_not_eq_true live
      · exact passed id later

theorem offer_none {isLive : Nat → Bool} {queue : List Nat}
    (nobody : (AcceptState.offer isLive queue).1 = none) :
    (AcceptState.offer isLive queue).2 = [] := by
  induction queue with
  | nil => rfl
  | cons first rest ih =>
    unfold AcceptState.offer at nobody ⊢
    by_cases live : isLive first
    · rw [if_pos live] at nobody
      cases nobody
    · rw [if_neg live] at nobody ⊢
      exact ih nobody

end

end Stitch.Transport.ArrivalBuffer
