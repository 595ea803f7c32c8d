import Stitch.Foundation.GuardedRuns
import Stitch.Transport.ArrivalBuffer
import Stitch.Transport.WaiterQueues

/-!
# Every connection reaches the accept it was meant for, once

The invariant of an endpoint over all interleavings of deliveries, accepts, their cancellation,
sweeps and closing.
-/

namespace Stitch.Transport.AcceptRouting

open Foundation.FiniteMap Foundation.QueueMap Foundation.GuardedRuns InboundRouting ArrivalBuffer
open WaiterQueues

variable {Conn : Type}

section

def Channel.holds : Channel Conn → Multiset Conn
  | .sent conn => {conn}
  | _ => 0

def inChannels (waits : HashMap Nat (Wait Conn)) : Multiset Conn :=
  sumValues (fun wait => Channel.holds wait.channel) waits

variable {waits : HashMap Nat (Wait Conn)} {id : Nat} {wait : Wait Conn}

theorem in_channels_set (found : waits.lookup id = some wait) (channel : Channel Conn) :
    Channel.holds wait.channel + inChannels (waits.insert id { wait with channel := channel }) =
      Channel.holds channel + inChannels waits := by
  unfold inChannels
  rw [sum_values_insert, sum_values_at _ found]
  exact add_left_comm _ _ _

theorem in_channels_register {fingerprint : String} (fresh : waits.lookup id = none) :
    inChannels (waits.insert id ⟨fingerprint, .waiting⟩) = inChannels waits := by
  unfold inChannels
  rw [sum_values_insert, sum_values_erase_absent _ fresh]
  exact zero_add _

/-- A delivered connection was returned, or is in a channel or in the buffer, at most once
in all of them. -/
structure Ledger (returned : List (String × Conn)) (sent : Multiset Conn)
    (buffered : Multiset (Buffered Conn)) (delivered : List Conn) : Prop where
  once : delivered.Nodup
  held : (returned.map Prod.snd : Multiset Conn) + sent + buffered.map Buffered.conn ≤ delivered

variable {returned : List (String × Conn)} {sent after : Multiset Conn} {conn : Conn}
  {buffered left : Multiset (Buffered Conn)} {delivered : List Conn} {fingerprint : String}

variable (ledger : Ledger returned sent buffered delivered)

include ledger

theorem ledger_shrink (fewer : after ≤ sent) (smaller : left ≤ buffered) :
    Ledger returned after left delivered :=
  ⟨ledger.once, (add_le_add (add_le_add_right fewer _) (Multiset.map_le_map smaller)).trans
    ledger.held⟩

theorem ledger_return
    (moved : conn ::ₘ (after + left.map Buffered.conn) ≤ sent + buffered.map Buffered.conn) :
    Ledger (returned ++ [(fingerprint, conn)]) after left delivered := by
  refine ⟨ledger.once, le_trans ?_ ledger.held⟩
  rw [List.map_append, ← Multiset.coe_add, add_assoc, add_assoc, add_assoc]
  exact add_le_add_right moved _

theorem ledger_arrive (fresh : conn ∉ delivered)
    (entered : after + left.map Buffered.conn ≤ conn ::ₘ (sent + buffered.map Buffered.conn)) :
    Ledger returned after left (conn :: delivered) := by
  refine ⟨List.nodup_cons.mpr ⟨fresh, ledger.once⟩, ?_⟩
  rw [← Multiset.cons_coe, add_assoc]
  refine (add_le_add_right entered _).trans ?_
  rw [Multiset.add_cons, ← add_assoc]
  exact Multiset.cons_le_cons conn ledger.held

theorem ledger_nodup :
    (returned.map Prod.snd).Nodup := by
  have part : (returned.map Prod.snd : Multiset Conn) ≤ delivered := by
    refine le_trans ?_ ledger.held
    rw [add_assoc]
    exact Multiset.le_add_right _ _
  exact Multiset.coe_nodup.mp (Multiset.nodup_of_le part (Multiset.coe_nodup.mpr ledger.once))

end

section

variable {fingerprintOf : Conn → String} {endpoint after : Endpoint Conn}
  {fingerprint : String} {conn : Conn} {id now : Nat} {wait : Wait Conn}

structure Routed (fingerprintOf : Conn → String) (endpoint : Endpoint Conn) : Prop where
  buffer : InOrder fingerprintOf endpoint.clock endpoint.state.arrived
  bounded : endpoint.state.bufferedTotal ≤ maxBufferedConnections
  queued : Queued endpoint.waits endpoint.state.waiters endpoint.state.nextWaiterId
    endpoint.state.closed
  apart : ∀ fingerprint, endpoint.state.waiters.lookup fingerprint = none ∨
    endpoint.state.arrived.lookup fingerprint = none
  turns : InTurn endpoint.waits endpoint.state.nextWaiterId endpoint.served
  ledger : Ledger endpoint.returned (inChannels endpoint.waits)
    (allItems endpoint.state.arrived) endpoint.delivered
  returned : ∀ fingerprint conn, (fingerprint, conn) ∈ endpoint.returned →
    fingerprintOf conn = fingerprint
  sent : ∀ id fingerprint conn, endpoint.waits.lookup id = some ⟨fingerprint, .sent conn⟩ →
    fingerprintOf conn = fingerprint
  evicted : ∀ eviction ∈ endpoint.evicted, Minimal eviction

theorem routed_new : Routed fingerprintOf (Endpoint.new : Endpoint Conn) where
  buffer := in_order_empty
  bounded := Nat.zero_le _
  queued := by
    apply queued_empty
    · intro id wait held
      cases held
    · intro _ fingerprint id waiting
      cases waiting
  apart := fun _ => Or.inl rfl
  turns := ⟨List.Pairwise.nil, by simp [Endpoint.new], by simp [Endpoint.new]⟩
  ledger := ⟨List.nodup_nil, le_refl _⟩
  returned := by simp [Endpoint.new]
  sent := by
    intro id fingerprint conn held
    cases held
  evicted := by simp [Endpoint.new]

variable {channel : Channel Conn} {queue rest : List Nat} {order : List String}

theorem sent_of_set_channel {waits : HashMap Nat (Wait Conn)}
    (sent : ∀ id fingerprint conn, waits.lookup id = some ⟨fingerprint, .sent conn⟩ →
      fingerprintOf conn = fingerprint)
    (ours : ∀ conn, channel = .sent conn → fingerprintOf conn = wait.fingerprint) :
    ∀ other fingerprint conn,
      (waits.insert id { wait with channel := channel }).lookup other =
          some ⟨fingerprint, .sent conn⟩ →
        fingerprintOf conn = fingerprint := by
  intro other fingerprint conn held
  rw [lookup_set_channel] at held
  by_cases here : other = id
  · rw [if_pos here] at held
    cases held
    exact ours conn rfl
  · rw [if_neg here] at held
    exact sent other fingerprint conn held

section

variable (routed : Routed fingerprintOf endpoint)

include routed

theorem routed_drop (found : endpoint.waits.lookup id = some wait)
    (gone : channel = .receiverGone ∨ channel = .guardGone) :
    Routed fingerprintOf { endpoint with waits := endpoint.setChannel id wait channel } := by
  have used : channel ≠ .waiting := by
    rcases gone with same | same <;> rw [same] <;> simp
  have empty : Channel.holds channel = 0 := by
    rcases gone with same | same <;> rw [same] <;> rfl
  have fewer : inChannels (endpoint.setChannel id wait channel) ≤ inChannels endpoint.waits := by
    have moved := in_channels_set found channel
    rw [empty, zero_add] at moved
    rw [← moved]
    exact Multiset.le_add_left _ _
  exact {
    routed with
    queued := queued_set_channel used routed.queued found
    turns := in_turn_set_channel wait used routed.turns
    ledger := ledger_shrink routed.ledger fewer (le_refl _)
    sent := by
      apply sent_of_set_channel routed.sent
      intro conn isSent
      rw [isSent] at empty
      exact absurd empty (Multiset.singleton_ne_zero conn) }

theorem routed_complete (found : endpoint.waits.lookup id = some ⟨fingerprint, .sent conn⟩) :
    Routed fingerprintOf { endpoint with
      waits := endpoint.setChannel id ⟨fingerprint, .sent conn⟩ .receiverGone
      returned := endpoint.returned ++ [(fingerprint, conn)] } := by
  have dropped := routed_drop routed found (Or.inl rfl)
  have moved := in_channels_set found .receiverGone
  exact {
    dropped with
    ledger := by
      apply ledger_return routed.ledger
      rw [← zero_add (inChannels endpoint.waits)]
      change _ ≤ Channel.holds .receiverGone + inChannels endpoint.waits + _
      rw [← moved, add_assoc]
      exact le_refl _
    returned := by
      intro label other listed
      rcases List.mem_append.mp listed with old | last
      · exact routed.returned label other old
      · cases List.mem_singleton.mp last
        exact routed.sent id fingerprint conn found }

theorem routed_cut
    (found : endpoint.state.waiters.lookup fingerprint = some queue) (part : rest.Sublist queue)
    (gone : ∀ id ∈ queue, id ∉ rest → ¬ Waiting endpoint.waits fingerprint id) :
    Routed fingerprintOf { endpoint with
      state := { endpoint.state with
        waiters := storeQueue endpoint.state.waiters fingerprint rest } } := {
  routed with
  queued := queued_cut routed.queued found part gone
  apart := by
    intro other
    by_cases here : other = fingerprint
    · rw [here]
      rcases routed.apart fingerprint with absent | absent
      · rw [found] at absent
        cases absent
      · exact Or.inr absent
    · rcases routed.apart other with absent | absent
      · exact Or.inl ((lookup_store_other _ rest here).trans absent)
      · exact Or.inr absent }

theorem routed_remove_waiter (gone : ¬ Waiting endpoint.waits fingerprint id) :
    Routed fingerprintOf { endpoint with state := endpoint.state.removeWaiter fingerprint id } := by
  unfold AcceptState.removeWaiter
  cases found : endpoint.state.waiters.lookup fingerprint with
  | none => exact routed
  | some queue =>
    apply routed_cut routed found List.filter_sublist
    intro other member removed
    have same : other = id := by
      by_contra different
      exact removed (List.mem_filter.mpr ⟨member, decide_eq_true different⟩)
    rw [same]
    exact gone

theorem routed_shrink {arrived : HashMap String (List (Buffered Conn))}
    (ordered : InOrder fingerprintOf now arrived)
    (shrinks : Shrinks endpoint.state.arrived arrived) :
    Routed fingerprintOf { endpoint with
      state := { endpoint.state with arrived := arrived }, clock := now } := {
  routed with
  buffer := ordered
  bounded := by
    have fewer := Multiset.card_le_card shrinks.items
    rw [← total_eq_card] at fewer
    rw [total_eq_card]
    exact fewer.trans routed.bounded
  apart := by
    intro other
    exact (routed.apart other).imp_right (shrinks.absent other)
  ledger := ledger_shrink routed.ledger (le_refl _) shrinks.items }

theorem routed_close :
    Routed fingerprintOf { endpoint with state := endpoint.state.close } := {
  routed with
  buffer := in_order_empty
  bounded := Nat.zero_le _
  queued := by
    apply queued_empty routed.queued.numbered
    intro isOpen
    cases isOpen
  apart := fun _ => Or.inl rfl
  ledger := ledger_shrink routed.ledger (le_refl _) (Multiset.zero_le _) }

theorem routed_register (absent : endpoint.state.arrived.lookup fingerprint = none) :
    Routed fingerprintOf { endpoint with
      state := (endpoint.state.register fingerprint).1
      waits := endpoint.waits.insert endpoint.state.nextWaiterId ⟨fingerprint, .waiting⟩ } := by
  have fresh : endpoint.waits.lookup endpoint.state.nextWaiterId = none := by
    cases found : endpoint.waits.lookup endpoint.state.nextWaiterId with
    | none => rfl
    | some wait => exact absurd (routed.queued.numbered _ wait found) (Nat.lt_irrefl _)
  exact {
    routed with
    queued := queued_register routed.queued fingerprint
    apart := by
      intro other
      by_cases here : other = fingerprint
      · rw [here]
        exact Or.inr absent
      · exact (routed.apart other).imp_left ((Finmap.lookup_insert_of_ne _ here).trans ·)
    turns := in_turn_register routed.turns fingerprint
    ledger := by
      rw [in_channels_register fresh]
      exact routed.ledger
    sent := by
      intro other label conn held
      by_cases here : other = endpoint.state.nextWaiterId
      · rw [here, Finmap.lookup_insert] at held
        cases held
      · rw [Finmap.lookup_insert_of_ne _ here] at held
        exact routed.sent other label conn held }

theorem routed_take {skipped rest : List (Buffered Conn)} {taken : Buffered Conn}
    (found : endpoint.state.arrived.lookup fingerprint = some (skipped ++ [taken] ++ rest)) :
    Routed fingerprintOf { endpoint with
      state := { endpoint.state with
        arrived := storeQueue endpoint.state.arrived fingerprint rest }
      returned := endpoint.returned ++ [(fingerprint, taken.conn)] } := by
  obtain ⟨ordered, shrinks⟩ := cut_front routed.buffer found
  exact {
    routed_shrink routed ordered shrinks with
    ledger := by
      apply ledger_return routed.ledger
      rw [← all_items_store_rest found, Multiset.map_add, ← Multiset.coe_add, Multiset.map_add,
        ← Multiset.add_cons]
      apply add_le_add_right
      rw [← Multiset.singleton_add]
      apply add_le_add_left
      exact Multiset.le_add_left _ _
    returned := by
      intro label other listed
      rcases List.mem_append.mp listed with old | last
      · exact routed.returned label other old
      · cases List.mem_singleton.mp last
        exact (routed.buffer.routed fingerprint _ found taken (by simp)).1 }

variable (later : endpoint.clock ≤ now) (fresh : conn ∉ endpoint.delivered)

include later fresh

theorem routed_refuse :
    Routed fingerprintOf { endpoint with
      clock := now, delivered := conn :: endpoint.delivered } := {
  routed with
  buffer := in_order_later routed.buffer later
  ledger := ledger_arrive routed.ledger fresh (Multiset.le_cons_self _ conn) }

theorem routed_buffer (visits : Visits order endpoint.state.arrived)
    (nobody : endpoint.state.waiters.lookup (fingerprintOf conn) = none) :
    Routed fingerprintOf { endpoint with
      state := (endpoint.state.buffer (fingerprintOf conn) conn now order).1
      clock := now
      delivered := conn :: endpoint.delivered
      evicted := endpoint.evicted ++
        (endpoint.state.buffer (fingerprintOf conn) conn now order).2 } := by
  obtain ⟨ordered, items, absent, unchanged, bounded, minimal⟩ :=
    buffer_spec later routed.buffer visits (rfl : fingerprintOf conn = fingerprintOf conn)
  generalize endpoint.state.buffer (fingerprintOf conn) conn now order = kept at *
  obtain ⟨⟨waiters, arrived, nextId, closed⟩, evicted⟩ := kept
  cases unchanged
  exact {
    routed with
    buffer := ordered
    bounded := bounded
    apart := by
      intro other
      by_cases here : other = fingerprintOf conn
      · rw [here]
        exact Or.inl nobody
      · exact (routed.apart other).imp_right (absent other here)
    ledger := by
      apply ledger_arrive routed.ledger fresh
      rw [← Multiset.add_cons]
      apply add_le_add_right
      have entered := Multiset.map_le_map (f := Buffered.conn) items
      rw [Multiset.map_cons] at entered
      exact entered
    evicted := by
      intro eviction listed
      rcases List.mem_append.mp listed with old | new
      · exact routed.evicted eviction old
      · exact minimal eviction new }

theorem routed_send (waiting : Waiting endpoint.waits (fingerprintOf conn) id)
    (first : ∀ other, Waiting endpoint.waits (fingerprintOf conn) other → other ≠ id → id < other) :
    Routed fingerprintOf { endpoint with
      waits := endpoint.setChannel id ⟨fingerprintOf conn, .waiting⟩ (.sent conn)
      clock := now
      delivered := conn :: endpoint.delivered
      served := endpoint.served ++ [(fingerprintOf conn, id)] } := by
  have used : Channel.sent conn ≠ .waiting := by simp
  have moved : inChannels (endpoint.setChannel id ⟨fingerprintOf conn, .waiting⟩ (.sent conn)) =
      conn ::ₘ inChannels endpoint.waits :=
    (zero_add _).symm.trans (in_channels_set waiting (.sent conn))
  exact {
    routed with
    buffer := in_order_later routed.buffer later
    queued := queued_set_channel used routed.queued waiting
    turns := in_turn_serve routed.turns waiting (routed.queued.numbered id _ waiting) first
    ledger := by
      apply ledger_arrive routed.ledger fresh
      rw [← Multiset.cons_add]
      apply add_le_add_left
      exact moved.le
    sent := by
      apply sent_of_set_channel routed.sent
      intro other isSent
      cases isSent
      rfl }

omit later fresh

theorem routed_offer {dead : List Nat}
    (isOpen : endpoint.state.closed = false) (later : endpoint.clock ≤ now)
    (fresh : conn ∉ endpoint.delivered)
    (found : endpoint.state.waiters.lookup (fingerprintOf conn) = some (dead ++ [id] ++ rest))
    (passed : ∀ other ∈ dead, ¬ Waiting endpoint.waits (fingerprintOf conn) other)
    (waiting : Waiting endpoint.waits (fingerprintOf conn) id) :
    Routed fingerprintOf { endpoint with
      state := { endpoint.state with
        waiters := storeQueue endpoint.state.waiters (fingerprintOf conn) rest }
      waits := endpoint.setChannel id ⟨fingerprintOf conn, .waiting⟩ (.sent conn)
      clock := now
      delivered := conn :: endpoint.delivered
      served := endpoint.served ++ [(fingerprintOf conn, id)] } := by
  have increasing := (routed.queued.increasing _ _ found)
  rw [List.append_assoc] at increasing
  have behind : ∀ other ∈ rest, id < other :=
    (List.pairwise_cons.mp (List.pairwise_append.mp increasing).2.1).1
  have sent := routed_send routed later fresh waiting (by
    intro other alsoWaits different
    obtain ⟨queue, held, member⟩ := routed.queued.listed isOpen _ other alsoWaits
    rw [found] at held
    cases held
    rcases List.mem_append.mp member with front | inRest
    · rcases List.mem_append.mp front with inDead | last
      · exact absurd alsoWaits (passed other inDead)
      · exact absurd (List.mem_singleton.mp last) different
    · exact behind other inRest)
  apply routed_cut sent found (List.sublist_append_right _ _)
  intro other member outside stillWaits
  obtain ⟨different, waited⟩ := waiting_set_channel _ (by simp) stillWaits
  rcases List.mem_append.mp member with front | inRest
  · rcases List.mem_append.mp front with inDead | last
    · exact passed other inDead waited
    · exact different (List.mem_singleton.mp last)
  · exact outside inRest

variable [DecidableEq Conn]

theorem is_live_iff
    (found : endpoint.state.waiters.lookup fingerprint = some queue) (member : id ∈ queue) :
    endpoint.isLive id = true ↔ Waiting endpoint.waits fingerprint id := by
  obtain ⟨channel, known⟩ := routed.queued.known fingerprint queue found id member
  unfold Endpoint.isLive Waiting
  rw [known]
  simp

theorem routed_deliver (delivers : endpoint.deliver fingerprintOf conn now order = some after) :
    Routed fingerprintOf after := by
  unfold Endpoint.deliver at delivers
  split at delivers
  · rename_i allowed
    obtain ⟨fresh, later, visits⟩ := allowed
    dsimp only at delivers
    unfold AcceptState.deliver at delivers
    by_cases closed : endpoint.state.closed = true
    · rw [if_pos closed] at delivers
      cases delivers
      exact routed_refuse routed later fresh
    rw [if_neg closed] at delivers
    cases found : endpoint.state.waiters.lookup (fingerprintOf conn) with
    | none =>
      rw [found] at delivers
      cases delivers
      exact routed_buffer routed later fresh visits found
    | some queue =>
      rw [found] at delivers
      dsimp only at delivers
      obtain ⟨dead, parts, passed, live⟩ := offer_split endpoint.isLive queue
      have notWaiting : ∀ other ∈ dead,
          ¬ Waiting endpoint.waits (fingerprintOf conn) other := by
        intro other inDead waits
        have member : other ∈ queue := by
          rw [parts]
          exact List.mem_append_left _ (List.mem_append_left _ inDead)
        have isLive := (is_live_iff routed found member).mpr waits
        rw [passed other inDead] at isLive
        cases isLive
      have whole : (AcceptState.offer endpoint.isLive queue).1 = none → queue = dead := by
        intro nobody
        rw [parts, nobody, offer_none nobody]
        simp
      cases offered : AcceptState.offer endpoint.isLive queue with
      | mk taken rest =>
        rw [offered] at delivers parts live whole
        cases taken with
        | none =>
          cases delivers
          have cut := routed_cut routed found (List.nil_sublist queue)
            (fun other member _ => notWaiting other (whole rfl ▸ member))
          exact routed_buffer cut later fresh visits (Finmap.lookup_erase _ _)
        | some id =>
          have member : id ∈ queue := by
            rw [parts]
            simp
          have waiting := (is_live_iff routed found member).mp (live id rfl)
          dsimp only at delivers
          rw [show endpoint.waits.lookup id = _ from waiting] at delivers
          cases delivers
          rw [parts] at found
          exact routed_offer routed (Bool.eq_false_of_not_eq_true closed) later fresh
            found notWaiting waiting
  · cases delivers

theorem routed_accept (fingerprint : String)
    (closedNow : List Conn) : Routed fingerprintOf (endpoint.accept fingerprint closedNow) := by
  unfold Endpoint.accept AcceptState.accept
  by_cases closed : endpoint.state.closed = true
  · rw [if_pos closed]
    exact routed
  rw [if_neg closed]
  cases found : endpoint.state.arrived.lookup fingerprint with
  | none => exact routed_register routed found
  | some queue =>
    dsimp only
    obtain ⟨skipped, parts⟩ := take_open_split (fun conn => decide (conn ∉ closedNow)) queue
    cases taken : (AcceptState.takeOpen (fun conn => decide (conn ∉ closedNow)) queue).1 with
    | none =>
      rw [taken, take_open_none taken] at parts
      rw [take_open_none taken]
      obtain ⟨ordered, shrinks⟩ := cut_front routed.buffer (found.trans (congrArg some parts))
      have emptied := routed_shrink routed ordered shrinks
      apply routed_register emptied
      exact lookup_store_self _ fingerprint []
    | some first =>
      rw [taken] at parts
      exact routed_take routed (found.trans (congrArg some parts))

end

variable [DecidableEq Conn]

theorem routed_step {action : Action Conn} (routed : Routed fingerprintOf endpoint)
    (taken : endpoint.step fingerprintOf action = some after) : Routed fingerprintOf after := by
  cases action with
  | deliver conn now order => exact routed_deliver routed taken
  | accept fingerprint closedNow =>
    cases taken
    exact routed_accept routed fingerprint closedNow
  | complete id =>
    simp only [Endpoint.step, Endpoint.complete] at taken
    cases found : endpoint.waits.lookup id with
    | none => simp [found] at taken
    | some wait =>
      obtain ⟨fingerprint, channel⟩ := wait
      rw [found] at taken
      cases channel with
      | sent conn =>
        cases taken
        exact routed_complete routed found
      | waiting =>
        dsimp only at taken
        split at taken
        · cases taken
          exact routed_drop routed found (Or.inl rfl)
        · cases taken
      | receiverGone | guardGone => cases taken
  | dropReceiver id =>
    simp only [Endpoint.step, Endpoint.dropReceiver] at taken
    cases found : endpoint.waits.lookup id with
    | none => simp [found] at taken
    | some wait =>
      obtain ⟨fingerprint, channel⟩ := wait
      rw [found] at taken
      cases channel with
      | sent conn | waiting =>
        cases taken
        exact routed_drop routed found (Or.inl rfl)
      | receiverGone | guardGone => cases taken
  | dropGuard id =>
    simp only [Endpoint.step, Endpoint.dropGuard] at taken
    cases found : endpoint.waits.lookup id with
    | none => simp [found] at taken
    | some wait =>
      rw [found] at taken
      dsimp only at taken
      split at taken
      · cases taken
        exact routed_remove_waiter (routed_drop routed found (Or.inr rfl))
          (fun waiting => (waiting_set_channel wait (by simp) waiting).1 rfl)
      · cases taken
  | sweep now order =>
    simp only [Endpoint.step, Endpoint.sweep] at taken
    split at taken
    · rename_i allowed
      cases taken
      obtain ⟨ordered, shrinks⟩ := expire_queues now order routed.buffer
      exact routed_shrink routed (in_order_later ordered allowed.1) shrinks
    · cases taken
  | close =>
    cases taken
    exact routed_close routed

end

section

variable [DecidableEq Conn] {fingerprintOf : Conn → String} {endpoint : Endpoint Conn}

/-- The states of an endpoint under any interleaving of the actions. -/
def Runs (fingerprintOf : Conn → String) (endpoint : Endpoint Conn) : Prop :=
  Reaches (fun before => Endpoint.step fingerprintOf before) (fun _ _ => True) Endpoint.new
    endpoint

theorem runs_routed (run : Runs fingerprintOf endpoint) : Routed fingerprintOf endpoint := by
  apply reaches_invariant (Routed fingerprintOf) routed_new _ run
  intro before action after routed _ taken
  exact routed_step routed taken

/-- Every connection is returned once, by an accept of its fingerprint; accepts are served
in order; and the two maps and the evictions are as they should be. -/
theorem connections_routed_once (run : Runs fingerprintOf endpoint) :
    (∀ fingerprint conn, (fingerprint, conn) ∈ endpoint.returned →
      fingerprintOf conn = fingerprint) ∧
    (endpoint.returned.map Prod.snd).Nodup ∧
    (endpoint.served.Pairwise fun first second => first.1 = second.1 → first.2 < second.2) ∧
    (∀ fingerprint id, (fingerprint, id) ∈ endpoint.served →
      ∀ other, Waiting endpoint.waits fingerprint other → id < other) ∧
    (∀ fingerprint, endpoint.state.waiters.lookup fingerprint = none ∨
      endpoint.state.arrived.lookup fingerprint = none) ∧
    Tidy endpoint.state.waiters ∧ Tidy endpoint.state.arrived ∧
    endpoint.state.bufferedTotal ≤ maxBufferedConnections ∧
    ∀ eviction ∈ endpoint.evicted, Minimal eviction := by
  have routed := runs_routed run
  exact ⟨routed.returned, ledger_nodup routed.ledger, routed.turns.ordered, routed.turns.ahead,
    routed.apart, routed.queued.tidy, routed.buffer.tidy, routed.bounded, routed.evicted⟩

def mailbox (conn : Nat) : String := if conn < 10 then "a" else "b"

/-- The receiver of the first of two waiting accepts is dropped; the connection that arrives goes to
the second. Another is buffered. -/
def cancelledRun : List (Action Nat) :=
  [.accept "a" [], .accept "a" [], .dropReceiver 0, .deliver 1 5 [], .deliver 11 6 [],
    .complete 1, .dropGuard 0, .accept "b" []]

theorem cancelled_waiter_passed_over :
    ∃ endpoint, Runs mailbox endpoint ∧ endpoint.returned = [("a", 1), ("b", 11)] ∧
      endpoint.served = [("a", 1)] ∧ (endpoint.returned.map Prod.snd).Nodup := by
  have followed : (replay (fun before => Endpoint.step mailbox before) (fun _ _ => True)
      Endpoint.new cancelledRun).map (fun endpoint => (endpoint.returned, endpoint.served)) =
        some ([("a", 1), ("b", 11)], [("a", 1)]) := by decide
  obtain ⟨endpoint, ends, same⟩ := Option.map_eq_some_iff.mp followed
  have run : Runs mailbox endpoint := reaches_of_replay .start ends
  exact ⟨endpoint, run, congrArg Prod.fst same, congrArg Prod.snd same,
    (connections_routed_once run).2.1⟩

end

end Stitch.Transport.AcceptRouting
