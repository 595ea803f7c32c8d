import Stitch.Transport.InboundRouting

/-!
# Queues of waiting accepts

An accept that waits is queued under its fingerprint until its channel is used or the endpoint
closes. The receiver of a queued waiter may be gone already. Ids are given in order, so accepts of
one fingerprint are served in order of their ids.
-/

namespace Stitch.Transport.WaiterQueues

open Foundation.FiniteMap Foundation.QueueMap InboundRouting

variable {Conn : Type}

section

variable {waits : HashMap Nat (Wait Conn)} {waiters : HashMap String (List Nat)}
  {nextId id : Nat} {closed : Bool} {fingerprint : String} {wait : Wait Conn}

def Waiting (waits : HashMap Nat (Wait Conn)) (fingerprint : String) (id : Nat) : Prop :=
  waits.lookup id = some ⟨fingerprint, .waiting⟩

/-- Queued waiters are known and in order of their ids, and while the endpoint is open
every accept that still waits is queued. -/
structure Queued (waits : HashMap Nat (Wait Conn)) (waiters : HashMap String (List Nat))
    (nextId : Nat) (closed : Bool) : Prop where
  tidy : Tidy waiters
  increasing : ∀ fingerprint queue, waiters.lookup fingerprint = some queue →
    queue.Pairwise (· < ·)
  known : ∀ fingerprint queue, waiters.lookup fingerprint = some queue →
    ∀ id ∈ queue, ∃ channel, waits.lookup id = some ⟨fingerprint, channel⟩
  numbered : ∀ id wait, waits.lookup id = some wait → id < nextId
  listed : closed = false → ∀ fingerprint id, Waiting waits fingerprint id →
    ∃ queue, waiters.lookup fingerprint = some queue ∧ id ∈ queue

variable {channel : Channel Conn}

theorem lookup_set_channel (other : Nat) :
    (waits.insert id { wait with channel := channel }).lookup other =
      if other = id then some { wait with channel := channel } else waits.lookup other := by
  by_cases here : other = id
  · rw [if_pos here, here, Finmap.lookup_insert]
  · rw [if_neg here, Finmap.lookup_insert_of_ne _ here]

theorem waiting_set_channel (wait : Wait Conn) (used : channel ≠ .waiting) {other : Nat}
    (waiting : Waiting (waits.insert id { wait with channel := channel }) fingerprint other) :
    other ≠ id ∧ Waiting waits fingerprint other := by
  unfold Waiting at waiting
  rw [lookup_set_channel] at waiting
  by_cases here : other = id
  · rw [if_pos here] at waiting
    exact absurd (congrArg Wait.channel (Option.some.inj waiting)) used
  · rw [if_neg here] at waiting
    exact ⟨here, waiting⟩

theorem queued_set_channel (used : channel ≠ .waiting) (queued : Queued waits waiters nextId closed)
    (found : waits.lookup id = some wait) :
    Queued (waits.insert id { wait with channel := channel }) waiters nextId closed where
  tidy := queued.tidy
  increasing := queued.increasing
  known := by
    intro fingerprint queue held other member
    obtain ⟨before, isKnown⟩ := queued.known fingerprint queue held other member
    rw [lookup_set_channel]
    by_cases here : other = id
    · rw [here, found] at isKnown
      rw [if_pos here, Option.some.inj isKnown]
      exact ⟨channel, rfl⟩
    · rw [if_neg here]
      exact ⟨before, isKnown⟩
  numbered := by
    intro other held isHeld
    rw [lookup_set_channel] at isHeld
    by_cases here : other = id
    · rw [here]
      exact queued.numbered id wait found
    · rw [if_neg here] at isHeld
      exact queued.numbered other held isHeld
  listed := by
    intro isOpen fingerprint other waiting
    exact queued.listed isOpen fingerprint other (waiting_set_channel wait used waiting).2

theorem queued_cut {queue rest : List Nat} (queued : Queued waits waiters nextId closed)
    (found : waiters.lookup fingerprint = some queue) (part : rest.Sublist queue)
    (gone : ∀ id ∈ queue, id ∉ rest → ¬ Waiting waits fingerprint id) :
    Queued waits (storeQueue waiters fingerprint rest) nextId closed := by
  refine ⟨tidy_store queued.tidy fingerprint rest, ?_, ?_, queued.numbered, ?_⟩
  · intro other held isHeld
    obtain ⟨whole, before, sub⟩ := store_sublist found part isHeld
    exact (queued.increasing other whole before).sublist sub
  · intro other held isHeld id member
    obtain ⟨whole, before, sub⟩ := store_sublist found part isHeld
    exact queued.known other whole before id (sub.subset member)
  · intro isOpen other id waiting
    obtain ⟨whole, before, member⟩ := queued.listed isOpen other id waiting
    by_cases here : other = fingerprint
    · rw [here] at before waiting ⊢
      rw [found] at before
      cases before
      have kept : id ∈ rest := by
        by_contra removed
        exact gone id member removed waiting
      refine ⟨rest, ?_, kept⟩
      rw [lookup_store_self, if_neg]
      intro empty
      rw [List.isEmpty_iff.mp empty] at kept
      cases kept
    · rw [lookup_store_other _ _ here]
      exact ⟨whole, before, member⟩

theorem queued_register (queued : Queued waits waiters nextId closed) (fingerprint : String) :
    Queued (waits.insert nextId ⟨fingerprint, .waiting⟩)
      (waiters.insert fingerprint (getOr waiters fingerprint [] ++ [nextId])) (nextId + 1)
      closed := by
  have fresh : ∀ other wait, waits.lookup other = some wait → other ≠ nextId := by
    intro other wait held same
    rw [same] at held
    exact Nat.lt_irrefl nextId (queued.numbered nextId wait held)
  refine ⟨tidy_push_back queued.tidy fingerprint nextId, ?_, ?_, ?_, ?_⟩
  · intro other queue held
    apply pairwise_push_back queued.increasing _ held
    intro before found id member
    obtain ⟨channel, isKnown⟩ := queued.known fingerprint before found id member
    exact queued.numbered id _ isKnown
  · intro other queue held id member
    rcases mem_push_back held member with ⟨here, newest⟩ | ⟨before, found, old⟩
    · rw [here, newest, Finmap.lookup_insert]
      exact ⟨.waiting, rfl⟩
    · obtain ⟨channel, isKnown⟩ := queued.known other before found id old
      rw [Finmap.lookup_insert_of_ne _ (fresh id _ isKnown)]
      exact ⟨channel, isKnown⟩
  · intro id wait held
    by_cases here : id = nextId
    · rw [here]
      exact Nat.lt_succ_self nextId
    · rw [Finmap.lookup_insert_of_ne _ here] at held
      exact Nat.lt_succ_of_lt (queued.numbered id wait held)
  · intro isOpen other id waiting
    unfold Waiting at waiting
    by_cases here : id = nextId
    · rw [here, Finmap.lookup_insert] at waiting
      cases waiting
      rw [here, Finmap.lookup_insert]
      exact ⟨_, rfl, List.mem_append_right _ (List.mem_singleton_self _)⟩
    · rw [Finmap.lookup_insert_of_ne _ here] at waiting
      obtain ⟨queue, held, member⟩ := queued.listed isOpen other id waiting
      by_cases same : other = fingerprint
      · rw [same] at held ⊢
        rw [Finmap.lookup_insert, getOr_of_lookup held]
        exact ⟨_, rfl, List.mem_append_left _ member⟩
      · rw [Finmap.lookup_insert_of_ne _ same]
        exact ⟨queue, held, member⟩

theorem queued_empty (numbered : ∀ id wait, waits.lookup id = some wait → id < nextId)
    (idle : closed = false → ∀ fingerprint id, ¬ Waiting waits fingerprint id) :
    Queued waits ∅ nextId closed where
  tidy := by
    intro fingerprint queue held
    cases held
  increasing := by
    intro fingerprint queue held
    cases held
  known := by
    intro fingerprint queue held
    cases held
  numbered := numbered
  listed := fun isOpen fingerprint id waiting => absurd waiting (idle isOpen fingerprint id)

variable {served : List (String × Nat)}

/-- Accepts of one fingerprint were served in order of their ids, before all that still wait. -/
structure InTurn (waits : HashMap Nat (Wait Conn)) (nextId : Nat)
    (served : List (String × Nat)) : Prop where
  ordered : served.Pairwise fun first second => first.1 = second.1 → first.2 < second.2
  ahead : ∀ fingerprint id, (fingerprint, id) ∈ served →
    ∀ other, Waiting waits fingerprint other → id < other
  numbered : ∀ fingerprint id, (fingerprint, id) ∈ served → id < nextId

theorem in_turn_set_channel (wait : Wait Conn) {channel : Channel Conn}
    (used : channel ≠ .waiting) (turns : InTurn waits nextId served) :
    InTurn (waits.insert id { wait with channel := channel }) nextId served where
  ordered := turns.ordered
  ahead := by
    intro fingerprint earlier listed other waiting
    exact turns.ahead fingerprint earlier listed other (waiting_set_channel wait used waiting).2
  numbered := turns.numbered

theorem in_turn_serve {conn : Conn} (turns : InTurn waits nextId served)
    (waiting : Waiting waits fingerprint id) (below : id < nextId)
    (first : ∀ other, Waiting waits fingerprint other → other ≠ id → id < other) :
    InTurn (waits.insert id ⟨fingerprint, .sent conn⟩) nextId
      (served ++ [(fingerprint, id)]) := by
  have kept : InTurn (waits.insert id ⟨fingerprint, .sent conn⟩) nextId served :=
    in_turn_set_channel ⟨fingerprint, .waiting⟩ (by simp) turns
  refine ⟨?_, ?_, ?_⟩
  · refine List.pairwise_append.mpr ⟨turns.ordered, List.pairwise_singleton _ _, ?_⟩
    intro earlier listed last isLast same
    rw [List.mem_singleton.mp isLast] at same ⊢
    have label : earlier.1 = fingerprint := same
    apply turns.ahead fingerprint earlier.2 _ id waiting
    rw [← label]
    exact listed
  · intro other earlier listed later stillWaits
    rcases List.mem_append.mp listed with old | last
    · exact kept.ahead other earlier old later stillWaits
    · cases List.mem_singleton.mp last
      have before : later ≠ id ∧ Waiting waits fingerprint later :=
        waiting_set_channel ⟨fingerprint, .waiting⟩ (by simp) stillWaits
      exact first later before.2 before.1
  · intro other earlier listed
    rcases List.mem_append.mp listed with old | last
    · exact turns.numbered other earlier old
    · cases List.mem_singleton.mp last
      exact below

theorem in_turn_register (turns : InTurn waits nextId served) (fingerprint : String) :
    InTurn (waits.insert nextId ⟨fingerprint, .waiting⟩) (nextId + 1) served where
  ordered := turns.ordered
  ahead := by
    intro other earlier listed later waiting
    by_cases here : later = nextId
    · rw [here]
      exact turns.numbered other earlier listed
    · unfold Waiting at waiting
      rw [Finmap.lookup_insert_of_ne _ here] at waiting
      exact turns.ahead other earlier listed later waiting
  numbered := by
    intro other earlier listed
    exact Nat.lt_succ_of_lt (turns.numbered other earlier listed)

end

end Stitch.Transport.WaiterQueues
