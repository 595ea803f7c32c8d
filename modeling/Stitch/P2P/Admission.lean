import Stitch.P2P.MessageFormat

/-!
# Admission of a connected peer

Transcription of `admitted` and `proof_exchange` of `discovery.rs`. Each side writes a `want` byte
on a stream of its own and its membership proof behind it when the other side asks. The gate does
not change during an exchange.
-/

namespace Stitch.P2P.Admission

open HybridClock WireFormat MessageFormat

structure MemberGate where
  admits : PeerId → Bool
  localProof : List WriteFrame
  admitsWithProof : PeerId → List WriteFrame → Bool

def gateAdmits : Option MemberGate → Option PeerId → Bool
  | none, _ => true
  | some gate, some key => gate.admits key
  | some _, none => false

/-- `proofOk` is what the exchange returns, on a gated connection with a verified key. -/
def admitted (gate : Option MemberGate) (key : Option PeerId) (proofOk : Bool) : Bool :=
  match gate, key with
  | none, _ => true
  | some _, none => false
  | some _, some _ => gateAdmits gate key || proofOk

/-- Where an exchange stands. -/
inductive Stage where
  | asking
  | reading
  | serving (peerWants : Bool)
  | deciding
  | returned (proofOk : Bool)

/-- `out` is what the side has written. -/
structure Side where
  stage : Stage
  out : List UInt8

def Side.start : Side := ⟨.asking, []⟩

def Side.giveUp (side : Side) : Side := { side with stage := .returned false }

def writeWant (want : Bool) : List UInt8 := [if want then 1 else 0]

/-- The next step of `proof_exchange`, when `inbound` has arrived. There is none while the
exchange waits, nor after a panic. -/
def proofExchange (gate : MemberGate) (key : PeerId) (inbound : List UInt8) (inboundEnded : Bool)
    (side : Side) : Option Side :=
  match side.stage, inbound with
  | .asking, _ => some ⟨.reading, writeWant !gate.admits key⟩
  | .reading, [] => if inboundEnded then some side.giveUp else none
  | .reading, want :: _ => some { side with stage := .serving (want != 0) }
  | .serving peerWants, _ =>
    match if peerWants then writeMessage [] (.delta gate.localProof) else .ok [] with
    | .error (.expectFailed _) => none
    | .error (.returned _) => some side.giveUp
    | .ok bytes =>
      some ⟨if gate.admits key then .returned false else .deciding, side.out ++ bytes⟩
  | .deciding, _ =>
    match readMessage inbound.tail with
    | .ok (.delta frames, _) =>
      some { side with stage := .returned (gate.admitsWithProof key frames) }
    | .ok (.hello _ _, _) => some side.giveUp
    | .error (.io _) => if inboundEnded then some side.giveUp else none
    | .error _ => some side.giveUp
  | .returned _, _ => none

section

variable {gate : MemberGate} {key : PeerId}

/-- The exchanges of a side with a peer that sends any bytes. `PROOF_WAIT` may run out at any
moment, also in the middle of a write. -/
inductive Exchanges (gate : MemberGate) (key : PeerId) : Side → List UInt8 → Prop where
  | start : Exchanges gate key .start []
  | arrive {side : Side} {inbound : List UInt8} (prior : Exchanges gate key side inbound)
      (more : List UInt8) : Exchanges gate key side (inbound ++ more)
  | move {side next : Side} {inbound : List UInt8} (prior : Exchanges gate key side inbound)
      (inboundEnded : Bool)
      (moved : proofExchange gate key inbound inboundEnded side = some next) :
      Exchanges gate key next inbound
  | timeout {side : Side} {inbound out : List UInt8} (prior : Exchanges gate key side inbound)
      (pending : ∀ proofOk, side.stage ≠ .returned proofOk)
      (written : out = side.out ∨ ∃ inboundEnded next,
        proofExchange gate key inbound inboundEnded side = some next ∧ out <+: next.out) :
      Exchanges gate key ⟨.returned false, out⟩ inbound

def Asked (inbound : List UInt8) : Prop :=
  ∃ want rest, inbound = want :: rest ∧ want ≠ 0

/-- A list of frames that the gate accepts has arrived. -/
def Presented (gate : MemberGate) (key : PeerId) (inbound : List UInt8) : Prop :=
  ∃ seen frames left, seen <+: inbound ∧ readMessage seen.tail = .ok (.delta frames, left) ∧
    gate.admitsWithProof key frames = true

/-- What holds of a side in every exchange. -/
structure Guarded (gate : MemberGate) (key : PeerId) (side : Side) (inbound : List UInt8) :
    Prop where
  disclosed : 1 < side.out.length → Asked inbound
  serving : side.stage = .serving true → Asked inbound
  accepted : side.stage = .returned true → Presented gate key inbound

variable {side next : Side} {inbound : List UInt8} {inboundEnded : Bool}

theorem move_guarded (guarded : Guarded gate key side inbound)
    (moved : proofExchange gate key inbound inboundEnded side = some next) :
    Guarded gate key next inbound := by
  obtain ⟨stage, out⟩ := side
  have gaveUp : some (Side.giveUp ⟨stage, out⟩) = some next → Guarded gate key next inbound := by
    intro same
    obtain rfl := Option.some.inj same
    exact ⟨guarded.disclosed, nofun, nofun⟩
  cases stage with
  | asking =>
    obtain rfl := Option.some.inj moved
    exact ⟨fun long => absurd long (Nat.lt_irrefl 1), nofun, nofun⟩
  | reading =>
    cases inbound with
    | nil => exact gaveUp (Option.ite_none_right_eq_some.mp moved).2
    | cons want rest =>
      obtain rfl := Option.some.inj moved
      refine ⟨guarded.disclosed, ?_, nofun⟩
      intro serving
      injection serving with wanted
      exact ⟨want, rest, rfl, bne_iff_ne.mp wanted⟩
  | serving peerWants =>
    simp only [proofExchange] at moved
    split at moved
    · cases moved
    · exact gaveUp moved
    · rename_i bytes served
      obtain rfl := Option.some.inj moved
      refine ⟨?_, by split_ifs <;> nofun, by split_ifs <;> nofun⟩
      cases peerWants with
      | true => exact fun _ => guarded.serving rfl
      | false =>
        obtain rfl := Except.ok.inj served
        rw [List.append_nil]
        exact guarded.disclosed
  | deciding =>
    simp only [proofExchange] at moved
    split at moved
    · rename_i frames left read
      obtain rfl := Option.some.inj moved
      refine ⟨guarded.disclosed, nofun, ?_⟩
      intro returned
      injection returned with accepted
      exact ⟨inbound, frames, left, List.prefix_rfl, read, accepted⟩
    · exact gaveUp moved
    · exact gaveUp (Option.ite_none_right_eq_some.mp moved).2
    · exact gaveUp moved
  | returned proofOk => cases moved

theorem asked_append (asked : Asked inbound) (more : List UInt8) : Asked (inbound ++ more) := by
  obtain ⟨want, rest, rfl, set⟩ := asked
  exact ⟨want, rest ++ more, rfl, set⟩

theorem exchanges_guarded (run : Exchanges gate key side inbound) :
    Guarded gate key side inbound := by
  induction run with
  | start => exact ⟨nofun, nofun, nofun⟩
  | arrive prior more ih =>
    refine ⟨fun long => asked_append (ih.disclosed long) more,
      fun serving => asked_append (ih.serving serving) more, ?_⟩
    intro returned
    obtain ⟨seen, frames, left, early, read⟩ := ih.accepted returned
    exact ⟨seen, frames, left, early.trans (List.prefix_append _ _), read⟩
  | move prior _ moved ih => exact move_guarded ih moved
  | timeout prior pending written ih =>
    refine ⟨?_, nofun, nofun⟩
    rcases written with rfl | ⟨_, next, moved, cut⟩
    · exact ih.disclosed
    · intro long
      exact (move_guarded ih moved).disclosed (long.trans_le cut.length_le)

/-- Whatever a peer sends, and whenever the time runs out: a side writes more than its `want` byte
only to a peer that asked, and admits the peer only as a local member or on a proof it received. -/
theorem proof_given_on_request (run : Exchanges gate key side inbound) :
    (1 < side.out.length → Asked inbound) ∧
      ∀ proofOk, side.stage = .returned proofOk → admitted (some gate) (some key) proofOk = true →
        gate.admits key = true ∨ Presented gate key inbound := by
  have guarded := exchanges_guarded run
  refine ⟨guarded.disclosed, ?_⟩
  intro proofOk returned joined
  rcases Bool.or_eq_true_iff.mp joined with known | proved
  · exact Or.inl known
  · exact Or.inr (guarded.accepted (by rw [returned, proved]))

def emptyDelta : List UInt8 := [1, 0, 0, 0, 4, 0, 0, 0, 0]

/-- A gate that knows nobody and accepts every proof. -/
def openGate : MemberGate := ⟨fun _ => false, [], fun _ _ => true⟩

theorem accepted_proof_presented :
    Asked (1 :: emptyDelta) ∧ (openGate.admits (peerNumber 2) = true ∨
      Presented openGate (peerNumber 2) (1 :: emptyDelta)) := by
  have run : Exchanges openGate (peerNumber 2) ⟨.returned true, 1 :: emptyDelta⟩
      (1 :: emptyDelta) := by
    have asked : Exchanges openGate (peerNumber 2) ⟨.reading, [1]⟩ [] :=
      .move .start false rfl
    have heard : Exchanges openGate (peerNumber 2) ⟨.serving true, [1]⟩ (1 :: emptyDelta) :=
      .move (.arrive asked _) false rfl
    have served : Exchanges openGate (peerNumber 2) ⟨.deciding, 1 :: emptyDelta⟩
        (1 :: emptyDelta) := .move heard false rfl
    have read : readMessage emptyDelta = .ok (.delta [], []) := by decide
    exact .move served false (by simp only [proofExchange, List.tail_cons, read, openGate])
  have given := proof_given_on_request run
  exact ⟨given.1 (by decide), given.2 true rfl rfl⟩

end

end Stitch.P2P.Admission
