import Stitch.Transport.UnsignedTail

/-!
# Refreshing an allocation

The loop of `run_maintenance` over whole runs in which every request is answered at once. The
sleep before a refresh is half the lifetime, but never under a minute.
-/

namespace Stitch.Transport.RelayMaintenance

open Foundation.ByteLayout Foundation.PaddedRecords TurnMessage TurnCodec TurnFrames TurnIntegrity
open TurnClient UnsignedTail

/-- The maintenance task between two rounds, with the seconds since the allocation. -/
structure Relay where
  inner : TurnInner
  lifetime : UInt32
  now : Nat

section

variable (library : Primitives) (exchanges : Nat → RoundExchanges) (start : Relay)

/-- The task after a number of rounds, when the requests take no time. -/
def maintain : Nat → Relay
  | 0 => start
  | round + 1 =>
    let relay := maintain round
    let next := maintenanceRound library relay.lifetime (exchanges round) relay.inner
    ⟨next.1, next.2, relay.now + refreshPeriod relay.lifetime⟩

def refreshSent (round : Nat) : Nat :=
  (maintain library exchanges start round).now +
    refreshPeriod (maintain library exchanges start round).lifetime

def refreshAnswer (round : Nat) : Except ClientError Message :=
  (requestAuthed library (maintain library exchanges start round).inner methodRefresh
    [.lifetime (maintain library exchanges start round).lifetime]
    (exchanges round).refreshFirst (exchanges round).refreshSecond).2

/-- Every refresh is answered with a success that names a lifetime. -/
def Answered (grants : Nat → UInt32) : Prop :=
  ∀ round, ∃ response, refreshAnswer library exchanges start round = .ok response ∧
    response.lifetime = some (grants round)

/-- The lifetime in force at a round: that of the allocation, or of the last answer. -/
def inForce (initial : UInt32) (grants : Nat → UInt32) : Nat → UInt32
  | 0 => initial
  | round + 1 => grants round

theorem maintenance_round_lifetime (lifetime : UInt32) (round : RoundExchanges)
    (inner : TurnInner) :
    (maintenanceRound library lifetime round inner).2 =
      grantedLifetime lifetime (requestAuthed library inner methodRefresh [.lifetime lifetime]
        round.refreshFirst round.refreshSecond).2 := by
  unfold maintenanceRound
  dsimp only
  cases (requestAuthed library inner methodRefresh [.lifetime lifetime]
      round.refreshFirst round.refreshSecond).1.bound with
  | none | some peer => rfl

variable {library exchanges start} {grants : Nat → UInt32}

theorem maintain_lifetime (answered : Answered library exchanges start grants) (round : Nat) :
    (maintain library exchanges start round).lifetime =
      inForce start.lifetime grants round := by
  cases round with
  | zero => rfl
  | succ round =>
    obtain ⟨response, answer, granted⟩ := answered round
    rw [maintain]
    rw [maintenance_round_lifetime]
    unfold refreshAnswer at answer
    rw [answer, grantedLifetime, granted]
    rfl

end

theorem refresh_period_lt_iff (lifetime : UInt32) :
    refreshPeriod lifetime < lifetime.toNat ↔ 60 < lifetime.toNat := by
  unfold refreshPeriod channelRefresh
  omega

section

variable {library : Primitives} {exchanges : Nat → RoundExchanges} {start : Relay}
  {grants : Nat → UInt32}

/-- Every refresh goes out before the lifetime in force has run out exactly if all lifetimes in
force are longer than a minute. -/
theorem refresh_in_time_iff (answered : Answered library exchanges start grants) :
    (∀ round, refreshSent library exchanges start round <
        (maintain library exchanges start round).now +
          (inForce start.lifetime grants round).toNat) ↔
      ∀ round, 60 < inForce start.lifetime grants round := by
  have pointwise : ∀ round, refreshSent library exchanges start round <
      (maintain library exchanges start round).now +
        (inForce start.lifetime grants round).toNat ↔
          60 < inForce start.lifetime grants round := by
    intro round
    rw [refreshSent, maintain_lifetime answered, Nat.add_lt_add_iff_left, refresh_period_lt_iff]
    change (60 : UInt32).toNat < _ ↔ _
    exact UInt32.lt_iff_toNat_lt.symm
  exact forall_congr' pointwise

end

section

def refreshGrant (lifetime : UInt32) : Message :=
  ⟨methodRefresh, .success, Block.copy 12 [7], [.lifetime lifetime]⟩

def grantingExchange (key : List UInt8) (lifetime : UInt32) : Exchange :=
  ⟨Block.copy 12 [7],
    fun _ => ⟨none, [signedFrame sampleLibrary (refreshGrant lifetime) key []]⟩⟩

def grantingRounds (lifetime : UInt32) (_round : Nat) : RoundExchanges :=
  let exchange := grantingExchange waitingClient.key.bytes lifetime
  ⟨exchange, exchange, exchange, exchange⟩

def freshRelay (lifetime : UInt32) : Relay :=
  ⟨{ waitingClient with pending := none }, lifetime, 0⟩

theorem granting_exchange_answers (inner : TurnInner) (lifetime current : UInt32) :
    ∃ after, requestAuthed sampleLibrary inner methodRefresh [.lifetime current]
        (grantingExchange inner.key.bytes lifetime) (grantingExchange inner.key.bytes lifetime) =
          (after, .ok (withTail sampleLibrary (refreshGrant lifetime) inner.key.bytes [])) := by
  have fits : ((signedRecords sampleLibrary (refreshGrant lifetime) inner.key.bytes
      []).flatMap RawRecord.bytes).length < 65536 := by
    simp [signedRecords, ownRecords, refreshGrant, record_bytes_length, width, padding,
      (signedMac sampleLibrary _ _).size, rawAttribute]
  have carried : ∀ attr ∈ (refreshGrant lifetime).attributes, Attribute.Carried attr := by
    intro attr member
    rw [List.mem_singleton.mp member]
    trivial
  have others : ∀ attr ∈ (refreshGrant lifetime).attributes,
      (∀ mac, attr ≠ .messageIntegrity mac) ∧
        ∀ value, attr ≠ .unknown attrMessageIntegrity value := by
    intro attr member
    rw [List.mem_singleton.mp member]
    constructor <;> intro _ equal <;> cases equal
  have method : (refreshGrant lifetime).method < 0x1000 := show methodRefresh < 0x1000 by decide
  have delivered := @demux_signed_frame sampleLibrary
    { inner with
      pending := some ⟨Block.copy 12 [7], true⟩
      sent := inner.sent ++ [encode sampleLibrary (authedRequest inner methodRefresh
        [.lifetime current] (Block.copy 12 [7])) (some inner.key.bytes) false] }
    (refreshGrant lifetime) [] rfl method others carried (List.forall_mem_nil _) fits
  exact ⟨_, request_authed_answered sampleLibrary rfl delivered rfl⟩

theorem granting_rounds_answered (initial lifetime : UInt32) :
    Answered sampleLibrary (grantingRounds lifetime) (freshRelay initial) (fun _ => lifetime) := by
  intro round
  let relay := maintain sampleLibrary (grantingRounds lifetime) (freshRelay initial) round
  obtain ⟨after, answered⟩ := granting_exchange_answers relay.inner lifetime relay.lifetime
  exact ⟨_, congrArg Prod.snd answered, rfl⟩

/-- An allocation granted for a minute at a time lapses before its first refresh. -/
theorem refresh_too_late :
    ¬ ∀ (library : Primitives) (exchanges : Nat → RoundExchanges) (start : Relay)
      (grants : Nat → UInt32), 1 ≤ start.lifetime → (∀ round, 1 ≤ grants round) →
      Answered library exchanges start grants →
      ∀ round, refreshSent library exchanges start round <
        (maintain library exchanges start round).now +
          (inForce start.lifetime grants round).toNat := by
  intro claimed
  have early := claimed sampleLibrary (grantingRounds 60) (freshRelay 60) (fun _ => 60)
    (by decide) (fun _ => by decide) (granting_rounds_answered 60 60) 0
  exact absurd early (show ¬ 0 + refreshPeriod 60 < 0 + (60 : UInt32).toNat by decide)

theorem refresh_in_time_ten_minutes :
    Answered sampleLibrary (grantingRounds 600) (freshRelay 600) (fun _ => 600) ∧
      ∀ round, refreshSent sampleLibrary (grantingRounds 600) (freshRelay 600) round <
        (maintain sampleLibrary (grantingRounds 600) (freshRelay 600) round).now +
          (inForce 600 (fun _ => 600) round).toNat := by
  have answered := granting_rounds_answered 600 600
  refine ⟨answered, (refresh_in_time_iff answered).mpr ?_⟩
  intro round
  cases round with
  | zero => exact show (60 : UInt32) < 600 by decide
  | succ round => exact show (60 : UInt32) < 600 by decide

end

end Stitch.Transport.RelayMaintenance
