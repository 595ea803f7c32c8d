import Mathlib.Algebra.Group.Nat.Defs
import Mathlib.Data.Prod.Lex
import Mathlib.Data.List.Lex
import Mathlib.Order.Basic

/-!
# Hybrid logical clock

Transcription of `hlc.rs`. Peers are ordered byte by byte. The increment of `logical`, a `u32`,
wraps as it does without overflow checks; a build with overflow checks panics there instead.
-/

namespace Stitch.P2P.HybridClock

def peerIdLen : Nat := 32

@[ext] structure PeerId where
  bytes : List UInt8
  size : bytes.length = peerIdLen
  deriving DecidableEq

/-- Rust compares arrays lexicographically, by the numeric value of each byte. -/
instance : LinearOrder PeerId :=
  LinearOrder.lift' (fun peer => peer.bytes.map UInt8.toNat) (by
    intro left right same
    have bytes := List.map_injective_iff.mpr (fun _ _ => UInt8.toNat_inj.mp) same
    exact PeerId.ext bytes)

def peerNumber (byte : UInt8) : PeerId := ⟨byte :: List.replicate 31 0, rfl⟩

@[ext] structure Hlc where
  physical : Nat
  logical : Nat
  deriving DecidableEq

def Hlc.key (clock : Hlc) : Nat ×ₗ Nat := toLex (clock.physical, clock.logical)

instance : LinearOrder Hlc :=
  LinearOrder.lift' Hlc.key (by
    intro left right same
    have parts : (left.physical, left.logical) = (right.physical, right.logical) := same
    exact Hlc.ext (congrArg Prod.fst parts) (congrArg Prod.snd parts))

def u32Size : Nat := 2 ^ 32

/-- `Hlc::default()`. -/
def Hlc.zero : Hlc := ⟨0, 0⟩

def Hlc.tick (clock : Hlc) (wallMs : Nat) : Hlc :=
  let physical := max clock.physical wallMs
  { physical := physical
    logical :=
      if physical = clock.physical then (clock.logical + 1) % u32Size else 0 }

def Hlc.observe (clock remote : Hlc) (wallMs : Nat) : Hlc :=
  let physical := max (max clock.physical remote.physical) wallMs
  { physical := physical
    logical :=
      if physical = clock.physical ∧ physical = remote.physical then
        (max clock.logical remote.logical + 1) % u32Size
      else if physical = clock.physical then (clock.logical + 1) % u32Size
      else if physical = remote.physical then (remote.logical + 1) % u32Size
      else 0 }

theorem hlc_lt_iff (left right : Hlc) :
    left < right ↔
      left.physical < right.physical ∨
        left.physical = right.physical ∧ left.logical < right.logical :=
  Prod.Lex.toLex_lt_toLex

section

def Hlc.TickFits (clock : Hlc) (wallMs : Nat) : Prop :=
  max clock.physical wallMs = clock.physical → clock.logical + 1 < u32Size

def Hlc.ObserveFits (clock remote : Hlc) (wallMs : Nat) : Prop :=
  let physical := max (max clock.physical remote.physical) wallMs
  (physical = clock.physical → clock.logical + 1 < u32Size) ∧
    (physical = remote.physical → remote.logical + 1 < u32Size)

instance (clock : Hlc) (wallMs : Nat) : Decidable (clock.TickFits wallMs) :=
  inferInstanceAs (Decidable (_ → _))

instance (clock remote : Hlc) (wallMs : Nat) : Decidable (clock.ObserveFits remote wallMs) :=
  inferInstanceAs (Decidable ((_ → _) ∧ (_ → _)))

variable {clock : Hlc} {wallMs : Nat}

theorem lt_tick (fits : clock.TickFits wallMs) :
    clock < clock.tick wallMs := by
  rw [hlc_lt_iff]
  simp only [Hlc.tick]
  split_ifs with still
  · rw [Nat.mod_eq_of_lt (fits still)]
    omega
  · omega

theorem lt_observe {remote : Hlc} (fits : clock.ObserveFits remote wallMs) :
    clock < clock.observe remote wallMs ∧ remote < clock.observe remote wallMs := by
  obtain ⟨own, theirs⟩ := fits
  simp only [hlc_lt_iff, Hlc.observe]
  split_ifs with both ownOnly theirsOnly
  · rw [Nat.mod_eq_of_lt (by omega)]
    omega
  · rw [Nat.mod_eq_of_lt (own ownOnly)]
    omega
  · rw [Nat.mod_eq_of_lt (theirs theirsOnly)]
    omega
  · omega

end

@[ext] structure Stamp where
  hlc : Hlc
  peer : PeerId
  deriving DecidableEq

def Stamp.key (stamp : Stamp) : Hlc ×ₗ PeerId := toLex (stamp.hlc, stamp.peer)

/-- Stamps are ordered by clock and then by peer, as in `Stamp::cmp`. -/
instance : LinearOrder Stamp :=
  LinearOrder.lift' Stamp.key (by
    intro left right same
    have parts : (left.hlc, left.peer) = (right.hlc, right.peer) := same
    exact Stamp.ext (congrArg Prod.fst parts) (congrArg Prod.snd parts))

theorem stamp_lt_of_hlc_lt {left right : Stamp} (earlier : left.hlc < right.hlc) :
    left < right :=
  Prod.Lex.toLex_lt_toLex.mpr (Or.inl earlier)

end Stitch.P2P.HybridClock
