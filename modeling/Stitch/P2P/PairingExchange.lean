import Stitch.Foundation.ByteLayout
import Stitch.Foundation.FiniteMap
import Stitch.P2P.HybridClock

/-!
# Pairing of an owner with a new device

Transcription of `pairing.rs`, with owners and devices over a network that an attacker
controls. The primitives are ideal: a SPAKE2 secret is the record of what it was computed from,
a confirmation key is a secret with its label, and a tag is a key with the text it
authenticates. `isElement` stands for the decoding of a group element.
-/

namespace Stitch.P2P.PairingExchange

open Foundation.ByteLayout Foundation.FiniteMap HybridClock

def domain : List UInt8 := utf8Bytes "stitch-p2p/pairing/v1"
def confirmOwner : List UInt8 := utf8Bytes "confirm:owner"
def confirmDevice : List UInt8 := utf8Bytes "confirm:device"
def codeDigits : Nat := 6
def codeModulus : Nat := 1000000
def codeRejectAt : Nat := 4294000000
def offerTtlMs : Nat := 300000
def confirmKeyLen : Nat := 32
def u64Max : Nat := 2 ^ 64 - 1

inductive PairingError where
  | expired
  | confirmationFailed
  | malformed
  | invalidCode
  | internal
  deriving DecidableEq

section

def isAsciiDigit (byte : UInt8) : Bool := 48 ≤ byte.toNat && byte.toNat ≤ 57

/-- Codes are six decimal digits, whether generated or entered. -/
@[ext] structure PairingCode where
  bytes : List UInt8
  size : bytes.length = codeDigits
  decimal : bytes.all isAsciiDigit = true
  deriving DecidableEq

/-- The number in decimal, with zeros in front up to six digits. -/
def PairingCode.ofValue (value : Nat) : PairingCode where
  bytes := [100000, 10000, 1000, 100, 10, 1].map fun unit => UInt8.ofNat (48 + value / unit % 10)
  size := rfl
  decimal := by
    rw [List.all_map, List.all_eq_true]
    intro unit _
    have digit : value / unit % 10 < 10 := Nat.mod_lt _ (by decide)
    have byte : (UInt8.ofNat (48 + value / unit % 10)).toNat = 48 + value / unit % 10 := by
      rw [UInt8.toNat_ofNat']
      omega
    simp only [Function.comp_apply, isAsciiDigit, byte, Bool.and_eq_true, decide_eq_true_eq]
    omega

/-- Draws until one is below the largest multiple of a million. -/
def PairingCode.generate : List Nat → Option PairingCode
  | [] => none
  | candidate :: rest =>
    if candidate < codeRejectAt then some (.ofValue (candidate % codeModulus))
    else generate rest

def PairingCode.parse (input : List UInt8) : Except PairingError PairingCode :=
  if accepted : input.length = codeDigits ∧ input.all isAsciiDigit = true then
    .ok ⟨input, accepted.1, accepted.2⟩
  else .error .invalidCode

@[ext] structure Secret where
  password : List UInt8
  idA : List UInt8
  idB : List UInt8
  elementA : List UInt8
  elementB : List UInt8
  deriving DecidableEq

structure ConfirmKey where
  secret : Secret
  label : List UInt8
  deriving DecidableEq

structure Tag where
  key : ConfirmKey
  transcript : List UInt8
  deriving DecidableEq

inductive PairingMessage where
  | bytes (raw : List UInt8)
  | tag (made : Tag)
  deriving DecidableEq

inductive Side where
  | a
  | b
  deriving DecidableEq

def Side.byte : Side → UInt8
  | .a => 0x41
  | .b => 0x42

def Side.other : Side → Side
  | .a => .b
  | .b => .a

def elementLen : Nat := 32

structure Element (isElement : List UInt8 → Bool) where
  bytes : List UInt8
  size : bytes.length = elementLen
  valid : isElement bytes = true

variable {isElement : List UInt8 → Bool}

structure Spake2 (isElement : List UInt8 → Bool) where
  side : Side
  password : List UInt8
  idA : List UInt8
  idB : List UInt8
  element : Element isElement

def Spake2.message (state : Spake2 isElement) : List UInt8 :=
  state.side.byte :: state.element.bytes

def Spake2.startA (password idA idB : List UInt8) (element : Element isElement) :
    Spake2 isElement × List UInt8 :=
  let state : Spake2 isElement := ⟨.a, password, idA, idB, element⟩
  (state, state.message)

def Spake2.startB (password idA idB : List UInt8) (element : Element isElement) :
    Spake2 isElement × List UInt8 :=
  let state : Spake2 isElement := ⟨.b, password, idA, idB, element⟩
  (state, state.message)

/-- The received message must be as long as ours, from the other side, and an element. -/
def Spake2.finish (state : Spake2 isElement) (received : List UInt8) : Option Secret :=
  match received with
  | [] => none
  | side :: theirs =>
    if theirs.length ≠ elementLen then none
    else if side ≠ state.side.other.byte then none
    else if isElement theirs then
      match state.side with
      | .a => some ⟨state.password, state.idA, state.idB, state.element.bytes, theirs⟩
      | .b => some ⟨state.password, state.idA, state.idB, theirs, state.element.bytes⟩
    else none

def transcript (ownerKey deviceKey : PeerId) (messageA messageB : List UInt8) : List UInt8 :=
  domain ++ ([ownerKey.bytes, deviceKey.bytes, messageA, messageB].map lengthPrefixed).flatten

/-- HKDF gives up to 255 blocks of SHA-256. -/
def expand (secret : Secret) (label : List UInt8) (length : Nat) :
    Except PairingError ConfirmKey :=
  if 255 * 32 < length then .error .internal else .ok ⟨secret, label⟩

def deriveConfirmKeys (secret : Secret) : Except PairingError (ConfirmKey × ConfirmKey) := do
  let keyOwner ← expand secret confirmOwner confirmKeyLen
  let keyDevice ← expand secret confirmDevice confirmKeyLen
  return (keyOwner, keyDevice)

/-- HMAC takes keys of every length. -/
def computeMac (key : ConfirmKey) (text : List UInt8) : Except PairingError Tag :=
  .ok ⟨key, text⟩

def verifyMac (key : ConfirmKey) (text : List UInt8) (received : PairingMessage) :
    Except PairingError Unit :=
  if received = .tag ⟨key, text⟩ then .ok () else .error .confirmationFailed

structure PairingOffer where
  code : PairingCode
  expiresAtMs : Nat

/-- `candidates` are the random numbers drawn for the code. -/
def PairingOffer.new (nowMs : Nat) (candidates : List Nat) : Option PairingOffer :=
  (PairingCode.generate candidates).map fun code =>
    { code := code, expiresAtMs := min (nowMs + offerTtlMs) u64Max }

structure OwnerConfirm where
  keyOwner : ConfirmKey
  keyDevice : ConfirmKey
  transcript : List UInt8
  deviceKey : PeerId

def PairingOffer.accept (offer : PairingOffer) (ownerKey deviceKey : PeerId)
    (deviceHello : PairingMessage) (nowMs : Nat) (element : Element isElement) :
    Except PairingError (OwnerConfirm × PairingMessage) :=
  if offer.expiresAtMs < nowMs then .error .expired
  else
    let (state, messageA) :=
      Spake2.startA offer.code.bytes ownerKey.bytes deviceKey.bytes element
    match deviceHello with
    -- A tag has 32 bytes, one less than a message of SPAKE2.
    | .tag _ => .error .malformed
    | .bytes hello =>
      match state.finish hello with
      | none => .error .malformed
      | some secret => do
        let (keyOwner, keyDevice) ← deriveConfirmKeys secret
        return (⟨keyOwner, keyDevice, transcript ownerKey deviceKey messageA hello, deviceKey⟩,
          .bytes messageA)

def OwnerConfirm.confirm (waiting : OwnerConfirm) (deviceConfirm : PairingMessage) :
    Except PairingError (PeerId × PairingMessage) := do
  verifyMac waiting.keyDevice waiting.transcript deviceConfirm
  let tag ← computeMac waiting.keyOwner waiting.transcript
  return (waiting.deviceKey, .tag tag)

structure PairingDevice (isElement : List UInt8 → Bool) where
  state : Spake2 isElement
  ownerKey : PeerId
  deviceKey : PeerId
  messageB : List UInt8

def PairingDevice.begin (deviceKey ownerKey : PeerId) (code : PairingCode)
    (element : Element isElement) : PairingDevice isElement × PairingMessage :=
  let (state, messageB) := Spake2.startB code.bytes ownerKey.bytes deviceKey.bytes element
  (⟨state, ownerKey, deviceKey, messageB⟩, .bytes messageB)

structure DeviceConfirm where
  keyOwner : ConfirmKey
  transcript : List UInt8
  ownerKey : PeerId

def PairingDevice.receive (device : PairingDevice isElement) (ownerReply : PairingMessage) :
    Except PairingError (DeviceConfirm × PairingMessage) :=
  match ownerReply with
  | .tag _ => .error .malformed
  | .bytes messageA =>
    match device.state.finish messageA with
    | none => .error .malformed
    | some secret => do
      let (keyOwner, keyDevice) ← deriveConfirmKeys secret
      let text := transcript device.ownerKey device.deviceKey messageA device.messageB
      let tag ← computeMac keyDevice text
      return (⟨keyOwner, text, device.ownerKey⟩, .tag tag)

def DeviceConfirm.finish (waiting : DeviceConfirm) (ownerConfirm : PairingMessage) :
    Except PairingError PeerId := do
  verifyMac waiting.keyOwner waiting.transcript ownerConfirm
  return waiting.ownerKey

/-- What a session ran on: its code, the two keys and the two SPAKE2 messages. -/
@[ext] structure Exchange where
  code : PairingCode
  ownerKey : PeerId
  deviceKey : PeerId
  messageA : PairingMessage
  messageB : PairingMessage
  deriving DecidableEq

inductive OwnerPhase where
  | offered (offer : PairingOffer)
  | confirming (waiting : OwnerConfirm)
  | confirmed (device : PeerId)
  | failed (error : PairingError)

structure OwnerSession where
  key : PeerId
  used : Option Exchange
  phase : OwnerPhase

inductive DevicePhase (isElement : List UInt8 → Bool) where
  | begun (waiting : PairingDevice isElement)
  | confirming (waiting : DeviceConfirm)
  | finished (owner : PeerId)
  | failed (error : PairingError)

structure DeviceSession (isElement : List UInt8 → Bool) where
  key : PeerId
  code : PairingCode
  used : Option Exchange
  phase : DevicePhase isElement

inductive Sender where
  | owner (id : Nat)
  | device (id : Nat)
  deriving DecidableEq

/-- All sessions, and every message one of them has sent. -/
structure World (isElement : List UInt8 → Bool) where
  owners : HashMap Nat OwnerSession
  devices : HashMap Nat (DeviceSession isElement)
  emitted : List (Sender × PairingMessage)

def World.empty : World isElement := ⟨∅, ∅, []⟩

inductive Action (isElement : List UInt8 → Bool) where
  | mint (id : Nat) (ownerKey : PeerId) (nowMs : Nat) (candidates : List Nat)
  | begin (id : Nat) (deviceKey ownerKey : PeerId) (code : PairingCode)
      (element : Element isElement)
  | accept (id : Nat) (deviceKey : PeerId) (deviceHello : PairingMessage) (nowMs : Nat)
      (element : Element isElement)
  | receive (id : Nat) (ownerReply : PairingMessage)
  | confirm (id : Nat) (deviceConfirm : PairingMessage)
  | finish (id : Nat) (ownerConfirm : PairingMessage)

def Action.delivered : Action isElement → Option PairingMessage
  | .mint _ _ _ _ => none
  | .begin _ _ _ _ _ => none
  | .accept _ _ deviceHello _ _ => some deviceHello
  | .receive _ ownerReply => some ownerReply
  | .confirm _ deviceConfirm => some deviceConfirm
  | .finish _ ownerConfirm => some ownerConfirm

namespace World

variable (world : World isElement)

def setOwner (id : Nat) (session : OwnerSession) : World isElement :=
  { world with owners := world.owners.insert id session }

def setDevice (id : Nat) (session : DeviceSession isElement) : World isElement :=
  { world with devices := world.devices.insert id session }

def emit (sender : Sender) (message : PairingMessage) : World isElement :=
  { world with emitted := (sender, message) :: world.emitted }

/-- The attacker delivers what any session has sent, to any session and any number of
times, and any bytes that are not a tag. -/
def Deliverable (message : PairingMessage) : Prop :=
  (∃ raw, message = .bytes raw) ∨ ∃ sender, (sender, message) ∈ world.emitted

def mint (id : Nat) (ownerKey : PeerId) (nowMs : Nat) (candidates : List Nat) :
    Option (World isElement) :=
  match world.owners.lookup id with
  | some _ => none
  | none => (PairingOffer.new nowMs candidates).map fun offer =>
    world.setOwner id ⟨ownerKey, none, .offered offer⟩

def begin (id : Nat) (deviceKey ownerKey : PeerId) (code : PairingCode)
    (element : Element isElement) : Option (World isElement) :=
  match world.devices.lookup id with
  | some _ => none
  | none =>
    let (waiting, hello) := PairingDevice.begin deviceKey ownerKey code element
    some ((world.setDevice id ⟨deviceKey, code, none, .begun waiting⟩).emit (.device id) hello)

/-- The offer is spent by the first attempt, whatever comes of it. -/
def accept (id : Nat) (deviceKey : PeerId) (deviceHello : PairingMessage) (nowMs : Nat)
    (element : Element isElement) : Option (World isElement) :=
  match world.owners.lookup id with
  | some ⟨key, used, .offered offer⟩ =>
    match offer.accept key deviceKey deviceHello nowMs element with
    | .error error => some (world.setOwner id ⟨key, used, .failed error⟩)
    | .ok (waiting, reply) =>
      let exchange : Exchange := ⟨offer.code, key, deviceKey, reply, deviceHello⟩
      some ((world.setOwner id ⟨key, some exchange, .confirming waiting⟩).emit
        (.owner id) reply)
  | _ => none

def receive (id : Nat) (ownerReply : PairingMessage) : Option (World isElement) :=
  match world.devices.lookup id with
  | some ⟨key, code, used, .begun waiting⟩ =>
    match waiting.receive ownerReply with
    | .error error => some (world.setDevice id ⟨key, code, used, .failed error⟩)
    | .ok (confirming, tag) =>
      let exchange : Exchange :=
        ⟨code, waiting.ownerKey, waiting.deviceKey, ownerReply, .bytes waiting.messageB⟩
      some ((world.setDevice id ⟨key, code, some exchange, .confirming confirming⟩).emit
        (.device id) tag)
  | _ => none

def confirm (id : Nat) (deviceConfirm : PairingMessage) : Option (World isElement) :=
  match world.owners.lookup id with
  | some ⟨key, used, .confirming waiting⟩ =>
    match waiting.confirm deviceConfirm with
    | .error error => some (world.setOwner id ⟨key, used, .failed error⟩)
    | .ok (device, tag) =>
      some ((world.setOwner id ⟨key, used, .confirmed device⟩).emit (.owner id) tag)
  | _ => none

def finish (id : Nat) (ownerConfirm : PairingMessage) : Option (World isElement) :=
  match world.devices.lookup id with
  | some ⟨key, code, used, .confirming waiting⟩ =>
    match waiting.finish ownerConfirm with
    | .error error => some (world.setDevice id ⟨key, code, used, .failed error⟩)
    | .ok owner => some (world.setDevice id ⟨key, code, used, .finished owner⟩)
  | _ => none

def step : Action isElement → Option (World isElement)
  | .mint id ownerKey nowMs candidates => world.mint id ownerKey nowMs candidates
  | .begin id deviceKey ownerKey code element => world.begin id deviceKey ownerKey code element
  | .accept id deviceKey deviceHello nowMs element =>
    world.accept id deviceKey deviceHello nowMs element
  | .receive id ownerReply => world.receive id ownerReply
  | .confirm id deviceConfirm => world.confirm id deviceConfirm
  | .finish id ownerConfirm => world.finish id ownerConfirm

end World

end

end Stitch.P2P.PairingExchange
