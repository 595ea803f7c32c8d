import Stitch.Transport.TurnIntegrity

/-!
# The TURN client

Transcription of `turn_client.rs`: where datagrams go, the transactions with their repeated
sends, the allocation and a round of the maintenance. The network gives one window per send, with
the datagrams that arrive in it.
-/

namespace Stitch.Transport.TurnClient

open Foundation.ByteLayout TurnMessage

def inboundCapacity : Nat := 1024

def maxAttempts : Nat := 7

def staleNonce : UInt16 := 438

def channelRefresh : Nat := 240

/-- `Error::Turn`. -/
inductive ClientError where
  | turn (reason : String)
  deriving DecidableEq

section

structure ChannelData where
  channel : UInt16
  data : List UInt8
  deriving DecidableEq

def ChannelData.encode (message : ChannelData) : List UInt8 :=
  beBytes 2 message.channel.toNat ++ beBytes 2 message.data.length ++ message.data

def ChannelData.decode (buf : List UInt8) : Except TurnError ChannelData :=
  if buf.length < 4 then .error (.turnParse "channel data shorter than header")
  else
    let channel := readU16 (slice buf 0 2)
    if ¬ (channelMin ≤ channel ∧ channel ≤ channelMax) then
      .error (.turnParse ("channel number " ++ hexPadded 6 channel.toNat ++ " out of range"))
    else
      let length := beValue (slice buf 2 4)
      if buf.length < 4 + length then .error (.turnParse "channel data length exceeds buffer")
      else .ok ⟨channel, slice buf 4 (4 + length)⟩

end

structure Pending where
  txn : TransactionId
  expectIntegrity : Bool
  deriving DecidableEq

/-- The shared state, with the queue of relayed data and the datagrams sent so far. -/
structure TurnInner where
  username : String
  realm : String
  nonce : String
  key : Block 16
  pending : Option Pending
  bound : Option (SocketAddr × UInt16)
  inbound : List (List UInt8)
  sent : List (List UInt8)

section

variable (library : Primitives)

def TurnInner.awaits (inner : TurnInner) (message : Message) : Bool :=
  inner.pending.any (fun pending => decide (pending.txn = message.transactionId))

def TurnInner.needsIntegrity (inner : TurnInner) (message : Message) : Bool :=
  inner.pending.any
      (fun pending => decide (pending.txn = message.transactionId) && pending.expectIntegrity) &&
    decide (message.kind = .success)

/-- One round of `run_demux`, with the message that is handed to the waiting request. -/
def demux (inner : TurnInner) (data : List UInt8) : TurnInner × Option Message :=
  if isChannelData data then
    match ChannelData.decode data with
    | .error _ => (inner, none)
    | .ok message =>
      -- `try_send` drops the data when the queue is full
      if inner.inbound.length < inboundCapacity then
        ({ inner with inbound := inner.inbound ++ [message.data] }, none)
      else (inner, none)
  else
    match decode library data with
    | .error _ => (inner, none)
    | .ok message =>
      if inner.needsIntegrity message && !verifyIntegrity library data inner.key.bytes then
        (inner, none)
      else if inner.awaits message then ({ inner with pending := none }, some message)
      else (inner, none)

/-- A message handed to a request for which integrity was asked is an answer to it, and a
success is one that the verifier accepts. -/
theorem demux_delivers {inner after : TurnInner} {data : List UInt8} {message : Message}
    {txn : TransactionId} (waits : inner.pending = some ⟨txn, true⟩)
    (delivered : demux library inner data = (after, some message)) :
    decode library data = .ok message ∧ message.transactionId = txn ∧
      (message.kind = .success → verifyIntegrity library data inner.key.bytes = true) := by
  unfold demux at delivered
  by_cases channel : isChannelData data = true
  · rw [if_pos channel] at delivered
    cases read : ChannelData.decode data with
    | error failure =>
      rw [read] at delivered
      cases delivered
    | ok relayed =>
      rw [read] at delivered
      split_ifs at delivered with room
      · cases delivered
      · cases delivered
  · rw [if_neg channel] at delivered
    cases read : decode library data with
    | error failure =>
      rw [read] at delivered
      cases delivered
    | ok answer =>
      rw [read] at delivered
      dsimp only at delivered
      split_ifs at delivered with refused awaited
      · cases delivered
      · have same : answer = message := Option.some.inj (Prod.ext_iff.mp delivered).2
        subst same
        have answers : txn = answer.transactionId := by
          rw [TurnInner.awaits, waits] at awaited
          exact of_decide_eq_true awaited
        refine ⟨rfl, answers.symm, ?_⟩
        intro success
        have needed : inner.needsIntegrity answer = true := by
          simp [TurnInner.needsIntegrity, waits, answers, success]
        rw [needed, Bool.true_and, Bool.not_eq_true', Bool.not_eq_false] at refused
        exact refused
      · cases delivered

/-- One send of a request: whether it fails, and what arrives before the timeout. -/
structure Window where
  sendFault : Option String
  arrivals : List (List UInt8)

def awaitAnswer : TurnInner → List (List UInt8) → TurnInner × Option Message
  | inner, [] => (inner, none)
  | inner, data :: rest =>
    match demux library inner data with
    | (after, some message) => (after, some message)
    | (after, none) => awaitAnswer after rest

def sendRounds (bytes : List UInt8) :
    List Window → TurnInner → TurnInner × Except ClientError Message
  | [], inner => ({ inner with pending := none }, .error (.turn "request timed out"))
  | window :: rest, inner =>
    match window.sendFault with
    | some fault => (inner, .error (.turn ("send failed: " ++ fault)))
    | none =>
      match awaitAnswer library { inner with sent := inner.sent ++ [bytes] } window.arrivals with
      | (after, some message) => (after, .ok message)
      | (after, none) => sendRounds bytes rest after

structure Exchange where
  txn : TransactionId
  windows : Nat → Window

def transact (inner : TurnInner) (bytes : List UInt8) (exchange : Exchange)
    (expectIntegrity : Bool) : TurnInner × Except ClientError Message :=
  sendRounds library bytes ((List.range maxAttempts).map exchange.windows)
    { inner with pending := some ⟨exchange.txn, expectIntegrity⟩ }

def authedRequest (inner : TurnInner) (method : UInt16) (extra : List Attribute)
    (txn : TransactionId) : Message :=
  ⟨method, .request, txn,
    extra ++ [.username inner.username, .realm inner.realm, .nonce inner.nonce]⟩

def authedRounds (method : UInt16) (extra : List Attribute) :
    Nat → List Exchange → TurnInner → TurnInner × Except ClientError Message
  | _, [], inner => (inner, .error (.turn "stale-nonce retry exhausted"))
  | attempt, exchange :: rest, inner =>
    let bytes := encode library (authedRequest inner method extra exchange.txn)
      (some inner.key.bytes) false
    match transact library inner bytes exchange true with
    | (after, .error failure) => (after, .error failure)
    | (after, .ok response) =>
      match response.kind with
      | .success => (after, .ok response)
      | .error =>
        let code := response.errorCode.getD 0
        if code = staleNonce ∧ attempt = 0 then
          authedRounds method extra (attempt + 1) rest
            { after with nonce := response.nonce.getD after.nonce }
        else
          (after, .error (.turn
            (hexPadded 5 method.toNat ++ " rejected with code " ++ toString code.toNat)))
      | _ =>
        (after, .error (.turn (hexPadded 5 method.toNat ++ " unexpected response class")))

def requestAuthed (inner : TurnInner) (method : UInt16) (extra : List Attribute)
    (first second : Exchange) : TurnInner × Except ClientError Message :=
  authedRounds library method extra 0 [first, second] inner

theorem request_authed_answered {inner after : TurnInner} {method : UInt16}
    {extra : List Attribute} {first second : Exchange} {data : List UInt8} {response : Message}
    (window : first.windows 0 = ⟨none, [data]⟩)
    (delivered : demux library
      { inner with
        pending := some ⟨first.txn, true⟩
        sent := inner.sent ++ [encode library (authedRequest inner method extra first.txn)
          (some inner.key.bytes) false] } data = (after, some response))
    (success : response.kind = .success) :
    requestAuthed library inner method extra first second = (after, .ok response) := by
  have windows : (List.range maxAttempts).map first.windows =
      first.windows 0 :: (List.range' 1 6).map first.windows := rfl
  have sent : transact library inner (encode library
      (authedRequest inner method extra first.txn) (some inner.key.bytes) false) first true =
        (after, .ok response) := by
    rw [transact, windows, window, sendRounds]
    rw [awaitAnswer, delivered]
  rw [requestAuthed, authedRounds]
  rw [sent]
  dsimp only
  rw [success]

/-- The format `{:?}` of an optional number. -/
def debugCode : Option UInt16 → String
  | none => "None"
  | some code => "Some(" ++ toString code.toNat ++ ")"

def parseAllocation (response : Message) (requested : UInt32) :
    Except ClientError (SocketAddr × UInt32) :=
  if response.kind ≠ .success then
    .error (.turn ("allocate rejected: " ++ debugCode response.errorCode))
  else
    match response.xorRelayedAddress with
    | none => .error (.turn "allocate success missing relayed address")
    | some relayed => .ok (relayed, response.lifetime.getD requested)

structure TurnConfig where
  username : String
  password : String
  lifetimeSecs : UInt32

def longTermKey (md5 : List UInt8 → Block 16) (username realm password : String) : Block 16 :=
  md5 (utf8Bytes username ++ utf8Bytes ":" ++ utf8Bytes realm ++ utf8Bytes ":" ++
    utf8Bytes password)

def allocate (md5 : List UInt8 → Block 16) (inner : TurnInner) (config : TurnConfig)
    (initial first second : Exchange) : TurnInner × Except ClientError (SocketAddr × UInt32) :=
  let request : Message :=
    ⟨methodAllocate, .request, initial.txn, [.requestedTransport transportUdp]⟩
  match transact library inner (encode library request none false) initial false with
  | (after, .error failure) => (after, .error failure)
  | (after, .ok response) =>
    if response.kind ≠ .success then
      match response.realm, response.nonce with
      | none, _ => (after, .error (.turn "allocate challenge missing realm"))
      | some _, none => (after, .error (.turn "allocate challenge missing nonce"))
      | some realm, some nonce =>
        let keyed := { after with
          realm := realm
          nonce := nonce
          key := longTermKey md5 config.username realm config.password }
        match requestAuthed library keyed methodAllocate
            [.requestedTransport transportUdp, .lifetime config.lifetimeSecs] first second with
        | (last, .error failure) => (last, .error failure)
        | (last, .ok authed) => (last, parseAllocation authed config.lifetimeSecs)
    else (after, parseAllocation response config.lifetimeSecs)

def refreshPeriod (lifetime : UInt32) : Nat := min (max (lifetime.toNat / 2) 60) channelRefresh

/-- The lifetime after a refresh; one that fails, or whose answer names none, changes nothing. -/
def grantedLifetime (lifetime : UInt32) (response : Except ClientError Message) : UInt32 :=
  match response with
  | .ok message => message.lifetime.getD lifetime
  | .error _ => lifetime

structure RoundExchanges where
  refreshFirst : Exchange
  refreshSecond : Exchange
  bindFirst : Exchange
  bindSecond : Exchange

/-- The requests of a round of `run_maintenance`, after its sleep. -/
def maintenanceRound (lifetime : UInt32) (exchanges : RoundExchanges) (inner : TurnInner) :
    TurnInner × UInt32 :=
  let refreshed := requestAuthed library inner methodRefresh [.lifetime lifetime]
    exchanges.refreshFirst exchanges.refreshSecond
  let next := grantedLifetime lifetime refreshed.2
  match refreshed.1.bound with
  | none => (refreshed.1, next)
  | some (peer, channel) =>
    ((requestAuthed library refreshed.1 methodChannelBind
      [.channelNumber channel, .xorPeerAddress peer] exchanges.bindFirst
      exchanges.bindSecond).1, next)

end

end Stitch.Transport.TurnClient
