import Mathlib.Data.List.MinMax
import Stitch.Foundation.QueueMap

/-!
# Routing of inbound connections by fingerprint

Transcription of the accept state of `quic.rs`. Every critical section is one step; between
them the receiver of a waiting accept can be dropped before its guard takes the waiter out. A
waiter's id names its channel.
-/

namespace Stitch.Transport.InboundRouting

open Foundation.FiniteMap Foundation.QueueMap

variable {Conn : Type}

def maxBufferedConnections : Nat := 256

/-- Thirty seconds, in the nanoseconds of an `Instant`. -/
def bufferedConnectionTtl : Nat := 30000000000

structure Buffered (Conn : Type) where
  conn : Conn
  arrivedAt : Nat
  deriving DecidableEq

structure AcceptState (Conn : Type) where
  waiters : HashMap String (List Nat)
  arrived : HashMap String (List (Buffered Conn))
  nextWaiterId : Nat
  closed : Bool

def AcceptState.new : AcceptState Conn := ⟨∅, ∅, 0, false⟩

namespace AcceptState

variable (state : AcceptState Conn)

def bufferedTotal : Nat := sumValues List.length state.arrived

def removeWaiter (fingerprint : String) (id : Nat) : AcceptState Conn :=
  match state.waiters.lookup fingerprint with
  | none => state
  | some queue =>
    { state with waiters := storeQueue state.waiters fingerprint (queue.filter (· ≠ id)) }

def fronts (order : List String) : List (String × Nat) :=
  order.filterMap fun fingerprint =>
    ((state.arrived.lookup fingerprint).bind List.head?).map fun first =>
      (fingerprint, first.arrivedAt)

/-- One round of the loop in `evict_overflow`: drop the first connection that arrived. -/
def evictOldest (order : List String) : Option (AcceptState Conn × Buffered Conn) :=
  match (state.fronts order).argmin Prod.snd with
  | none => none
  | some (oldest, _) =>
    match state.arrived.lookup oldest with
    | some (dropped :: rest) =>
      some ({ state with arrived := storeQueue state.arrived oldest rest }, dropped)
    | _ => none

/-- What was evicted, and everything that was buffered at that moment. -/
structure Eviction (Conn : Type) where
  dropped : Buffered Conn
  buffered : Multiset (Buffered Conn)

def evictRounds (order : List String) :
    Nat → AcceptState Conn → AcceptState Conn × List (Eviction Conn)
  | 0, state => (state, [])
  | rounds + 1, state =>
    if state.bufferedTotal < maxBufferedConnections then (state, [])
    else
      match state.evictOldest order with
      | none => (state, [])
      | some (next, dropped) =>
        let later := evictRounds order rounds next
        (later.1, ⟨dropped, allItems state.arrived⟩ :: later.2)

/-- A round takes one connection out, so the loop ends within `bufferedTotal` rounds. -/
def evictOverflow (order : List String) : AcceptState Conn × List (Eviction Conn) :=
  evictRounds order state.bufferedTotal state

def isExpired (now : Nat) (buffered : Buffered Conn) : Bool :=
  bufferedConnectionTtl ≤ now - buffered.arrivedAt

def expireQueue (now : Nat) (arrived : HashMap String (List (Buffered Conn)))
    (fingerprint : String) : HashMap String (List (Buffered Conn)) :=
  match arrived.lookup fingerprint with
  | none => arrived
  | some queue => storeQueue arrived fingerprint (queue.dropWhile (isExpired now))

def expireBuffered (now : Nat) (order : List String) : AcceptState Conn :=
  { state with arrived := order.foldl (expireQueue now) state.arrived }

/-- Offer a connection to the waiters in turn: the one that took it, and those behind it. -/
def offer (isLive : Nat → Bool) : List Nat → Option Nat × List Nat
  | [] => (none, [])
  | id :: rest => if isLive id then (some id, rest) else offer isLive rest

def buffer (fingerprint : String) (conn : Conn) (now : Nat) (order : List String) :
    AcceptState Conn × List (Eviction Conn) :=
  let evicted := state.evictOverflow order
  let queue := getOr evicted.1.arrived fingerprint []
  ({ evicted.1 with
      arrived := evicted.1.arrived.insert fingerprint (queue ++ [⟨conn, now⟩]) }, evicted.2)

inductive Delivery (Conn : Type) where
  | refused
  | sent (id : Nat)
  | buffered (evicted : List (Eviction Conn))

def deliver (isLive : Nat → Bool) (fingerprint : String) (conn : Conn) (now : Nat)
    (order : List String) : AcceptState Conn × Delivery Conn :=
  if state.closed then (state, .refused)
  else
    match state.waiters.lookup fingerprint with
    | none =>
      let kept := state.buffer fingerprint conn now order
      (kept.1, .buffered kept.2)
    | some queue =>
      match offer isLive queue with
      | (some id, rest) =>
        ({ state with waiters := storeQueue state.waiters fingerprint rest }, .sent id)
      | (none, _) =>
        let cleared := { state with waiters := state.waiters.erase fingerprint }
        let kept := cleared.buffer fingerprint conn now order
        (kept.1, .buffered kept.2)

def takeOpen (isOpen : Conn → Bool) :
    List (Buffered Conn) → Option (Buffered Conn) × List (Buffered Conn)
  | [] => (none, [])
  | first :: rest => if isOpen first.conn then (some first, rest) else takeOpen isOpen rest

inductive Acceptance (Conn : Type) where
  | refused
  | returned (conn : Conn)
  | registered (id : Nat)

def register (fingerprint : String) : AcceptState Conn × Acceptance Conn :=
  let id := state.nextWaiterId
  let queue := getOr state.waiters fingerprint []
  ({ state with
      nextWaiterId := id + 1
      waiters := state.waiters.insert fingerprint (queue ++ [id]) }, .registered id)

/-- The critical section of `accept_with_fingerprint`. -/
def accept (isOpen : Conn → Bool) (fingerprint : String) : AcceptState Conn × Acceptance Conn :=
  if state.closed then (state, .refused)
  else
    match state.arrived.lookup fingerprint with
    | none => state.register fingerprint
    | some queue =>
      let taken := takeOpen isOpen queue
      let rest := { state with arrived := storeQueue state.arrived fingerprint taken.2 }
      match taken.1 with
      | some found => (rest, .returned found.conn)
      | none => rest.register fingerprint

def close : AcceptState Conn := { state with closed := true, waiters := ∅, arrived := ∅ }

end AcceptState

/-- The channel of a waiting accept: the connection sent into it, or how far the accept
has come after it was cancelled or has returned. -/
inductive Channel (Conn : Type) where
  | waiting
  | sent (conn : Conn)
  | receiverGone
  | guardGone
  deriving DecidableEq

structure Wait (Conn : Type) where
  fingerprint : String
  channel : Channel Conn
  deriving DecidableEq

/-- An endpoint with its waiting accepts, and what has happened to its connections. -/
structure Endpoint (Conn : Type) where
  state : AcceptState Conn
  waits : HashMap Nat (Wait Conn)
  clock : Nat
  delivered : List Conn
  returned : List (String × Conn)
  served : List (String × Nat)
  evicted : List (AcceptState.Eviction Conn)

def Endpoint.new : Endpoint Conn := ⟨AcceptState.new, ∅, 0, [], [], [], []⟩

inductive Action (Conn : Type) where
  | deliver (conn : Conn) (now : Nat) (order : List String)
  | accept (fingerprint : String) (closedNow : List Conn)
  | complete (id : Nat)
  | dropReceiver (id : Nat)
  | dropGuard (id : Nat)
  | sweep (now : Nat) (order : List String)
  | close

namespace Endpoint

variable [DecidableEq Conn] (fingerprintOf : Conn → String) (endpoint : Endpoint Conn)

def isLive (id : Nat) : Bool :=
  match endpoint.waits.lookup id with
  | some wait => wait.channel == .waiting
  | none => false

def setChannel (id : Nat) (wait : Wait Conn) (channel : Channel Conn) :
    HashMap Nat (Wait Conn) :=
  endpoint.waits.insert id { wait with channel := channel }

/-- A connection is delivered once, under the fingerprint of its certificate. -/
def deliver (conn : Conn) (now : Nat) (order : List String) : Option (Endpoint Conn) :=
  if conn ∉ endpoint.delivered ∧ endpoint.clock ≤ now ∧ Visits order endpoint.state.arrived then
    let fingerprint := fingerprintOf conn
    let routed := endpoint.state.deliver endpoint.isLive fingerprint conn now order
    let after := { endpoint with
      state := routed.1, clock := now, delivered := conn :: endpoint.delivered }
    match routed.2 with
    | .refused => some after
    | .buffered evicted => some { after with evicted := endpoint.evicted ++ evicted }
    | .sent id =>
      (endpoint.waits.lookup id).map fun wait =>
        { after with
          waits := endpoint.setChannel id wait (.sent conn)
          served := endpoint.served ++ [(fingerprint, id)] }
  else none

/-- `closedNow` are the connections that have been closed by the time of the call. -/
def accept (fingerprint : String) (closedNow : List Conn) : Endpoint Conn :=
  let accepted := endpoint.state.accept (fun conn => conn ∉ closedNow) fingerprint
  let after := { endpoint with state := accepted.1 }
  match accepted.2 with
  | .refused => after
  | .returned conn => { after with returned := endpoint.returned ++ [(fingerprint, conn)] }
  | .registered id => { after with waits := endpoint.waits.insert id ⟨fingerprint, .waiting⟩ }

/-- A waiting accept is polled: it returns the connection sent to it, or an error when the
endpoint was closed and its sender dropped. -/
def complete (id : Nat) : Option (Endpoint Conn) :=
  match endpoint.waits.lookup id with
  | some wait =>
    match wait.channel with
    | .sent conn =>
      some { endpoint with
        waits := endpoint.setChannel id wait .receiverGone
        returned := endpoint.returned ++ [(wait.fingerprint, conn)] }
    | .waiting =>
      if endpoint.state.closed then
        some { endpoint with waits := endpoint.setChannel id wait .receiverGone }
      else none
    | _ => none
  | none => none

/-- A waiting accept is cancelled. What was sent to it is dropped with its receiver. -/
def dropReceiver (id : Nat) : Option (Endpoint Conn) :=
  match endpoint.waits.lookup id with
  | some wait =>
    match wait.channel with
    | .waiting => some { endpoint with waits := endpoint.setChannel id wait .receiverGone }
    | .sent _ => some { endpoint with waits := endpoint.setChannel id wait .receiverGone }
    | _ => none
  | none => none

/-- The guard of an accept that has returned or was cancelled. -/
def dropGuard (id : Nat) : Option (Endpoint Conn) :=
  match endpoint.waits.lookup id with
  | some wait =>
    if wait.channel = .receiverGone then
      some { endpoint with
        state := endpoint.state.removeWaiter wait.fingerprint id
        waits := endpoint.setChannel id wait .guardGone }
    else none
  | none => none

def sweep (now : Nat) (order : List String) : Option (Endpoint Conn) :=
  if endpoint.clock ≤ now ∧ Visits order endpoint.state.arrived ∧ !endpoint.state.closed then
    some { endpoint with state := endpoint.state.expireBuffered now order, clock := now }
  else none

def step : Action Conn → Option (Endpoint Conn)
  | .deliver conn now order => endpoint.deliver fingerprintOf conn now order
  | .accept fingerprint closedNow => some (endpoint.accept fingerprint closedNow)
  | .complete id => endpoint.complete id
  | .dropReceiver id => endpoint.dropReceiver id
  | .dropGuard id => endpoint.dropGuard id
  | .sweep now order => endpoint.sweep now order
  | .close => some { endpoint with state := endpoint.state.close }

end Endpoint

end Stitch.Transport.InboundRouting
