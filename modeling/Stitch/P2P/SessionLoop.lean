import Stitch.P2P.MessageFormat

/-!
# One session

Transcription of `session.rs`: the rules for a decoded message, and the `select!` loop of `run`
over a byte stream. Whenever another branch wins, the pending `read_message` is dropped with the
bytes it has taken.
-/

namespace Stitch.P2P.SessionLoop

open Foundation.FiniteMap Foundation.ByteLayout HybridClock WireFormat ReplicationLog
open NodeState MessageFormat

def shouldInitiate (selfId : PeerId) : Option PeerId → Bool
  | some remote => selfId < remote
  | none => true

def peerAhead (theirs ours : Cursors) : Bool :=
  decide (∃ origin ∈ theirs.keys, getOr ours origin 0 < getOr theirs origin 0)

def helloOf (state : SyncState) : SyncMessage := .hello state.selfId state.cursors

/-- The `Delta` written for a catch-up, none when there is nothing to send. -/
def deltaMessage (catchUp : List WriteFrame) : List SyncMessage :=
  if catchUp = [] then [] else [.delta catchUp]

/-- Handling of an inbound `Hello`: the new state and the messages written back.
`order` is the order in which `delta_since` visits the stored origins. -/
def onHello (order : List PeerId) (state : SyncState) (sender : PeerId) (cursors : Cursors) :
    SyncState × List SyncMessage :=
  let noted := state.notePeerCursors sender cursors
  let catchUp := noted.deltaSince order cursors
  let replyHello :=
    peerAhead cursors noted.cursors || !shouldInitiate state.selfId (some sender)
  (noted, deltaMessage catchUp ++ if replyHello then [helloOf noted] else [])

theorem peer_ahead_iff (theirs ours : ReplLog) :
    peerAhead theirs.cursors ours.cursors = true ↔
      ∃ origin, ours.cursorFor origin < theirs.cursorFor origin := by
  simp only [peerAhead, decide_eq_true_eq, getOr_cursors]
  constructor
  · intro behind
    rcases behind with ⟨origin, -, ahead⟩
    exact ⟨origin, ahead⟩
  · intro behind
    rcases behind with ⟨origin, ahead⟩
    refine ⟨origin, ?_, ahead⟩
    by_contra absent
    rw [← getOr_cursors theirs, getOr_of_not_mem absent] at ahead
    exact Nat.not_lt_zero _ ahead

/-- `apply`: every frame is received in turn; `persists i` is the persister's
answer should it be asked for the `i`-th one. -/
def applyFrames (wallMs : Nat) : (Nat → Bool) → SyncState → List WriteFrame → SyncState
  | _, state, [] => state
  | persists, state, frame :: frames =>
    applyFrames wallMs (fun index => persists (index + 1))
      (state.receive (persists 0) frame wallMs).1 frames

theorem apply_frames_induction (Kept : SyncState → Prop) {wallMs : Nat}
    {frames : List WriteFrame}
    (step : ∀ state persisted, ∀ frame ∈ frames, Kept state →
      Kept (state.receive persisted frame wallMs).1)
    (persists : Nat → Bool) (state : SyncState) (start : Kept state) :
    Kept (applyFrames wallMs persists state frames) := by
  induction frames generalizing persists state with
  | nil => exact start
  | cons frame frames ih =>
    apply ih
    · intro other persisted later member
      exact step other persisted later (List.mem_cons_of_mem _ member)
    · exact step state (persists 0) frame List.mem_cons_self start

theorem apply_frames_frame (wallMs : Nat) (persists : Nat → Bool) (state : SyncState)
    (frames : List WriteFrame) :
    let after := applyFrames wallMs persists state frames
    after.selfId = state.selfId ∧ after.auth = state.auth ∧
      after.peerCursors = state.peerCursors := by
  apply apply_frames_induction fun after =>
    after.selfId = state.selfId ∧ after.auth = state.auth ∧
      after.peerCursors = state.peerCursors
  · intro current persisted frame _ kept
    rcases kept with ⟨selfId, auth, peerCursors⟩
    obtain ⟨sameId, sameAuth, sameReports⟩ := receive_frame current persisted frame wallMs
    exact ⟨sameId.trans selfId, sameAuth.trans auth, sameReports.trans peerCursors⟩
  · exact ⟨rfl, rfl, rfl⟩

theorem mem_on_hello {order : List PeerId} {state : SyncState} {sender : PeerId}
    {cursors : Cursors} {message : SyncMessage}
    (sent : message ∈ (onHello order state sender cursors).2) :
    message = .delta (state.deltaSince order cursors) ∨
      message = helloOf (state.notePeerCursors sender cursors) := by
  rcases List.mem_append.mp sent with catchUp | reply
  · unfold deltaMessage at catchUp
    split_ifs at catchUp
    · cases catchUp
    · exact Or.inl (List.mem_singleton.mp catchUp)
  · split_ifs at reply
    · exact Or.inr (List.mem_singleton.mp reply)
    · cases reply

def isEof : ProtocolError → Bool
  | .io .unexpectedEof => true
  | _ => false

section

/-- A `read_message` future after it has consumed some bytes: it waits for the
rest of the current `read_exact`, or it has finished. -/
inductive ReadProgress where
  | awaiting (missing : Nat)
  | finished (result : Except ProtocolError SyncMessage)
  deriving DecidableEq

def pollRead (buf : List UInt8) : ReadProgress :=
  if buf.length < 1 then .awaiting (1 - buf.length)
  else if buf.length < 5 then .awaiting (5 - buf.length)
  else
    let len := beValue (slice buf 1 5)
    if maxMessageLen < len then .finished (.error (.tooLarge len))
    else if buf.length < 5 + len then .awaiting (5 + len - buf.length)
    else .finished (decodePayload (buf.getD 0 0) (slice buf 5 (5 + len)))

variable {buf : List UInt8} {missing : Nat}

theorem poll_read_awaiting (pending : pollRead buf = .awaiting missing) :
    buf.length < 5 ∧ buf.length + missing ≤ 5 ∨
      5 ≤ buf.length ∧ ¬maxMessageLen < beValue (slice buf 1 5) ∧
        buf.length + missing = 5 + beValue (slice buf 1 5) ∧ 0 < missing := by
  simp only [pollRead] at pending
  split_ifs at pending with noKind noLen large short
  · cases pending
    omega
  · cases pending
    omega
  · cases pending
    omega

theorem framed_buffer_fields (kind : UInt8) {len : Nat} (small : len < 256 ^ 4)
    (rest : List UInt8) :
    slice (kind :: (beBytes 4 len ++ rest)) 5 (5 + len) = rest.take len ∧
      beValue (slice (kind :: (beBytes 4 len ++ rest)) 1 5) = len := by
  have lenBytes : slice (kind :: (beBytes 4 len ++ rest)) 1 5 = beBytes 4 len := by
    change slice ([kind] ++ (beBytes 4 len ++ rest)) 1 5 = beBytes 4 len
    exact slice_middle rfl (by rw [be_bytes_length])
  constructor
  · change slice ([kind] ++ (beBytes 4 len ++ rest)) 5 (5 + len) = rest.take len
    rw [← List.append_assoc, slice_append_right]
    · simp [slice]
    · simp
  · rw [lenBytes, be_value_be_bytes_of_lt small]

/-- How far `read_message` is after it has consumed part of a framed payload. -/
theorem poll_read_framed (kind : UInt8) {payload : List UInt8}
    (small : payload.length < 256 ^ 4) {count : Nat} (inside : count ≤ 5 + payload.length) :
    pollRead ((kind :: (beBytes 4 payload.length ++ payload)).take count) =
      if count < 1 then .awaiting (1 - count)
      else if count < 5 then .awaiting (5 - count)
      else if maxMessageLen < payload.length then .finished (.error (.tooLarge payload.length))
      else if count < 5 + payload.length then .awaiting (5 + payload.length - count)
      else .finished (decodePayload kind payload) := by
  have taken : ((kind :: (beBytes 4 payload.length ++ payload)).take count).length = count := by
    simp only [List.length_take, List.length_cons, List.length_append, be_bytes_length]
    omega
  by_cases header : count < 5
  · simp only [pollRead, taken, header, if_true]
  · have parts : (kind :: (beBytes 4 payload.length ++ payload)).take count =
        kind :: (beBytes 4 payload.length ++ payload.take (count - 5)) := by
      obtain ⟨extra, rfl⟩ := Nat.exists_eq_add_of_le (Nat.le_of_not_lt header)
      rw [show 5 + extra = (4 + extra) + 1 by omega, List.take_succ_cons, List.take_append,
        be_bytes_length, List.take_of_length_le (by rw [be_bytes_length]; omega)]
      congr 3
    obtain ⟨payloadBytes, lenValue⟩ :=
      framed_buffer_fields kind small (payload.take (count - 5))
    rw [parts] at taken ⊢
    simp only [pollRead, taken, lenValue, payloadBytes, List.getD_cons_zero]
    by_cases short : count < 5 + payload.length
    · simp [header, short]
    · have whole : (payload.take (count - 5)).take payload.length = payload := by
        rw [List.take_take, List.take_of_length_le (by omega)]
      rw [whole]

/-- Without cancellation the pending read computes `read_message`, however the
bytes are cut into chunks. -/
theorem poll_read_finishes {chunk : List UInt8} {result : Except ProtocolError SyncMessage}
    (pending : pollRead buf = .awaiting missing) (fits : chunk.length ≤ missing)
    (finished : pollRead (buf ++ chunk) = .finished result) (rest : List UInt8) :
    readMessage (buf ++ chunk ++ rest) = result.map fun message => (message, rest) := by
  have bound : 5 ≤ (buf ++ chunk).length →
      (buf ++ chunk).length ≤ 5 + beValue (slice (buf ++ chunk) 1 5) := by
    intro enough
    rw [List.length_append] at enough ⊢
    rcases poll_read_awaiting pending with ⟨short, room⟩ | ⟨header, small, total, -⟩
    · omega
    · have same : slice (buf ++ chunk) 1 5 = slice buf 1 5 := by
        rw [slice, slice, List.drop_append_of_le_length (by omega),
          List.take_append_of_le_length (by rw [List.length_drop]; omega)]
      rw [same]
      omega
  cases whole : buf ++ chunk with
  | nil => simp [whole, pollRead] at finished
  | cons kind tail =>
    rw [whole] at finished bound
    have lenBytes : slice (kind :: tail) 1 5 = tail.take 4 := rfl
    have body : slice (kind :: tail) 5 (5 + beValue (tail.take 4)) =
        (tail.drop 4).take (beValue (tail.take 4)) := by
      simp [slice]
    simp only [pollRead, lenBytes, body, List.getD_cons_zero] at finished
    simp only [lenBytes, List.length_cons] at bound
    split_ifs at finished with noKind noLen large short
    all_goals
      rw [List.length_cons] at noLen
      have width : (tail.take 4).length = 4 := by
        rw [List.length_take]
        omega
      have split : kind :: tail ++ rest = kind :: (tail.take 4 ++ (tail.drop 4 ++ rest)) := by
        rw [← List.append_assoc, List.take_append_drop, List.cons_append]
      rw [split, read_message_header kind width]
      cases finished
    · rw [if_pos large]
      rfl
    · have exactBody : (tail.drop 4).length = beValue (tail.take 4) := by
        have upper := bound (Nat.le_of_not_lt noLen)
        rw [List.length_cons] at short
        rw [List.length_drop]
        omega
      have read := read_exact_append (tail.drop 4) rest
      rw [exactBody] at read
      simp only [if_neg large, read]
      rw [← exactBody, List.take_length]
      cases decodePayload kind (tail.drop 4) <;> rfl

theorem split_delta_read :
    readMessage ([1, 0, 0, 0, 4, 0] ++ [0, 0, 0] ++ [9]) = .ok (.delta [], [9]) :=
  poll_read_finishes (by decide : pollRead [1, 0, 0, 0, 4, 0] = .awaiting 3) (by decide)
    (by decide : pollRead ([1, 0, 0, 0, 4, 0] ++ [0, 0, 0]) = .finished (.ok (.delta []))) [9]

end

/-- The task of one connection. `unread` and `buf` are what the peer wrote and the pending
`read_message` has not, and has, consumed. -/
structure Session where
  state : SyncState
  remoteId : Option PeerId
  unread : List UInt8
  buf : List UInt8
  decoded : List SyncMessage
  sent : List SyncMessage
  returned : Option (Except ProtocolError Unit)

/-- `run` after its first `send_hello`. -/
def Session.start (state : SyncState) (unread : List UInt8) : Session where
  state := state
  remoteId := none
  unread := unread
  buf := []
  decoded := []
  sent := [helloOf state]
  returned := none

inductive Action where
  | read (size : Nat) (order : List PeerId) (persists : Nat → Bool) (wallMs : Nat)
  | closedByPeer
  | outbound (frame : Option WriteFrame)
  | tick
  | writeFailed (error : ProtocolError)
  | otherTask (state : SyncState)

section

variable (session : Session)

/-- The first branch of the `select!`, once `read_message` has returned. -/
def Session.inbound (order : List PeerId) (persists : Nat → Bool) (wallMs : Nat) :
    Except ProtocolError SyncMessage → Session
  | .ok (.hello sender cursors) =>
    let handled := onHello order session.state sender cursors
    { session with
      state := handled.1
      remoteId := some sender
      decoded := session.decoded ++ [.hello sender cursors]
      sent := session.sent ++ handled.2 }
  | .ok (.delta frames) =>
    { session with
      state := applyFrames wallMs persists session.state frames
      decoded := session.decoded ++ [.delta frames] }
  | .error error =>
    { session with returned := some (if isEof error then .ok () else .error error) }

/-- The reader hands `size` further bytes to the pending `read_message`, never
more than its current `read_exact` still asks for. -/
def Session.read (size : Nat) (order : List PeerId) (persists : Nat → Bool) (wallMs : Nat) :
    Option Session :=
  match pollRead session.buf with
  | .finished _ => none
  | .awaiting missing =>
    if 0 < size ∧ size ≤ missing ∧ size ≤ session.unread.length then
      let buf := session.buf ++ session.unread.take size
      let unread := session.unread.drop size
      match pollRead buf with
      | .awaiting _ => some { session with buf := buf, unread := unread }
      | .finished result =>
        some ({ session with buf := [], unread := unread }.inbound order persists wallMs
          result)
    else none

/-- One step of `run` or of a task that shares its state. The branches `outbound`
and `tick` drop the pending read and the bytes it has consumed. -/
def Session.step (action : Action) : Option Session :=
  if session.returned.isSome then none
  else
    match action with
    | .read size order persists wallMs => session.read size order persists wallMs
    | .closedByPeer =>
      if session.unread = [] then
        some (session.inbound [] (fun _ => true) 0 (.error (.io .unexpectedEof)))
      else none
    | .outbound (some frame) =>
      some { session with buf := [], sent := session.sent ++ [.delta [frame]] }
    | .outbound none => some { session with buf := [], returned := some (.ok ()) }
    | .tick =>
      some { session with
        buf := []
        sent := session.sent ++
          if shouldInitiate session.state.selfId session.remoteId then [helloOf session.state]
          else [] }
    | .writeFailed error => some { session with returned := some (.error error) }
    | .otherTask state =>
      if state.selfId = session.state.selfId then some { session with state := state }
      else none

end

/-- The sessions reached from a start by steps that are all permitted. -/
inductive Reached (permitted : Session → Action → Prop) (start : Session) : Session → Prop where
  | start : Reached permitted start start
  | step {session next : Session} {action : Action} (prior : Reached permitted start session)
      (allowed : permitted session action) (taken : session.step action = some next) :
      Reached permitted start next

def Session.steps (session : Session) : List Action → Option Session
  | [] => some session
  | action :: actions =>
    match session.step action with
    | none => none
    | some next => next.steps actions

theorem reached_of_steps {permitted : Session → Action → Prop} {start session next : Session}
    {actions : List Action} (prior : Reached permitted start session)
    (allowed : ∀ current, ∀ action ∈ actions, permitted current action)
    (taken : session.steps actions = some next) : Reached permitted start next := by
  induction actions generalizing session with
  | nil =>
    cases taken
    exact prior
  | cons action actions ih =>
    unfold Session.steps at taken
    cases moved : session.step action with
    | none => simp [moved] at taken
    | some middle =>
      rw [moved] at taken
      apply ih (prior.step (allowed session action List.mem_cons_self) moved)
      · intro current later member
        exact allowed current later (List.mem_cons_of_mem _ member)
      · exact taken

/-- The action makes another branch of the `select!` win over the pending read. -/
def Action.cancels : Action → Bool
  | .outbound _ => true
  | .tick => true
  | _ => false

/-- Other branches win only while the pending read has consumed nothing. -/
def BetweenMessages (session : Session) (action : Action) : Prop :=
  action.cancels = true → session.buf = []

section

theorem inbound_ok (session : Session) (order : List PeerId) (persists : Nat → Bool)
    (wallMs : Nat) (message : SyncMessage) :
    let next := session.inbound order persists wallMs (.ok message)
    next.decoded = session.decoded ++ [message] ∧ next.buf = session.buf ∧
      next.unread = session.unread ∧ next.returned = session.returned := by
  cases message <;> exact ⟨rfl, rfl, rfl, rfl⟩

variable {buf more payload unread : List UInt8} {kind : UInt8} {missing size : Nat}

variable (small : payload.length < 256 ^ 4)
  (aligned : buf ++ unread = kind :: (beBytes 4 payload.length ++ payload) ++ more)
  (pending : pollRead buf = .awaiting missing)

include small aligned pending

theorem awaiting_inside :
    buf.length + missing ≤ 5 + payload.length := by
  rcases poll_read_awaiting pending with ⟨-, room⟩ | ⟨header, -, total, -⟩
  · omega
  · have same : slice buf 1 5 = slice (buf ++ unread) 1 5 := by
      rw [slice, slice, List.drop_append_of_le_length (by omega),
        List.take_append_of_le_length (by rw [List.length_drop]; omega)]
    have value := (framed_buffer_fields kind small (payload ++ more)).2
    rw [List.cons_append, List.append_assoc] at aligned
    rw [same, aligned, value] at total
    omega

/-- After any chunk the pending read of a framed payload still waits, stops because it is too large,
or returns the decoded payload exactly at its end. -/
theorem read_chunk_cases (asked : size ≤ missing) :
    (∃ left, pollRead (buf ++ unread.take size) = .awaiting left) ∨
      pollRead (buf ++ unread.take size) = .finished (.error (.tooLarge payload.length)) ∨
      pollRead (buf ++ unread.take size) = .finished (decodePayload kind payload) ∧
        unread.drop size = more := by
  have room := awaiting_inside small aligned pending
  have inside : (buf ++ unread.take size).length ≤ 5 + payload.length := by
    rw [List.length_append, List.length_take]
    omega
  have width : (kind :: (beBytes 4 payload.length ++ payload)).length = 5 + payload.length := by
    simp only [List.length_cons, List.length_append, be_bytes_length]
    omega
  have whole : (buf ++ unread.take size) ++ unread.drop size =
      kind :: (beBytes 4 payload.length ++ payload) ++ more := by
    rw [List.append_assoc, List.take_append_drop, aligned]
  have consumed : buf ++ unread.take size =
      (kind :: (beBytes 4 payload.length ++ payload)).take (buf ++ unread.take size).length := by
    have front := congrArg (List.take (buf ++ unread.take size).length) whole
    rwa [List.take_left, List.take_append_of_le_length (by omega)] at front
  have progress := poll_read_framed kind small inside
  rw [← consumed] at progress
  split_ifs at progress with noKind noLen large short
  · exact Or.inl ⟨_, progress⟩
  · exact Or.inl ⟨_, progress⟩
  · exact Or.inr (Or.inl progress)
  · exact Or.inl ⟨_, progress⟩
  · refine Or.inr (Or.inr ⟨progress, ?_⟩)
    have complete : (buf ++ unread.take size).length =
        (kind :: (beBytes 4 payload.length ++ payload)).length := by omega
    exact (List.append_inj whole complete).2

omit small aligned pending

/-- The session has decoded the first messages of the stream, and the bytes consumed and unread are
those of the others. -/
def Aligned (messages : List SyncMessage) (blocks : List (List UInt8)) (session : Session) :
    Prop :=
  ∃ count, session.decoded = messages.take count ∧
    (session.returned = none →
      session.buf ++ session.unread = (blocks.drop count).flatten ∧
        ∃ missing, pollRead session.buf = .awaiting missing)

variable {messages : List SyncMessage} {blocks : List (List UInt8)} {session next : Session}

theorem next_block (written : List.Forall₂ Writes messages blocks) {count : Nat}
    (remaining : (blocks.drop count).flatten ≠ []) :
    ∃ message block, Writes message block ∧
      messages.take (count + 1) = messages.take count ++ [message] ∧
      (blocks.drop count).flatten = block ++ (blocks.drop (count + 1)).flatten := by
  have later := List.forall₂_drop count written
  rw [← List.drop_drop]
  cases restBlocks : blocks.drop count with
  | nil => simp [restBlocks] at remaining
  | cons block more =>
    rw [restBlocks] at later
    cases restMessages : messages.drop count with
    | nil => simp [restMessages] at later
    | cons message others =>
      rw [restMessages] at later
      refine ⟨message, block, (List.forall₂_cons.mp later).1, ?_, rfl⟩
      have found : messages[count]? = some message := by
        rw [← List.head?_drop, restMessages, List.head?_cons]
      rw [List.take_add_one, found]
      rfl

theorem start_aligned (messages : List SyncMessage) (blocks : List (List UInt8))
    (state : SyncState) : Aligned messages blocks (Session.start state blocks.flatten) :=
  ⟨0, rfl, fun _ => ⟨rfl, 1, rfl⟩⟩

theorem read_aligned (written : List.Forall₂ Writes messages blocks)
    (aligned : Aligned messages blocks session) (running : session.returned = none)
    {order : List PeerId} {persists : Nat → Bool} {wallMs : Nat}
    (taken : session.read size order persists wallMs = some next) :
    Aligned messages blocks next := by
  obtain ⟨count, decoded, rest⟩ := aligned
  obtain ⟨stream, missing, pending⟩ := rest running
  simp only [Session.read, pending] at taken
  split at taken
  · rename_i chunk
    obtain ⟨positive, asked, available⟩ := chunk
    have remaining : (blocks.drop count).flatten ≠ [] := by
      rw [← stream]
      intro empty
      rw [(List.append_eq_nil_iff.mp empty).2] at available
      rw [List.length_nil] at available
      omega
    obtain ⟨message, block, accepted, grown, split⟩ := next_block written remaining
    obtain ⟨kind, payload, layout, -, small, decodes⟩ := writes_layout accepted
    rw [split, layout] at stream
    rcases read_chunk_cases small stream pending asked with
      ⟨left, waits⟩ | stops | ⟨completes, exactly⟩
    · simp only [waits, Option.some.injEq] at taken
      subst taken
      refine ⟨count, decoded, fun _ => ⟨?_, left, waits⟩⟩
      rw [List.append_assoc, List.take_append_drop, stream, split, layout]
    · simp only [stops, Option.some.injEq] at taken
      subst taken
      refine ⟨count, decoded, fun running => ?_⟩
      cases running
    · simp only [completes, decodes, Option.some.injEq] at taken
      subst taken
      obtain ⟨appended, noBuf, unread, -⟩ := inbound_ok
        { session with buf := [], unread := session.unread.drop size } order persists wallMs
        message
      refine ⟨count + 1, ?_, fun _ => ⟨?_, 1, ?_⟩⟩
      · rw [appended, grown, ← decoded]
      · rw [noBuf, unread]
        exact exactly
      · rw [noBuf]
        rfl
  · cases taken

theorem step_aligned (written : List.Forall₂ Writes messages blocks)
    (aligned : Aligned messages blocks session) {action : Action}
    (allowed : BetweenMessages session action) (taken : session.step action = some next) :
    Aligned messages blocks next := by
  unfold Session.step at taken
  split at taken
  · cases taken
  rename_i notReturned
  have running : session.returned = none := by
    cases returned : session.returned with
    | none => rfl
    | some result => simp [returned] at notReturned
  have ⟨count, decoded, rest⟩ := aligned
  cases action with
  | read size order persists wallMs => exact read_aligned written aligned running taken
  | closedByPeer =>
    simp only at taken
    split at taken
    · cases taken
      exact ⟨count, decoded, fun running => by cases running⟩
    · cases taken
  | outbound frame =>
    have untouched := allowed rfl
    cases frame with
    | none =>
      cases taken
      exact ⟨count, decoded, fun running => by cases running⟩
    | some frame =>
      cases taken
      refine ⟨count, decoded, ?_⟩
      rw [← untouched]
      exact rest
  | tick =>
    have untouched := allowed rfl
    cases taken
    refine ⟨count, decoded, ?_⟩
    rw [← untouched]
    exact rest
  | writeFailed error =>
    cases taken
    exact ⟨count, decoded, fun running => by cases running⟩
  | otherTask state =>
    simp only at taken
    split at taken
    · cases taken
      exact ⟨count, decoded, rest⟩
    · cases taken

/-- As long as ticks and outbound frames only win while the pending read has
consumed nothing, the messages a session decodes are the first of those the peer
wrote, for every cutting of the stream into chunks. -/
theorem decoded_between_messages (written : List.Forall₂ Writes messages blocks)
    (state : SyncState)
    (run : Reached BetweenMessages (Session.start state blocks.flatten) session) :
    session.decoded <+: messages := by
  have aligned : Aligned messages blocks session := by
    induction run with
    | start => exact start_aligned messages blocks state
    | step prior allowed taken ih => exact step_aligned written ih allowed taken
  obtain ⟨count, decoded, -⟩ := aligned
  rw [decoded]
  exact List.take_prefix count messages

end

def readChunk (size : Nat) : Action := .read size [] (fun _ => true) 0

def misleadingDelta : SyncMessage := .delta [firstWrite [1, 0, 0, 0, 5, 0, 0, 0, 0]]

def misleadingBytes : List UInt8 :=
  msgDelta :: (beBytes 4 84 ++ (beBytes 4 1 ++ (beBytes 4 76 ++
    (firstWrite [1, 0, 0, 0, 5, 0, 0, 0, 0]).fields.flatten)))

theorem misleading_bytes_written : Writes misleadingDelta misleadingBytes :=
  ⟨by simp [misleadingDelta, SyncMessage.FitsWidths, first_write_fits], [], trivial, rfl⟩

def misleadingStart : Session :=
  Session.start (SyncState.new (peerNumber 2)) [misleadingBytes].flatten

theorem uninterrupted_read_decodes :
    ∃ session, Reached BetweenMessages misleadingStart session ∧ session.decoded ≠ [] ∧
      session.decoded <+: [misleadingDelta] := by
  have decoded : (misleadingStart.steps
      [readChunk 1, readChunk 4, readChunk 74, readChunk 10]).map Session.decoded =
        some [misleadingDelta] := by
    decide
  obtain ⟨session, taken, result⟩ := Option.map_eq_some_iff.mp decoded
  have reads : ∀ current, ∀ action ∈ [readChunk 1, readChunk 4, readChunk 74, readChunk 10],
      BetweenMessages current action := by
    intro current action member cancels
    simp only [List.mem_cons, List.not_mem_nil, or_false] at member
    rcases member with rfl | rfl | rfl | rfl <;> cases cancels
  have run := reached_of_steps .start reads taken
  refine ⟨session, run, ?_, ?_⟩
  · rw [result]
    exact List.cons_ne_nil _ _
  · exact decoded_between_messages (.cons misleading_bytes_written .nil) _ run

/-- A tick wins while ten bytes of the only message are unread; these are then
decoded as an empty `Delta`, which the peer never wrote. -/
theorem interrupted_read_misaligned :
    Writes misleadingDelta misleadingBytes ∧
      ∃ session, Reached (fun _ _ => True) misleadingStart session ∧
        ¬session.decoded <+: [misleadingDelta] := by
  have decoded : (misleadingStart.steps
      [readChunk 1, readChunk 4, readChunk 74, .tick, readChunk 1, readChunk 4,
        readChunk 5]).map Session.decoded = some [.delta []] := by
    decide
  obtain ⟨session, taken, result⟩ := Option.map_eq_some_iff.mp decoded
  have run := reached_of_steps .start (fun _ _ _ => trivial) taken
  refine ⟨misleading_bytes_written, session, run, ?_⟩
  rw [result]
  decide

end Stitch.P2P.SessionLoop
