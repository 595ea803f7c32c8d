import Stitch.Client.FlushWakeup

/-!
# Logging out

`reset_for_logout` disconnects the client, resets the state and takes the user from the queue,
while `status_loop`, the `on_connected` it runs and `flush_loop` go on. The client is taken to
accept no publication and to report no connection once it was closed.
-/

namespace Stitch.Client.Logout

open Foundation.GuardedRuns Consolidation WritePath FlushWakeup

inductive ConnectionStatus where
  | offline
  | connecting
  | connected
  | error
  | disconnected
  deriving DecidableEq

inductive LogoutPhase where
  | notCalled
  | disconnected
  | cleared
  | returned
  deriving DecidableEq

/-- The tasks of a store with a remote, the statuses waiting in their channel, and the fields that a
logout resets. -/
structure Session where
  runtime : Runtime
  backfilling : Bool
  waiting : List ConnectionStatus
  client : Bool
  authenticatedUser : Option String
  initialSyncDone : Bool
  lastConnectionStatus : ConnectionStatus
  hasBeenConnected : Bool
  queueUser : Option String
  logout : LogoutPhase
  sent : List ConsolidatedMutation
  deriving DecidableEq

def channelCapacity : Nat := 16

/-- A status is put in the channel; a full channel loses its oldest one. -/
def Session.report (session : Session) (status : ConnectionStatus) : Session :=
  { session with
    waiting := (session.waiting ++ [status]).drop
      (session.waiting.length + 1 - channelCapacity) }

def isConnectionLoss (status : ConnectionStatus) : Bool :=
  status == .disconnected || status == .error

/-- `status_loop` takes a status, and starts `on_connected` when it is applied and connected. -/
def Session.take (session : Session) (status : ConnectionStatus)
    (rest : List ConnectionStatus) : Session :=
  if session.lastConnectionStatus = .offline ∧ isConnectionLoss status = true then
    { session with waiting := rest }
  else if status = .connected then
    { session with
      waiting := rest
      lastConnectionStatus := status
      hasBeenConnected := true
      runtime := { session.runtime with connect := .validating }
      backfilling := false }
  else { session with waiting := rest, lastConnectionStatus := status }

def Session.clear (session : Session) : Session :=
  { session with
    authenticatedUser := none
    initialSyncDone := false
    lastConnectionStatus := .offline
    hasBeenConnected := false
    logout := .cleared }

inductive Happening where
  | report (status : ConnectionStatus)
  | receive
  | background (event : Event)
  | flushOffline
  | flushWithoutUser
  | synced
  | disconnect (closed : Bool)
  | clearState
  | clearQueueUser
  deriving DecidableEq

/-- `do_flush` returns at once when the persistent queue has no user. -/
def Session.canList (session : Session) : Bool :=
  session.runtime.queue.kind != .persistent || session.queueUser.isSome

def failsTransiently (answers : FlushAnswers) : Bool :=
  match answers.attempt with
  | .ok _ => false
  | .error err => err.isTransient

/-- The mutation a step of a flush sends; one without data is not sent. -/
def Session.sending (session : Session) : Event → List ConsolidatedMutation
  | .send _ => ((unsent session.runtime.queue.flush).take 1).filter sends
  | _ => []

/-- The steps of `flush_loop` and `on_connected` that a session lets happen. -/
def Session.lets (session : Session) : Event → Bool
  | .write _ | .connected => false
  | .loopBusy | .loopAcquire => session.lastConnectionStatus == .connected
  | .loopList _ _ | .connectList _ _ => session.canList
  | .connectDone => session.backfilling
  | .send answers => 
    session.client || failsTransiently answers || (session.sending (.send answers)).isEmpty
  | _ => true

def Session.afterEvent (session : Session) (event : Event) (runtime : Runtime) : Session :=
  { session with
    runtime := runtime
    backfilling := session.backfilling && event != .connectDone
    sent := if session.client then session.sent ++ session.sending event else session.sent }

def Session.step (root : String) (session : Session) : Happening → Option Session
  | .report status =>
    if session.client = true ∨ status ≠ .connected then some (session.report status) else none
  | .receive =>
    match session.waiting with
    | [] => none
    | status :: rest =>
      if session.runtime.connect = .idle then some (session.take status rest) else none
  | .background event =>
    if session.lets event then (session.runtime.step root event).map (session.afterEvent event)
    else none
  | .flushOffline =>
    if session.runtime.loop = .checking ∧ session.lastConnectionStatus ≠ .connected then
      some { session with runtime := { session.runtime with loop := .waiting } }
    else none
  | .flushWithoutUser =>
    if session.canList then none
    else if session.runtime.loop = .listing then
      some { session with runtime := { session.runtime with loop := .waiting } }
    else if session.runtime.connect = .listing then
      some { session with runtime := { session.runtime with connect := .syncing } }
    else none
  | .synced =>
    if session.runtime.connect = .syncing ∧ session.backfilling = false then
      some { session with initialSyncDone := true, backfilling := true }
    else none
  | .disconnect closed =>
    if session.logout = .notCalled then
      some { session with client := session.client && !closed, logout := .disconnected }
    else none
  | .clearState => if session.logout = .disconnected then some session.clear else none
  | .clearQueueUser =>
    if session.logout = .cleared then some { session with queueUser := none, logout := .returned }
    else none

/-- The status loop keeps up with the channel, so no status is lost. -/
def Session.keepsUp (session : Session) : Happening → Bool
  | .report _ => session.waiting.length < channelCapacity
  | _ => true

/-- The runs of the tasks and of a logout, without a call of `connect` or `reconnect`. -/
def Runs (root : String) : Session → Session → Prop :=
  Reaches (Session.step root) (fun session happening => session.keepsUp happening = true)

def Session.Settled (session : Session) : Prop :=
  session.waiting = [] ∧ session.runtime.connect = .idle

/-- A connection is still to be taken up, or an `on_connected` runs that has yet to say that the
initial sync is done. -/
def Session.Connecting (session : Session) : Prop :=
  .connected ∈ session.waiting ∨
    (session.runtime.connect ≠ .idle ∧ session.backfilling = false)

section

variable {root : String} {session after : Session}

theorem runtime_step_connect {runtime later : Runtime} {event : Event}
    (taken : runtime.step root event = some later) (begins : event ≠ .connected)
    (ends : event ≠ .connectDone) : later.connect = .idle ↔ runtime.connect = .idle := by
  cases event with
  | connected => exact absurd rfl begins
  | connectDone => exact absurd rfl ends
  | write action =>
    simp only [Runtime.step, Runtime.write] at taken
    split_ifs at taken
    obtain ⟨queue, _, made⟩ := Option.map_eq_some_iff.mp taken
    rw [← made]
  | send answers =>
    simp only [Runtime.step, Runtime.sendNext] at taken
    split at taken
    · obtain ⟨queue, _, made⟩ := Option.map_eq_some_iff.mp taken
      rw [← made]
    · cases taken
  | delete deleted =>
    obtain ⟨queue, _, made⟩ := Option.map_eq_some_iff.mp taken
    rw [← made]
  | connectBusy | connectAcquire | connectListFails =>
    simp only [Runtime.step] at taken
    split_ifs at taken with phase
    cases taken
    simp [phase.1]
  | connectList listed order =>
    simp only [Runtime.step, Runtime.list] at taken
    split_ifs at taken with phase
    obtain ⟨queue, _, made⟩ := Option.map_eq_some_iff.mp taken
    rw [← made, phase]
    split_ifs <;> simp
  | connectEnd =>
    simp only [Runtime.step] at taken
    split_ifs at taken with phase
    obtain ⟨queue, _, made⟩ := Option.map_eq_some_iff.mp taken
    rw [← made, phase]
    simp
  | loopList listed order =>
    simp only [Runtime.step, Runtime.list] at taken
    split_ifs at taken
    obtain ⟨queue, _, made⟩ := Option.map_eq_some_iff.mp taken
    rw [← made]
    split_ifs <;> rfl
  | loopEnd =>
    simp only [Runtime.step] at taken
    split at taken
    · obtain ⟨queue, _, made⟩ := Option.map_eq_some_iff.mp taken
      rw [← made]
    · cases taken
  | wake | loopBusy | loopAcquire | loopListFails | loopRetry =>
    simp only [Runtime.step] at taken
    split_ifs at taken
    cases taken
    rfl

def Session.Owes (session : Session) : Prop :=
  session.initialSyncDone = true ∨ session.Connecting

/-- What a step after the state was cleared, with the client closed, leaves of the logout. -/
structure Course (session after : Session) : Prop where
  client : after.client = false
  past : after.logout = .cleared ∨ after.logout = .returned
  sent : after.sent = session.sent
  owes : after.Owes ↔ session.Owes
  status : after.lastConnectionStatus = .connected →
    session.lastConnectionStatus = .connected ∨ after.Owes

theorem owes_same (done : after.initialSyncDone = session.initialSyncDone)
    (waiting : .connected ∈ after.waiting ↔ .connected ∈ session.waiting)
    (connect : after.runtime.connect = .idle ↔ session.runtime.connect = .idle)
    (backfilling : after.backfilling = session.backfilling) : after.Owes ↔ session.Owes := by
  unfold Session.Owes Session.Connecting
  rw [done, waiting, backfilling, ne_eq, connect]

variable (closed : session.client = false)
  (past : session.logout = .cleared ∨ session.logout = .returned)

include closed past

theorem report_course {status : ConnectionStatus} (other : status ≠ .connected)
    (room : session.waiting.length < channelCapacity) : Course session (session.report status) := by
  have none : session.waiting.length + 1 - channelCapacity = 0 := by omega
  refine ⟨closed, past, rfl, ?_, Or.inl⟩
  refine owes_same rfl ?_ Iff.rfl rfl
  rw [Session.report, none, List.drop_zero, List.mem_append, List.mem_singleton]
  exact or_iff_left (fun same => other same.symm)

theorem take_course {status : ConnectionStatus} {rest : List ConnectionStatus}
    (waiting : session.waiting = status :: rest) : Course session (session.take status rest) := by
  -- a status that is not a connection leaves the connections that wait
  have skipped : status ≠ .connected →
      (.connected ∈ rest ↔ .connected ∈ session.waiting) := by
    intro other
    rw [waiting, List.mem_cons]
    exact (or_iff_right (fun same => other same.symm)).symm
  unfold Session.take
  split_ifs with lost begins
  · refine ⟨closed, past, rfl, owes_same rfl (skipped ?_) Iff.rfl rfl, Or.inl⟩
    intro same
    rw [same] at lost
    exact absurd lost.2 (by decide)
  · have owes : ∀ later : Session, later.runtime.connect = .validating →
        later.backfilling = false → later.Owes := by
      intro later running fresh
      exact Or.inr (Or.inr ⟨by rw [running]; decide, fresh⟩)
    refine ⟨closed, past, rfl, iff_of_true (owes _ rfl rfl) ?_, fun _ => Or.inr (owes _ rfl rfl)⟩
    right
    left
    rw [waiting, begins]
    exact List.mem_cons_self
  · refine ⟨closed, past, rfl, owes_same rfl (skipped begins) Iff.rfl rfl, ?_⟩
    intro same
    exact absurd same begins

theorem background_course {event : Event} {runtime : Runtime} (allowed : session.lets event = true)
    (taken : session.runtime.step root event = some runtime) :
    Course session (session.afterEvent event runtime) := by
  have unsent : (session.afterEvent event runtime).sent = session.sent := by
    simp [Session.afterEvent, closed]
  refine ⟨closed, past, unsent, ?_, Or.inl⟩
  by_cases ends : event = .connectDone
  · subst ends
    have backfilling : session.backfilling = true := allowed
    have idle : runtime.connect = .idle := by
      simp only [Runtime.step] at taken
      split_ifs at taken
      cases taken
      rfl
    simp [Session.Owes, Session.Connecting, Session.afterEvent, backfilling, idle]
  · have begins : event ≠ .connected := by
      intro same
      rw [same] at allowed
      cases allowed
    refine owes_same rfl Iff.rfl (runtime_step_connect taken begins ends) ?_
    simp [Session.afterEvent, ends]

theorem step_course {happening : Happening} (fits : session.keepsUp happening = true)
    (taken : session.step root happening = some after) : Course session after := by
  cases happening with
  | report status =>
    simp only [Session.step] at taken
    split_ifs at taken with other
    cases taken
    exact report_course closed past (other.resolve_left (by simp [closed])) (of_decide_eq_true fits)
  | receive =>
    simp only [Session.step] at taken
    split at taken
    · cases taken
    · next status rest waiting =>
      split_ifs at taken
      cases taken
      exact take_course closed past waiting
  | background event =>
    simp only [Session.step] at taken
    split_ifs at taken with allowed
    obtain ⟨runtime, stepped, made⟩ := Option.map_eq_some_iff.mp taken
    rw [← made]
    exact background_course closed past allowed stepped
  | flushOffline =>
    simp only [Session.step] at taken
    split_ifs at taken
    cases taken
    exact ⟨closed, past, rfl, owes_same rfl Iff.rfl Iff.rfl rfl, Or.inl⟩
  | flushWithoutUser =>
    simp only [Session.step] at taken
    split_ifs at taken with _ _ listing
    · cases taken
      exact ⟨closed, past, rfl, owes_same rfl Iff.rfl Iff.rfl rfl, Or.inl⟩
    · cases taken
      refine ⟨closed, past, rfl, owes_same rfl Iff.rfl ?_ rfl, Or.inl⟩
      simp [listing]
  | synced =>
    simp only [Session.step] at taken
    split_ifs at taken with running
    cases taken
    refine ⟨closed, past, rfl, iff_of_true (Or.inl rfl) ?_, Or.inl⟩
    exact Or.inr (Or.inr ⟨by rw [running.1]; decide, running.2⟩)
  | disconnect answered | clearState =>
    simp only [Session.step] at taken
    split_ifs at taken with early
    rw [early] at past
    simp at past
  | clearQueueUser =>
    simp only [Session.step] at taken
    split_ifs at taken
    cases taken
    exact ⟨closed, Or.inr rfl, rfl, owes_same rfl Iff.rfl Iff.rfl rfl, Or.inl⟩

end

section

variable {root : String} {session final : Session}

/-- Once the state is cleared nothing is sent, and whether the initial sync will be reported done
does not change. -/
theorem run_course (closed : session.client = false)
    (run : Runs root session.clear final) :
    final.client = false ∧ (final.logout = .cleared ∨ final.logout = .returned) ∧
      final.sent = session.sent ∧ (final.Owes ↔ session.Connecting) ∧
      (final.lastConnectionStatus = .connected → final.Owes) := by
  refine reaches_invariant
    (fun state => state.client = false ∧ (state.logout = .cleared ∨ state.logout = .returned) ∧
      state.sent = session.sent ∧ (state.Owes ↔ session.Connecting) ∧
      (state.lastConnectionStatus = .connected → state.Owes)) ?_ ?_ run
  · refine ⟨closed, Or.inl rfl, rfl, ?_, ?_⟩
    · exact or_iff_right (by simp [Session.clear])
    · intro same
      cases same
  · intro before happening after held fits taken
    obtain ⟨shut, past, sent, owes, status⟩ := held
    have course := step_course shut past fits taken
    refine ⟨course.client, course.past, course.sent.trans sent, course.owes.trans owes, ?_⟩
    intro connected
    exact (course.status connected).elim (fun old => course.owes.mpr (status old)) id

/-- Once the client is closed, a logout sticks exactly when, as it clears the state, no
connection waits to be taken up and no `on_connected` has yet to report the initial sync. -/
theorem logout_sticks_iff (closed : session.client = false)
    (run : Runs root session.clear final) (settled : final.Settled) :
    (final.initialSyncDone = false ∧ final.lastConnectionStatus ≠ .connected ∧
        final.sent = session.sent) ↔ ¬ session.Connecting := by
  obtain ⟨_, _, sent, owes, status⟩ := run_course closed run
  have idle : ¬ final.Connecting := by
    intro connecting
    rcases connecting with waits | running
    · rw [settled.1] at waits
      cases waits
    · exact running.1 settled.2
  have reported : final.Owes ↔ final.initialSyncDone = true := or_iff_left idle
  rw [← owes, reported, Bool.not_eq_true]
  constructor
  · intro sticks
    exact sticks.1
  · intro undone
    refine ⟨undone, ?_, sent⟩
    intro connected
    rw [reported.mp (status connected)] at undone
    cases undone

def connectedStore : Session :=
  { runtime := Runtime.start .persistent
    backfilling := false
    waiting := []
    client := true
    authenticatedUser := some "ada"
    initialSyncDone := true
    lastConnectionStatus := .connected
    hasBeenConnected := true
    queueUser := some "ada"
    logout := .notCalled
    sent := [] }

def closedStore : Session := { connectedStore with client := false, logout := .disconnected }

def loggedOut : Session := { closedStore.clear with queueUser := none, logout := .returned }

/-- The status loop is idle; it takes the report that the client was closed. -/
theorem logout_sticks_idle :
    Runs "board" closedStore.clear loggedOut ∧ loggedOut.initialSyncDone = false ∧
      loggedOut.lastConnectionStatus ≠ .connected ∧ loggedOut.sent = closedStore.sent := by
  have followed : replay (Session.step "board") (fun session happening =>
      session.keepsUp happening = true) closedStore.clear
        [.report .disconnected, .clearQueueUser, .receive] = some loggedOut := by decide
  have run : Runs "board" closedStore.clear loggedOut := reaches_of_replay .start followed
  refine ⟨run, (logout_sticks_iff rfl run ⟨rfl, rfl⟩).mpr ?_⟩
  intro connecting
  rcases connecting with waits | running
  · cases waits
  · exact running.1 rfl

def startedStore : Session :=
  { connectedStore with
    initialSyncDone := false
    lastConnectionStatus := .offline
    hasBeenConnected := false }

def revivedStore : Session :=
  { loggedOut with
    initialSyncDone := true
    lastConnectionStatus := .disconnected
    hasBeenConnected := true }

/-- The connection is reported before the logout and taken up after it has returned; the report of
the closed client comes behind it. -/
theorem logout_undone :
    Runs "board" startedStore revivedStore ∧ revivedStore.logout = .returned ∧
      revivedStore.client = false ∧ revivedStore.Settled ∧
      revivedStore.initialSyncDone = true ∧ revivedStore.lastConnectionStatus = .disconnected := by
  refine ⟨reaches_of_replay .start (?_ : replay _ _ _ [.report .connecting, .report .connected,
    .disconnect true, .report .disconnected, .clearState, .clearQueueUser, .receive, .receive,
    .background .connectAcquire, .flushWithoutUser, .synced, .background .connectDone,
    .receive] = _),
    rfl, rfl, ⟨rfl, rfl⟩, rfl, rfl⟩
  decide

end

end Stitch.Client.Logout
