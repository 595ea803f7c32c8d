import Stitch.Client.PersistentQueue
import Stitch.Foundation.TwoRuns

/-!
# What the users of one queue see of each other

A call is confined when the rows its filter selects are rows of the user that is set. Three
filters are not confined by themselves: the one of `has_pending_insert`, and those of `remove`
and `pending_for_scope` when no user is set.
-/

namespace Stitch.Client.UserIsolation

open Foundation.FallibleState Foundation.TwoRuns Mutations Consolidation PersistentQueue
open WritePath (Verdict FlushAnswers flushVerdicts resentVerdict)

def selects (call : QueueCall) (user : Option String) (row : QueuedRow) : Bool :=
  match call with
  | .setAuthenticatedUser _ => false
  | .queue _ => false
  | .remove entity entityId scopeId op => slotFilter entity entityId scopeId op user row
  | .flush => user.any (fun name => ownFilter name row)
  | .clear => user.any (fun name => ownFilter name row)
  | .pendingForScope scopeId => scopeFilter scopeId user row
  | .hasPendingInsert entity entityId => insertFilter entity entityId row

def Confined (queue : PersistentOfflineQueue) (request : Request) : Prop :=
  ∀ row ∈ queue.rows, selects request.call queue.authenticatedUser row = true →
    queue.authenticatedUser = some row.userId

/-- The record id the runtime generates is not in use. -/
def Fresh (queue : PersistentOfflineQueue) (request : Request) : Prop :=
  ∀ row ∈ queue.rows, row.recordId ≠ request.around.newId

def own (user : Option String) (rows : List QueuedRow) : List QueuedRow :=
  rows.filter (fun row => user == some row.userId)

theorem mem_own {user : Option String} {rows : List QueuedRow} {row : QueuedRow} :
    row ∈ own user rows ↔ row ∈ rows ∧ user = some row.userId := by
  rw [own, List.mem_filter, beq_iff_eq]

section

variable {user : Option String} {queue : PersistentOfflineQueue}

theorem own_delete (user : Option String) (queue : PersistentOfflineQueue) (recordId : String) :
    own user (queue.delete recordId).rows =
      (own user queue.rows).filter (fun row => row.recordId ≠ recordId) := by
  exact List.filter_comm _ _ _

variable {row : QueuedRow}

theorem own_put (user : Option String) (fresh : ∀ held ∈ queue.rows, held.recordId ≠ row.recordId) :
    own user (queue.put row).rows = own user queue.rows ++ own user [row] := by
  have kept : (queue.delete row.recordId).rows = queue.rows := by
    apply List.filter_eq_self.mpr
    intro held member
    exact decide_eq_true (fresh held member)
  change own user ((queue.delete row.recordId).rows ++ [row]) = _
  rw [kept]
  exact List.filter_append _ _

theorem filter_own {filter : QueuedRow → Bool}
    (confined : ∀ row ∈ queue.rows, filter row = true → user = some row.userId) :
    queue.rows.filter filter = (own user queue.rows).filter filter := by
  rw [own, List.filter_filter]
  apply List.filter_congr
  intro row member
  cases selected : filter row with
  | false => rfl
  | true => rw [confined row member selected, beq_self_eq_true, Bool.and_self]

theorem row_of_record_id {other : QueuedRow} (held : row ∈ queue.rows)
    (alsoHeld : other ∈ queue.rows) (same : row.recordId = other.recordId) : row = other :=
  List.inj_on_of_nodup_map queue.distinct held alsoHeld same

variable {filter : QueuedRow → Bool} (around : Surroundings)

/-- Two queues a call with this filter cannot tell apart. -/
structure Alike (user : Option String) (filter : QueuedRow → Bool)
    (first second : PersistentOfflineQueue) : Prop where
  root : first.rootEntity = second.rootEntity
  user_first : first.authenticatedUser = user
  user_second : second.authenticatedUser = user
  rows : own user first.rows = own user second.rows
  confined_first : ∀ row ∈ first.rows, filter row = true → user = some row.userId
  confined_second : ∀ row ∈ second.rows, filter row = true → user = some row.userId

variable {first second : PersistentOfflineQueue}

theorem Alike.listing (alike : Alike user filter first second) :
    first.rows.filter filter = second.rows.filter filter := by
  rw [filter_own alike.confined_first, filter_own alike.confined_second, alike.rows]

theorem Alike.delete (alike : Alike user filter first second) (recordId : String) :
    Alike user filter (first.delete recordId) (second.delete recordId) where
  root := alike.root
  user_first := alike.user_first
  user_second := alike.user_second
  rows := by rw [own_delete, own_delete, alike.rows]
  confined_first := fun row held => alike.confined_first row (List.mem_of_mem_filter held)
  confined_second := fun row held => alike.confined_second row (List.mem_of_mem_filter held)

theorem agrees_list_rows : Agrees (Alike user filter) (listRows around filter) := by
  apply agrees_bind (agrees_settle _)
  intro _
  apply agrees_inspect
  intro first second alike
  rw [alike.listing]

theorem agrees_remove_records (recordIds : List String) :
    Agrees (Alike user filter) (removeRecords around recordIds) := by
  apply agrees_each
  intro recordId
  split
  · exact agrees_change (fun _ _ alike => alike.delete recordId)
  · exact agrees_pure ()

theorem agrees_flush_consolidated (root : String) (mutations : List ConsolidatedMutation) :
    Agrees (Alike user filter) (flushConsolidated around root mutations) := by
  induction mutations with
  | nil => exact agrees_pure _
  | cons mutation rest ih =>
    have later : Agrees (Alike user filter)
        (flushConsolidated around root rest >>= fun flushed =>
          pure (flushed.add root mutation (around.answers mutation))) :=
      agrees_bind ih (fun _ => agrees_pure _)
    unfold flushConsolidated
    split
    · exact agrees_bind (agrees_remove_records around _) (fun _ => later)
    · exact later

theorem agrees_of_user {Result : Type} {next : Option String → QueueM Result}
    (agrees : Agrees (Alike user filter) (next user)) :
    Agrees (Alike user filter) (inspect PersistentOfflineQueue.authenticatedUser >>= next) := by
  intro first second alike
  rw [bind_inspect, bind_inspect, alike.user_first, alike.user_second]
  exact agrees first second alike

theorem agrees_clear (user : Option String) :
    Agrees (Alike user (selects .clear user)) (clear around) := by
  apply agrees_of_user
  cases user with
  | none => exact agrees_pure ()
  | some name =>
    apply agrees_bind (agrees_list_rows around)
    intro rows
    exact agrees_remove_records around _

theorem agrees_do_flush (user : Option String) :
    Agrees (Alike user (selects .flush user)) (doFlush around) := by
  apply agrees_of_user
  cases user with
  | none => exact agrees_pure Flushed.empty
  | some name =>
    apply agrees_bind (agrees_list_rows around)
    intro rows
    split
    · exact agrees_pure Flushed.empty
    · apply agrees_bind (agrees_inspect (fun _ _ alike => alike.root))
      intro root
      exact agrees_flush_consolidated around root _

theorem agrees_remove (user : Option String) (entity entityId scopeId : String)
    (op : Operation) :
    Agrees (Alike user (selects (.remove entity entityId scopeId op) user))
      (remove around entity entityId scopeId op) := by
  apply agrees_of_user
  apply agrees_bind (agrees_list_rows around)
  intro rows
  exact agrees_remove_records around _

theorem agrees_pending_for_scope (user : Option String) (scopeId : String) :
    Agrees (Alike user (selects (.pendingForScope scopeId) user))
      (pendingForScope around scopeId) := by
  apply agrees_of_user
  apply agrees_bind (agrees_list_rows around)
  intro rows
  exact agrees_pure _

theorem agrees_has_pending_insert (user : Option String) (entity entityId : String) :
    Agrees (Alike user (selects (.hasPendingInsert entity entityId) user))
      (hasPendingInsert around entity entityId) := by
  apply agrees_bind (agrees_list_rows around)
  intro rows
  exact agrees_pure _

variable {other : Option String} {recordIds : List String} {start : PersistentOfflineQueue}

/-- What a call of one user leaves to another. -/
structure Spared (other : Option String) (start queue : PersistentOfflineQueue) : Prop where
  root : queue.rootEntity = start.rootEntity
  user : queue.authenticatedUser = start.authenticatedUser
  rows : own other queue.rows = own other start.rows

theorem Spared.refl (other : Option String) (queue : PersistentOfflineQueue) :
    Spared other queue queue :=
  ⟨rfl, rfl, rfl⟩

/-- The rows are spared, and none of them has one of the record ids. -/
structure Spares (other : Option String) (recordIds : List String)
    (start queue : PersistentOfflineQueue) : Prop extends Spared other start queue where
  foreign : ∀ row ∈ queue.rows, row.recordId ∈ recordIds → other ≠ some row.userId

theorem Spares.delete (spares : Spares other recordIds start queue) {recordId : String}
    (listed : recordId ∈ recordIds) : Spares other recordIds start (queue.delete recordId) where
  root := spares.root
  user := spares.user
  rows := by
    rw [own_delete, ← spares.rows, List.filter_eq_self]
    intro row held
    obtain ⟨member, named⟩ := mem_own.mp held
    apply decide_eq_true
    intro same
    exact spares.foreign row member (same ▸ listed) named
  foreign := fun row held => spares.foreign row (List.mem_of_mem_filter held)

theorem keeps_remove_records {removed : List String}
    (listed : ∀ recordId ∈ removed, recordId ∈ recordIds) :
    Keeps (Spares other recordIds start) (removeRecords around removed) := by
  apply keeps_each
  intro recordId member
  split
  · exact keeps_change (fun _ spares => spares.delete (listed recordId member))
  · exact keeps_pure ()

theorem keeps_flush_consolidated (root : String) {mutations : List ConsolidatedMutation}
    (listed : ∀ mutation ∈ mutations, ∀ recordId ∈ mutation.recordIds, recordId ∈ recordIds) :
    Keeps (Spares other recordIds start) (flushConsolidated around root mutations) := by
  induction mutations with
  | nil => exact keeps_pure _
  | cons mutation rest ih =>
    have later : Keeps (Spares other recordIds start)
        (flushConsolidated around root rest >>= fun flushed =>
          pure (flushed.add root mutation (around.answers mutation))) := by
      refine keeps_bind (ih ?_) (fun _ => keeps_pure _)
      intro flushed member
      exact listed flushed (List.mem_cons_of_mem mutation member)
    unfold flushConsolidated
    split
    · apply keeps_bind
      · exact keeps_remove_records around (listed mutation List.mem_cons_self)
      · intro _
        exact later
    · exact later

theorem list_rows_run (filter : QueuedRow → Bool) (queue : PersistentOfflineQueue) :
    listRows around filter queue =
      (around.listed.map (fun _ =>
        (around.scan (queue.rows.filter filter)).map QueuedRow.stored), queue) := by
  unfold listRows
  cases listed : around.listed with
  | error failure | ok done => rfl

def selectedIds (filter : QueuedRow → Bool) (queue : PersistentOfflineQueue) : List String :=
  (queue.rows.filter filter).map QueuedRow.recordId

variable {filter : QueuedRow → Bool}

theorem mem_selected_ids {row : StoredRow}
    (listed : row ∈ (around.scan (queue.rows.filter filter)).map QueuedRow.stored) :
    row.recordId ∈ selectedIds filter queue := by
  obtain ⟨queued, member, stored⟩ := List.mem_map.mp listed
  rw [← stored]
  exact List.mem_map_of_mem ((around.scans _).mem_iff.mp member)

theorem selected_spare
    (confined : ∀ row ∈ queue.rows, filter row = true → queue.authenticatedUser = some row.userId)
    (differs : queue.authenticatedUser ≠ other) :
    Spares other (selectedIds filter queue) queue queue where
  toSpared := Spared.refl other queue
  foreign := by
    intro row held named owned
    obtain ⟨selected, member, same⟩ := List.mem_map.mp named
    obtain ⟨present, passes⟩ := List.mem_filter.mp member
    have one := row_of_record_id present held same
    rw [one] at passes
    exact differs ((confined row held passes).trans owned.symm)

variable {Result : Type}

theorem listing_spares {next : List StoredRow → QueueM Result}
    (confined : ∀ row ∈ queue.rows, filter row = true → queue.authenticatedUser = some row.userId)
    (differs : queue.authenticatedUser ≠ other)
    (kept : ∀ rows : List StoredRow, (∀ row ∈ rows, row.recordId ∈ selectedIds filter queue) →
      Keeps (Spares other (selectedIds filter queue) queue) (next rows)) :
    Spared other queue ((listRows around filter >>= next) queue).2 := by
  have listing := list_rows_run around filter queue
  cases listed : around.listed with
  | error failure =>
    rw [listed] at listing
    rw [bind_of_error listing]
    exact Spared.refl other queue
  | ok done =>
    rw [listed] at listing
    rw [bind_of_ok listing]
    exact (kept _ (fun row member => mem_selected_ids around member) queue
      (selected_spare confined differs)).toSpared

theorem remove_listed_spares
    (confined : ∀ row ∈ queue.rows, filter row = true → queue.authenticatedUser = some row.userId)
    (differs : queue.authenticatedUser ≠ other) :
    Spared other queue
      ((listRows around filter >>= fun rows =>
        removeRecords around (rows.map StoredRow.recordId)) queue).2 := by
  apply listing_spares around confined differs
  intro rows selected
  apply keeps_remove_records
  intro recordId named
  obtain ⟨row, member, same⟩ := List.mem_map.mp named
  rw [← same]
  exact selected row member

theorem own_filter_confined {name : String} (current : queue.authenticatedUser = some name) :
    ∀ row ∈ queue.rows, ownFilter name row = true →
      queue.authenticatedUser = some row.userId := by
  intro row _ owned
  rw [current, eq_of_beq owned]

theorem clear_spares (differs : queue.authenticatedUser ≠ other) :
    Spared other queue (clear around queue).2 := by
  unfold clear
  rw [bind_inspect]
  cases current : queue.authenticatedUser with
  | none => exact Spared.refl other queue
  | some name => exact remove_listed_spares around (own_filter_confined current) differs

theorem do_flush_spares (differs : queue.authenticatedUser ≠ other) :
    Spared other queue (doFlush around queue).2 := by
  unfold doFlush
  rw [bind_inspect]
  cases current : queue.authenticatedUser with
  | none => exact Spared.refl other queue
  | some name =>
    apply listing_spares around (own_filter_confined current) differs
    intro rows selected
    split
    · exact keeps_pure Flushed.empty
    · refine keeps_bind (keeps_inspect _) ?_
      intro root
      apply keeps_flush_consolidated
      intro mutation member recordId named
      obtain ⟨key, made⟩ := mem_consolidate member
      obtain ⟨row, grouped, same⟩ := consolidate_group_rows made recordId named
      rw [← same]
      exact selected row (List.mem_of_mem_filter grouped)

theorem queue_spares (mutation : PendingMutation)
    (fresh : ∀ row ∈ queue.rows, row.recordId ≠ around.newId)
    (differs : queue.authenticatedUser ≠ other) :
    Spared other queue (PersistentQueue.queue around mutation queue).2 := by
  unfold PersistentQueue.queue
  rw [bind_inspect]
  cases current : queue.authenticatedUser with
  | none => exact Spared.refl other queue
  | some name =>
    cases created : around.created with
    | error failure => exact Spared.refl other queue
    | ok done =>
      refine ⟨rfl, rfl, ?_⟩
      change own other (queue.put (queueRow around mutation name)).rows = _
      have foreign : own other [queueRow around mutation name] = [] := by
        apply List.filter_eq_nil_iff.mpr
        intro row member named
        rw [List.mem_singleton.mp member] at named
        exact differs (current.trans (eq_of_beq named).symm)
      rw [own_put other fresh, foreign, List.append_nil]

def isRemove (call : QueueCall) : Bool :=
  match call with
  | .remove _ _ _ _ => true
  | _ => false

def asUser (user : Option String) (queue : PersistentOfflineQueue) : PersistentOfflineQueue :=
  { queue with authenticatedUser := user }

def userAfter (call : QueueCall) (user : Option String) : Option String :=
  match call with
  | .setAuthenticatedUser next => next
  | _ => user

theorem Spared.packed {Result : Type} {program : QueueM Result}
    (spared : Spared other queue (program queue).2) (value : Result → Returned) :
    Spared other queue ((program >>= fun result => pure (value result)) queue).2 := by
  rw [state_then_pure]
  exact spared

theorem listing_is_spared (filter : QueuedRow → Bool) (value : List StoredRow → Result) :
    Spared other queue ((listRows around filter >>= fun rows => pure (value rows)) queue).2 := by
  rw [state_then_pure, list_rows_run]
  exact Spared.refl other queue

theorem perform_spares {request : Request} (fresh : Fresh queue request)
    (removes : isRemove request.call = true → Confined queue request)
    (differs : queue.authenticatedUser ≠ other) :
    Spared other (asUser (userAfter request.call queue.authenticatedUser) queue)
      (perform request queue).2 := by
  cases request with
  | mk call around =>
    cases call with
    | setAuthenticatedUser next => exact ⟨rfl, rfl, rfl⟩
    | queue mutation => exact (queue_spares around mutation fresh differs).packed _
    | remove entity entityId scopeId op =>
      exact (remove_listed_spares around (removes rfl) differs).packed _
    | flush => exact (do_flush_spares around differs).packed _
    | clear => exact (clear_spares around differs).packed _
    | pendingForScope scopeId => exact (listing_is_spared around _ _).packed _
    | hasPendingInsert entity entityId => exact (listing_is_spared around _ _).packed _

variable {root recordId : String} {mutation : ConsolidatedMutation} {answers : FlushAnswers}
  {verdict : Verdict} {flushed : Flushed} {after : PersistentOfflineQueue}

theorem resent_verdict_ids (sent : verdict ∈ resentVerdict root mutation answers) :
    verdict.recordIds = mutation.recordIds := by
  unfold resentVerdict at sent
  split at sent
  · split_ifs at sent with conflict missing
    · rw [List.mem_singleton.mp sent]
      rfl
    · rw [List.mem_singleton.mp sent]
      rfl
    · cases sent
  · cases sent

theorem flush_verdict_ids (sent : verdict ∈ flushVerdicts root mutation answers) :
    verdict.recordIds = mutation.recordIds := by
  unfold flushVerdicts at sent
  split at sent
  · cases sent with
    | head => rfl
    | tail _ later => exact resent_verdict_ids later
  · cases sent

theorem deleted_entity_ids (sent : verdict ∈ deletedEntity root mutation answers) :
    verdict.recordIds = mutation.recordIds := by
  unfold deletedEntity at sent
  split at sent
  · cases sent
  · split at sent
    · rw [List.mem_singleton.mp sent]
      rfl
    · cases sent

theorem flushed_add_sent {later : Flushed} (sent : verdict ∈ (later.add root mutation answers).sent)
    :
    verdict.recordIds = mutation.recordIds ∨ verdict ∈ later.sent := by
  change verdict ∈ flushVerdicts root mutation answers ++ deletedEntity root mutation answers ++
    later.sent at sent
  rw [List.mem_append, List.mem_append] at sent
  cases sent with
  | inl now =>
    cases now with
    | inl mutated => exact Or.inl (flush_verdict_ids mutated)
    | inr deleted => exact Or.inl (deleted_entity_ids deleted)
  | inr before => exact Or.inr before

theorem flush_consolidated_sent {mutations : List ConsolidatedMutation}
    (ran : flushConsolidated around root mutations queue = (.ok flushed, after))
    (sent : verdict ∈ flushed.sent) :
    ∃ mutation ∈ mutations, verdict.recordIds = mutation.recordIds := by
  induction mutations generalizing queue flushed after with
  | nil =>
    cases ran
    cases sent
  | cons mutation rest ih =>
    have finish : ∀ start, (flushConsolidated around root rest >>= fun later =>
        pure (later.add root mutation (around.answers mutation))) start = (.ok flushed, after) →
          ∃ found ∈ mutation :: rest, verdict.recordIds = found.recordIds := by
      intro start finished
      obtain ⟨later, final, ranLater, added⟩ := bind_ok_iff.mp finished
      cases added
      cases flushed_add_sent sent with
      | inl now => exact ⟨mutation, List.mem_cons_self, now⟩
      | inr before =>
        obtain ⟨found, member, same⟩ := ih ranLater before
        exact ⟨found, List.mem_cons_of_mem mutation member, same⟩
    unfold flushConsolidated at ran
    split at ran
    · obtain ⟨_, start, _, finished⟩ := bind_ok_iff.mp ran
      exact finish start finished
    · exact finish queue ran

theorem do_flush_sent (ran : doFlush around queue = (.ok flushed, after))
    (sent : verdict ∈ flushed.sent) (named : recordId ∈ verdict.recordIds) :
    ∃ row ∈ own queue.authenticatedUser queue.rows, row.recordId = recordId := by
  unfold doFlush at ran
  rw [bind_inspect] at ran
  cases current : queue.authenticatedUser with
  | none =>
    rw [current] at ran
    cases ran
    cases sent
  | some name =>
    rw [current] at ran
    obtain ⟨rows, middle, listing, worked⟩ := bind_ok_iff.mp ran
    rw [list_rows_run] at listing
    cases listed : around.listed with
    | error failure =>
      rw [listed] at listing
      cases listing
    | ok done =>
      rw [listed] at listing
      cases listing
      split at worked
      · cases worked
        cases sent
      · obtain ⟨mutation, member, same⟩ := flush_consolidated_sent around worked sent
        rw [same] at named
        obtain ⟨key, made⟩ := mem_consolidate member
        obtain ⟨stored, grouped, recorded⟩ := consolidate_group_rows made recordId named
        obtain ⟨row, scanned, held⟩ := List.mem_map.mp (List.mem_of_mem_filter grouped)
        obtain ⟨present, owned⟩ := List.mem_filter.mp ((around.scans _).mem_iff.mp scanned)
        refine ⟨row, mem_own.mpr ⟨present, congrArg some (eq_of_beq owned).symm⟩, ?_⟩
        rw [← recorded, ← held]
        rfl

theorem perform_sent {request : Request}
    (returned : (perform request queue).1 = .ok (.flushed flushed)) (sent : verdict ∈ flushed.sent)
    (named : recordId ∈ verdict.recordIds) :
    ∃ row ∈ own queue.authenticatedUser queue.rows, row.recordId = recordId := by
  have ran : perform request queue = (.ok (.flushed flushed), (perform request queue).2) :=
    Prod.ext returned rfl
  cases request with
  | mk call around =>
    cases call with
    | flush =>
      obtain ⟨result, middle, flushes, packed⟩ := bind_ok_iff.mp ran
      cases packed
      exact do_flush_sent around flushes sent named
    | _ =>
      obtain ⟨result, middle, _, packed⟩ := bind_ok_iff.mp ran
      cases packed

/-- The same user is set, and the watched user has the same rows. -/
structure SameFor (user : Option String) (first second : PersistentOfflineQueue) : Prop where
  root : first.rootEntity = second.rootEntity
  current : first.authenticatedUser = second.authenticatedUser
  rows : own user first.rows = own user second.rows

theorem Alike.same {filter : QueuedRow → Bool} (alike : Alike user filter first second) :
    SameFor user first second :=
  ⟨alike.root, alike.user_first.trans alike.user_second.symm, alike.rows⟩

variable {request : Request}

theorem SameFor.alike (same : SameFor user first second) (current : first.authenticatedUser = user)
    (confined : Confined first request) (confinedSecond : Confined second request) :
    Alike user (selects request.call user) first second where
  root := same.root
  user_first := current
  user_second := same.current.symm.trans current
  rows := same.rows
  confined_first := by
    intro row held
    rw [← current]
    exact confined row held
  confined_second := by
    intro row held
    rw [← current, same.current]
    exact confinedSecond row held

theorem queue_agrees (around : Surroundings) (mutation : PendingMutation)
    (same : SameFor user first second)
    (fresh : ∀ row ∈ first.rows, row.recordId ≠ around.newId)
    (freshSecond : ∀ row ∈ second.rows, row.recordId ≠ around.newId) :
    (PersistentQueue.queue around mutation first).1 =
        (PersistentQueue.queue around mutation second).1 ∧
      SameFor user (PersistentQueue.queue around mutation first).2
        (PersistentQueue.queue around mutation second).2 := by
  unfold PersistentQueue.queue
  rw [bind_inspect, bind_inspect, ← same.current]
  cases first.authenticatedUser with
  | none => exact ⟨rfl, same⟩
  | some name =>
    cases around.created with
    | error failure => exact ⟨rfl, same⟩
    | ok done =>
      refine ⟨rfl, same.root, same.current, ?_⟩
      change own user (first.put (queueRow around mutation name)).rows =
        own user (second.put (queueRow around mutation name)).rows
      rw [own_put user fresh, own_put user freshSecond, same.rows]

theorem perform_agrees (same : SameFor user first second) (current : first.authenticatedUser = user)
    (confined : Confined first request) (confinedSecond : Confined second request)
    (fresh : Fresh first request) (freshSecond : Fresh second request) :
    (perform request first).1 = (perform request second).1 ∧
      SameFor user (perform request first).2 (perform request second).2 := by
  have alike := same.alike current confined confinedSecond
  have served : Agrees (Alike user (selects request.call user)) (perform request) →
      (perform request first).1 = (perform request second).1 ∧
        SameFor user (perform request first).2 (perform request second).2 := by
    intro agrees
    obtain ⟨answers, after⟩ := agrees first second alike
    exact ⟨answers, after.same⟩
  cases request with
  | mk call around =>
    cases call with
    | setAuthenticatedUser next => exact ⟨rfl, same.root, rfl, same.rows⟩
    | queue mutation =>
      obtain ⟨answers, after⟩ := queue_agrees around mutation same fresh freshSecond
      have performed : perform ⟨.queue mutation, around⟩ =
          (PersistentQueue.queue around mutation >>= fun _ => pure .nothing) := rfl
      have returned : ∀ queue,
          ((PersistentQueue.queue around mutation >>= fun _ => pure .nothing) queue).1 =
            (PersistentQueue.queue around mutation queue).1.bind
              (fun _ => .ok Returned.nothing) := by
        intro queue
        rw [outcome_bind (fun _ => .ok Returned.nothing) (fun _ _ => rfl)]
      rw [performed, returned first, returned second, answers, state_then_pure,
        state_then_pure]
      exact ⟨rfl, after⟩
    | remove entity entityId scopeId op =>
      exact served (agrees_bind (agrees_remove around user entity entityId scopeId op)
        (fun _ => agrees_pure _))
    | flush => exact served (agrees_bind (agrees_do_flush around user) (fun _ => agrees_pure _))
    | clear => exact served (agrees_bind (agrees_clear around user) (fun _ => agrees_pure _))
    | pendingForScope scopeId =>
      exact served (agrees_bind (agrees_pending_for_scope around user scopeId)
        (fun _ => agrees_pure _))
    | hasPendingInsert entity entityId =>
      exact served (agrees_bind (agrees_has_pending_insert around user entity entityId)
        (fun _ => agrees_pure _))

/-- The record id is new, and the filter is confined if the user makes the call or if
the call removes what it lists. -/
def Isolated (user : Option String) (queue : PersistentOfflineQueue) (request : Request) : Prop :=
  Fresh queue request ∧
    (queue.authenticatedUser = user ∨ isRemove request.call = true → Confined queue request)

instance (queue : PersistentOfflineQueue) (request : Request) :
    Decidable (Confined queue request) :=
  inferInstanceAs (Decidable (∀ row ∈ queue.rows, _ → _))

instance (queue : PersistentOfflineQueue) (request : Request) :
    Decidable (Fresh queue request) :=
  inferInstanceAs (Decidable (∀ row ∈ queue.rows, _))

instance (user : Option String) (queue : PersistentOfflineQueue) (request : Request) :
    Decidable (Isolated user queue request) :=
  inferInstanceAs (Decidable (_ ∧ (_ ∨ _ → _)))

/-- The answers that a sequence of calls gives while the user is set, and the queue
after it. -/
def answersTo (user : Option String) (queue : PersistentOfflineQueue) (requests : List Request) :
    List (Except Error Returned) × PersistentOfflineQueue :=
  serveAll serve (fun queue => queue.authenticatedUser == user) queue requests

variable {request : Request}

theorem confined_of_user {queue : PersistentOfflineQueue} {name : String}
    (current : queue.authenticatedUser = some name)
    (other : ∀ entity entityId, request.call ≠ .hasPendingInsert entity entityId) :
    Confined queue request := by
  intro row _ selected
  rw [current] at selected
  have ofName : row.userId == name → queue.authenticatedUser = some row.userId := by
    intro owned
    rw [current, eq_of_beq owned]
  cases request with
  | mk call around =>
    cases call with
    | setAuthenticatedUser next | queue mutation => cases selected
    | remove entity entityId scopeId op => exact ofName (Bool.and_eq_true_iff.mp selected).2
    | flush | clear => exact ofName selected
    | pendingForScope scopeId => exact ofName (Bool.and_eq_true_iff.mp selected).2
    | hasPendingInsert entity entityId => exact absurd rfl (other entity entityId)

theorem step_same {user : Option String} {first second : PersistentOfflineQueue}
    (same : SameFor user first second) (isolated : Isolated user first request)
    (isolatedSecond : Isolated user second request) :
    ((first.authenticatedUser == user) = true →
      (perform request first).1 = (perform request second).1) ∧
      SameFor user (perform request first).2 (perform request second).2 := by
  by_cases current : first.authenticatedUser = user
  · have currentSecond : second.authenticatedUser = user := same.current.symm.trans current
    obtain ⟨answers, after⟩ := perform_agrees same current (isolated.2 (Or.inl current))
      (isolatedSecond.2 (Or.inl currentSecond)) isolated.1 isolatedSecond.1
    exact ⟨fun _ => answers, after⟩
  · refine ⟨fun watched => absurd (eq_of_beq watched) current, ?_⟩
    have currentSecond : second.authenticatedUser ≠ user := by
      rw [← same.current]
      exact current
    have spared := perform_spares isolated.1
      (fun removes => isolated.2 (Or.inr removes)) current
    have sparedSecond := perform_spares isolatedSecond.1
      (fun removes => isolatedSecond.2 (Or.inr removes)) currentSecond
    exact {
      root := (spared.root.trans same.root).trans sparedSecond.root.symm
      current := by
        rw [spared.user, sparedSecond.user, same.current]
        rfl
      rows := (spared.rows.trans same.rows).trans sparedSecond.rows.symm }

/-- Users that share the queue do not see each other. In two queues that differ in the rows
of other users, a sequence of calls gives the same answers while the user is set and
leaves the user with the same rows. No call removes a row of a user that is not set or
sends one. All this needs calls whose filters are confined, as those of every call but
`has_pending_insert` are while a user is set. -/
theorem users_are_isolated {user : Option String} {first second : PersistentOfflineQueue}
    {requests : List Request} (same : SameFor user first second)
    (isolated : Meets serve (Isolated user) first requests)
    (isolatedSecond : Meets serve (Isolated user) second requests) :
    ((answersTo user first requests).1 = (answersTo user second requests).1 ∧
      own user (answersTo user first requests).2.rows =
        own user (answersTo user second requests).2.rows) ∧
    (∀ (queue : PersistentOfflineQueue) (request : Request), Fresh queue request →
      (isRemove request.call = true → Confined queue request) →
      ∀ row ∈ queue.rows, queue.authenticatedUser ≠ some row.userId →
        row ∈ (serve request queue).2.rows) ∧
    (∀ (queue : PersistentOfflineQueue) (request : Request) (flushed : Flushed),
      (serve request queue).1 = .ok (.flushed flushed) →
      ∀ verdict ∈ flushed.sent, ∀ recordId ∈ verdict.recordIds,
        ∃ row ∈ queue.rows, row.recordId = recordId ∧
          queue.authenticatedUser = some row.userId) ∧
    (∀ (queue : PersistentOfflineQueue) (request : Request),
      queue.authenticatedUser.isSome = true →
      (∀ entity entityId, request.call ≠ .hasPendingInsert entity entityId) →
        Confined queue request) := by
  refine ⟨?_, ?_, ?_, ?_⟩
  · have agreed : (answersTo user first requests).1 = (answersTo user second requests).1 ∧
        SameFor user (answersTo user first requests).2 (answersTo user second requests).2 := by
      apply serve_all_agrees _ _ same isolated isolatedSecond
      · intro left right related
        rw [related.current]
      · intro left right request related allowed allowedSecond
        exact step_same related allowed allowedSecond
    exact ⟨agreed.1, agreed.2.rows⟩
  · intro queue request fresh removes row held foreign
    have spared := (perform_spares fresh removes foreign).rows
    have kept : row ∈ own (some row.userId) (perform request queue).2.rows := by
      rw [spared]
      exact mem_own.mpr ⟨held, rfl⟩
    exact (mem_own.mp kept).1
  · intro queue request flushed returned verdict sent recordId named
    obtain ⟨row, owned, recorded⟩ := perform_sent returned sent named
    obtain ⟨held, current⟩ := mem_own.mp owned
    exact ⟨row, held, recorded, current⟩
  · intro queue request someUser other
    obtain ⟨name, current⟩ := Option.isSome_iff_exists.mp someUser
    exact confined_of_user current other

def calm (newId : String) : Surroundings where
  newId := newId
  nowMillis := 5
  created := .ok ()
  listed := .ok ()
  deletes := fun _ => true
  scan := id
  scans := fun rows => List.Perm.refl rows
  order := [("task", "t1"), ("task", "t2")]
  answers := fun _ => ⟨.ok (), .ok none, .ok ()⟩

def insertOf (id : String) : PendingMutation :=
  ⟨.insert, "task", id, "b1", some ∅, 1⟩

def emptyQueue : PersistentOfflineQueue := ⟨"board", none, [], List.nodup_nil⟩

def leftBehind : PersistentOfflineQueue :=
  emptyQueue.put (queueRow (calm "q1") (insertOf "t1") "user-1")

/-- Another user queues a task, looks at the scope, removes the first task and flushes. -/
def visit : List Request :=
  [⟨.setAuthenticatedUser (some "user-2"), calm "q2"⟩, ⟨.queue (insertOf "t2"), calm "q3"⟩,
    ⟨.pendingForScope "b1", calm "q4"⟩, ⟨.remove "task" "t1" "b1" .insert, calm "q5"⟩,
    ⟨.flush, calm "q6"⟩]

/-- The visitor gets the answers of an empty queue, and what was there stays. -/
theorem visitor_is_isolated :
    (answersTo (some "user-2") leftBehind visit).1 =
        (answersTo (some "user-2") emptyQueue visit).1 ∧
      (answersTo (some "user-2") leftBehind visit).2.rows = leftBehind.rows := by
  have same : SameFor (some "user-2") leftBehind emptyQueue := ⟨rfl, rfl, by decide⟩
  have isolated : Meets serve (Isolated (some "user-2")) leftBehind visit := by decide
  have isolatedSecond : Meets serve (Isolated (some "user-2")) emptyQueue visit := by
    decide
  exact ⟨(users_are_isolated same isolated isolatedSecond).1.1, by decide⟩

/-- The insert of one user answers `has_pending_insert` for another; with no user set, a
scope shows the rows of all users, and `remove` deletes them. -/
theorem unfiltered_calls_reach_other_users :
    ((serve ⟨.hasPendingInsert "task" "t1", calm "q2"⟩ (asUser (some "user-2") leftBehind)).1 =
        .ok (.inserting true) ∧
      (serve ⟨.hasPendingInsert "task" "t1", calm "q2"⟩ (asUser (some "user-2") emptyQueue)).1 =
        .ok (.inserting false)) ∧
    ((serve ⟨.pendingForScope "b1", calm "q2"⟩ leftBehind).1 = .ok (.pending [insertOf "t1"]) ∧
      (serve ⟨.pendingForScope "b1", calm "q2"⟩ emptyQueue).1 = .ok (.pending [])) ∧
    (leftBehind.authenticatedUser = none ∧
      own (some "user-1") leftBehind.rows ≠ [] ∧
      (serve ⟨.remove "task" "t1" "b1" .insert, calm "q2"⟩ leftBehind).2.rows = []) := by
  refine ⟨?_, ?_, ?_⟩
  · decide
  · decide
  · decide

end

end Stitch.Client.UserIsolation
