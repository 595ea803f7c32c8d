import Stitch.Client.WritePath
import Stitch.Foundation.FallibleState

/-!
# The queue shared by the users of a device

Transcription of `PersistentOfflineQueue`: every call lists the rows its own filter selects, and
rows are deleted by their record id. Calls come one after the other, so the flag that keeps two
flushes apart is always free.
-/

namespace Stitch.Client.PersistentQueue

open Foundation.FallibleState Mutations Consolidation WritePath

structure QueuedRow where
  stored : StoredRow
  userId : String
  deriving DecidableEq

def QueuedRow.recordId (row : QueuedRow) : String := row.stored.recordId

structure PersistentOfflineQueue where
  rootEntity : String
  authenticatedUser : Option String
  rows : List QueuedRow
  distinct : (rows.map QueuedRow.recordId).Nodup

namespace PersistentOfflineQueue

def delete (queue : PersistentOfflineQueue) (recordId : String) : PersistentOfflineQueue :=
  { queue with
    rows := queue.rows.filter (fun row => row.recordId ≠ recordId)
    distinct := queue.distinct.sublist (List.filter_sublist.map _) }

def put (queue : PersistentOfflineQueue) (row : QueuedRow) : PersistentOfflineQueue :=
  { queue with
    rows := (queue.delete row.recordId).rows ++ [row]
    distinct := by
      rw [List.map_append]
      refine (queue.delete row.recordId).distinct.append (List.nodup_singleton _) ?_
      intro recordId kept added
      obtain ⟨other, held, named⟩ := List.mem_map.mp kept
      have differs := of_decide_eq_true (List.mem_filter.mp held).2
      exact differs (named.trans (List.mem_singleton.mp added)) }

end PersistentOfflineQueue

/-- The runtime's ids and clock, the answers of the database and the sender, and the orders in which
rows are listed and a hash map is iterated. -/
structure Surroundings where
  newId : String
  nowMillis : Nat
  created : Except Error Unit
  listed : Except Error Unit
  deletes : String → Bool
  scan : List QueuedRow → List QueuedRow
  scans : ∀ rows, (scan rows).Perm rows
  order : List RowKey
  answers : ConsolidatedMutation → FlushAnswers

structure PendingMutation where
  op : Operation
  entity : String
  id : String
  scopeId : String
  data : Option Record
  createdAt : Nat
  deriving DecidableEq

def pendingFromRow (row : StoredRow) : PendingMutation where
  op := row.op
  entity := row.entity
  id := row.entityId
  scopeId := row.scopeId
  data := row.data
  createdAt := row.createdAt

structure RejectedInsert where
  entity : String
  id : String
  scopeId : String
  deriving DecidableEq

structure FlushSummary where
  retained : Nat
  rejectedInserts : List RejectedInsert
  deriving DecidableEq

structure Flushed where
  summary : FlushSummary
  sent : List Verdict
  deriving DecidableEq

def Flushed.empty : Flushed := ⟨⟨0, []⟩, []⟩

section

/-- The filter on the user, which is left out when no user is set. -/
def ofUser (user : Option String) (row : QueuedRow) : Bool :=
  match user with
  | some name => row.userId == name
  | none => true

def slotFilter (entity entityId scopeId : String) (op : Operation) (user : Option String)
    (row : QueuedRow) : Bool :=
  row.stored.entity == entity && row.stored.entityId == entityId &&
    row.stored.scopeId == scopeId && row.stored.op == op && ofUser user row

def scopeFilter (scopeId : String) (user : Option String) (row : QueuedRow) : Bool :=
  row.stored.scopeId == scopeId && ofUser user row

/-- The filter of the calls that return early when no user is set. -/
def ownFilter (user : String) (row : QueuedRow) : Bool := row.userId == user

def insertFilter (entity entityId : String) (row : QueuedRow) : Bool :=
  row.stored.entity == entity && row.stored.entityId == entityId && row.stored.op == .insert

end

abbrev QueueM := Fallible PersistentOfflineQueue Error

section

variable (around : Surroundings)

def listRows (selects : QueuedRow → Bool) : QueueM (List StoredRow) := do
  settle around.listed
  inspect (fun queue => (around.scan (queue.rows.filter selects)).map QueuedRow.stored)

def removeRecords (recordIds : List String) : QueueM Unit :=
  each (fun recordId =>
    if around.deletes recordId then change (fun queue => queue.delete recordId)
    else pure ()) recordIds

def queueRow (mutation : PendingMutation) (user : String) : QueuedRow where
  stored :=
    { recordId := around.newId
      op := mutation.op
      entity := mutation.entity
      entityId := mutation.id
      scopeId := mutation.scopeId
      data := mutation.data
      createdAt := if mutation.createdAt = 0 then around.nowMillis else mutation.createdAt }
  userId := user

/-- Without a user the mutation is dropped. -/
def queue (mutation : PendingMutation) : QueueM Unit := do
  match ← inspect PersistentOfflineQueue.authenticatedUser with
  | none => pure ()
  | some user => do
    settle around.created
    change (fun queue => queue.put (queueRow around mutation user))

def remove (entity entityId scopeId : String) (op : Operation) : QueueM Unit := do
  let user ← inspect PersistentOfflineQueue.authenticatedUser
  let rows ← listRows around (slotFilter entity entityId scopeId op user)
  removeRecords around (rows.map StoredRow.recordId)

/-- A root row that is gone from the broker is deleted in place of its update. -/
def deletedEntity (root : String) (mutation : ConsolidatedMutation) (answers : FlushAnswers) :
    List Verdict :=
  match answers.attempt with
  | .ok _ => []
  | .error err =>
    if sends mutation && err.isNotFound && mutation.op == .update && mutation.entity == root then
      [verdictOn mutation .delete none answers.resent]
    else []

def Flushed.add (later : Flushed) (root : String) (mutation : ConsolidatedMutation)
    (answers : FlushAnswers) : Flushed where
  summary :=
    match flushOutcome root mutation answers with
    | .drop => later.summary
    | .dropRejected =>
      { later.summary with rejectedInserts :=
          ⟨mutation.entity, mutation.id, mutation.scopeId⟩ :: later.summary.rejectedInserts }
    | .keep => { later.summary with retained := later.summary.retained + 1 }
  sent := flushVerdicts root mutation answers ++ deletedEntity root mutation answers ++ later.sent

def flushConsolidated (root : String) : List ConsolidatedMutation → QueueM Flushed
  | [] => pure Flushed.empty
  | mutation :: rest => do
    if flushOutcome root mutation (around.answers mutation) ≠ .keep then
      removeRecords around mutation.recordIds
    let later ← flushConsolidated root rest
    pure (later.add root mutation (around.answers mutation))

def doFlush : QueueM Flushed := do
  match ← inspect PersistentOfflineQueue.authenticatedUser with
  | none => pure Flushed.empty
  | some user => do
    let rows ← listRows around (ownFilter user)
    if rows = [] then pure Flushed.empty
    else do
      let root ← inspect PersistentOfflineQueue.rootEntity
      flushConsolidated around root (consolidate around.order rows)

def clear : QueueM Unit := do
  match ← inspect PersistentOfflineQueue.authenticatedUser with
  | none => pure ()
  | some user => do
    let rows ← listRows around (ownFilter user)
    removeRecords around (rows.map StoredRow.recordId)

def pendingForScope (scopeId : String) : QueueM (List PendingMutation) := do
  let user ← inspect PersistentOfflineQueue.authenticatedUser
  let rows ← listRows around (scopeFilter scopeId user)
  pure (rows.map pendingFromRow)

def hasPendingInsert (entity entityId : String) : QueueM Bool := do
  let rows ← listRows around (insertFilter entity entityId)
  pure (!rows.isEmpty)

end

def setAuthenticatedUser (user : Option String) : QueueM Unit :=
  change (fun queue => { queue with authenticatedUser := user })

inductive QueueCall where
  | setAuthenticatedUser (user : Option String)
  | queue (mutation : PendingMutation)
  | remove (entity entityId scopeId : String) (op : Operation)
  | flush
  | clear
  | pendingForScope (scopeId : String)
  | hasPendingInsert (entity entityId : String)

inductive Returned where
  | nothing
  | flushed (flushed : Flushed)
  | pending (mutations : List PendingMutation)
  | inserting (found : Bool)
  deriving DecidableEq

structure Request where
  call : QueueCall
  around : Surroundings

def perform (request : Request) : QueueM Returned :=
  match request.call with
  | .setAuthenticatedUser user => do
    setAuthenticatedUser user
    pure .nothing
  | .queue mutation => do
    queue request.around mutation
    pure .nothing
  | .remove entity entityId scopeId op => do
    remove request.around entity entityId scopeId op
    pure .nothing
  | .flush => do
    let flushed ← doFlush request.around
    pure (.flushed flushed)
  | .clear => do
    clear request.around
    pure .nothing
  | .pendingForScope scopeId => do
    let mutations ← pendingForScope request.around scopeId
    pure (.pending mutations)
  | .hasPendingInsert entity entityId => do
    let found ← hasPendingInsert request.around entity entityId
    pure (.inserting found)

def serve (request : Request) (queue : PersistentOfflineQueue) :
    Except Error Returned × PersistentOfflineQueue :=
  perform request queue

end Stitch.Client.PersistentQueue
