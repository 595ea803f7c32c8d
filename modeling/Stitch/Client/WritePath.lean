import Stitch.Foundation.GuardedRuns
import Stitch.Client.Consolidation

/-!
# The write path: direct sends, the offline queue and its flushes

A local write queues a row and sends it directly when the store is connected; the answer
decides whether the row is taken out again. A flush sends a snapshot of the queue. Every point
at which the code waits is a step. Beside the queue the model keeps a history of what was
queued and of what the broker answered.
-/

namespace Stitch.Client.WritePath

open Foundation.FiniteMap Mutations Consolidation

inductive QueueKind where
  | persistent
  | inMemory
  deriving DecidableEq

abbrev Answer := Except Error Unit

/-- How far a `create`, `update` or `delete` has come after queueing its row. -/
inductive CallPhase where
  | queued
  | answered (answer : Answer)
  | removes (answer : Answer)
  | deleting (recordIds : List String)
  deriving DecidableEq

structure Call where
  row : StoredRow
  phase : CallPhase
  deriving DecidableEq

/-- A flush in progress: the mutations of its snapshot it has not sent yet, and the
record ids it has yet to take out of the queue. -/
structure FlushRun where
  toSend : List ConsolidatedMutation
  toRemove : List String
  deriving DecidableEq

/-- One answer of the broker, and the queued rows it was given for. -/
structure Verdict where
  recordIds : List String
  key : RowKey
  op : Operation
  data : Option Record
  answer : Answer
  deriving DecidableEq

/-- What was queued and answered, the rows that were reported missing or refused and not queued
for insertion since, and the record ids of the updates and deletes of such rows. -/
structure History where
  queued : List StoredRow
  verdicts : List Verdict
  missing : List RowKey
  refused : List RowKey
  excused : List String
  deriving DecidableEq

structure QueueState where
  kind : QueueKind
  rows : List StoredRow
  calls : List Call
  flush : Option FlushRun
  history : History
  deriving DecidableEq

def QueueState.empty (kind : QueueKind) : QueueState := ⟨kind, [], [], none, ⟨[], [], [], [], []⟩⟩

inductive Reaction where
  | remove
  | removeUnlessInserting
  | notify
  | leave
  deriving DecidableEq

def createReaction : Answer → Reaction
  | .ok _ => .remove
  | .error err =>
    if err.isTransient then .notify
    else if err.isConflict || err.isOwnership then .remove
    else if err.isTerminalPublishRejection then .remove
    else .leave

def editReaction : Answer → Reaction
  | .ok _ => .remove
  | .error err =>
    if err.isOwnership || err.isTerminalPublishRejection then .remove
    else if err.isNotFound then .removeUnlessInserting
    else if err.isTransient then .notify
    else .leave

def updateReaction : Answer → Reaction := editReaction

def deleteReaction : Answer → Reaction := editReaction

def reaction : Operation → Answer → Reaction
  | .insert => createReaction
  | .update => updateReaction
  | .delete => deleteReaction

/-- The key by which `remove` selects rows: entity, id, scope and operation. -/
def sameSlot (left right : StoredRow) : Bool :=
  left.entity == right.entity && left.entityId == right.entityId &&
    left.scopeId == right.scopeId && left.op == right.op

def hasPendingInsert (rows : List StoredRow) (key : RowKey) : Bool :=
  rows.any (fun row => row.key == key && row.op == .insert)

/-- What the sender answers for one mutation of a flush: to the attempt, to reading the
row, and to the mutation sent in its place. -/
structure FlushAnswers where
  attempt : Answer
  read : Except Error (Option Record)
  resent : Answer
  deriving DecidableEq

inductive FlushOutcome where
  | drop
  | dropRejected
  | keep
  deriving DecidableEq

def sends (mutation : ConsolidatedMutation) : Bool :=
  mutation.op == .delete || mutation.data.isSome

def resentOutcome : Answer → FlushOutcome
  | .ok _ => .drop
  | .error err => if err.isTransient then .keep else .drop

def replayOrRejectInsert (mutation : ConsolidatedMutation) (answers : FlushAnswers) :
    FlushOutcome :=
  match answers.read with
  | .ok (some _) => if mutation.data.isSome then resentOutcome answers.resent else .drop
  | .ok none => .dropRejected
  | .error err => if err.isTransient then .keep else .dropRejected

def recreateMissing (answers : FlushAnswers) : FlushOutcome :=
  match answers.read with
  | .ok (some _) => resentOutcome answers.resent
  | .ok none => .drop
  | .error err => if err.isTransient then .keep else .drop

def flushOutcome (root : String) (mutation : ConsolidatedMutation) (answers : FlushAnswers) :
    FlushOutcome :=
  if sends mutation then
    match answers.attempt with
    | .ok _ => .drop
    | .error err =>
      if err.isTransient then .keep
      else if err.isConflict && mutation.op == .insert then replayOrRejectInsert mutation answers
      else if err.isOwnership && mutation.op == .insert then .dropRejected
      else if err.isOwnership then .drop
      else if err.isNotFound && mutation.op == .delete then .drop
      else if err.isNotFound && mutation.op == .update && mutation.entity == root then .drop
      else if err.isNotFound && mutation.op == .update then recreateMissing answers
      else if err.isNotFound && mutation.op == .insert then .keep
      else if err.isTerminalPublishRejection && mutation.op == .insert then .dropRejected
      else .drop
  else .drop

def verdictOn (mutation : ConsolidatedMutation) (op : Operation)
    (data : Option Record) (answer : Answer) : Verdict :=
  ⟨mutation.recordIds, mutation.key, op, data, answer⟩

/-- The mutation sent in place of a conflicting insert or of an update of a missing row. -/
def resentVerdict (root : String) (mutation : ConsolidatedMutation) (answers : FlushAnswers) :
    List Verdict :=
  match answers.attempt, answers.read with
  | .error err, .ok (some full) =>
    if err.isConflict && mutation.op == .insert && mutation.data.isSome then
      [verdictOn mutation .update mutation.data answers.resent]
    else if err.isNotFound && mutation.op == .update && mutation.entity != root then
      [verdictOn mutation .insert (some full) answers.resent]
    else []
  | _, _ => []

def flushVerdicts (root : String) (mutation : ConsolidatedMutation) (answers : FlushAnswers) :
    List Verdict :=
  if sends mutation then
    verdictOn mutation mutation.op mutation.data answers.attempt ::
      resentVerdict root mutation answers
  else []

/-- The answer settles the mutation: it was acknowledged, or refused and not retried. An
insert whose scope the broker does not know yet is retried. -/
def Verdict.isFinal (verdict : Verdict) : Bool :=
  match verdict.answer with
  | .ok _ => true
  | .error err => !err.isTransient && !(err.isNotFound && verdict.op == .insert)

/-- The broker acknowledged or terminally refused the row's mutation or one that includes
it, or the row it edits was refused or reported missing. -/
def History.Resolved (history : History) (row : StoredRow) : Prop :=
  (∃ verdict ∈ history.verdicts, row.recordId ∈ verdict.recordIds ∧ verdict.isFinal = true) ∨
    row.recordId ∈ history.excused

instance (history : History) (row : StoredRow) : Decidable (history.Resolved row) :=
  inferInstanceAs (Decidable (_ ∨ _))

def editsOf (key : RowKey) (rows : List StoredRow) : List String :=
  (rows.filter (fun row => row.key = key ∧ row.op ≠ .insert)).map StoredRow.recordId

/-- The row queued for insertion is another one than those that were missing or refused. -/
def History.noteQueued (history : History) (row : StoredRow) : History :=
  { queued := history.queued ++ [row]
    verdicts := history.verdicts
    missing :=
      if row.op = .insert then history.missing.filter (· ≠ row.key) else history.missing
    refused :=
      if row.op = .insert then history.refused.filter (· ≠ row.key) else history.refused
    excused :=
      if row.op ≠ .insert ∧ (history.missing ++ history.refused).contains row.key then
        row.recordId :: history.excused
      else history.excused }

def History.noteMissing (history : History) (key : RowKey) : History :=
  { history with
    missing := key :: history.missing
    excused := editsOf key history.queued ++ history.excused }

/-- A refused insert takes the edits queued after it along. -/
def History.noteRefused (history : History) (key : RowKey) (recordIds : List String) : History :=
  { history with
    refused := key :: history.refused
    excused := editsOf key (history.queued.dropWhile (fun row => row.recordId ∉ recordIds)) ++
      history.excused }

def QueueState.call? (state : QueueState) (recordId : String) : Option Call :=
  state.calls.find? (fun call => call.row.recordId = recordId)

def QueueState.setPhase (state : QueueState) (recordId : String) (phase : CallPhase) : QueueState :=
  { state with calls := state.calls.map (fun call =>
      if call.row.recordId = recordId then { call with phase := phase } else call) }

def QueueState.finish (state : QueueState) (recordId : String) : QueueState :=
  { state with calls := state.calls.filter (fun call => call.row.recordId ≠ recordId) }

def QueueState.note (state : QueueState) (verdicts : List Verdict) : QueueState :=
  { state with history := { state.history with verdicts := state.history.verdicts ++ verdicts } }

def QueueState.beginCall (state : QueueState) (row : StoredRow) : Option QueueState :=
  if row.recordId ∉ state.history.queued.map StoredRow.recordId ∧
      row.data.isSome = (row.op != .delete) then
    some { state with
      rows := state.rows ++ [row]
      calls := state.calls ++ [⟨row, .queued⟩]
      history := state.history.noteQueued row }
  else none

def QueueState.returnOffline (state : QueueState) (recordId : String) : Option QueueState :=
  match state.call? recordId with
  | some ⟨_, .queued⟩ => some (state.finish recordId)
  | _ => none

def QueueState.sendDirect (state : QueueState) (recordId : String) (answer : Answer) :
    Option QueueState :=
  match state.call? recordId with
  | some ⟨row, .queued⟩ =>
    some ((state.setPhase recordId (.answered answer)).note
      [⟨[row.recordId], row.key, row.op, row.data, answer⟩])
  | _ => none

def QueueState.react (state : QueueState) (recordId : String) : Option QueueState :=
  match state.call? recordId with
  | some ⟨row, .answered answer⟩ =>
    match reaction row.op answer with
    | .remove =>
      let removing := state.setPhase recordId (.removes answer)
      -- a refused create rolls the local row back before it clears its queue rows
      if row.op = .insert ∧ answer ≠ .ok () then
        some { removing with history := state.history.noteRefused row.key [row.recordId] }
      else some removing
    | .removeUnlessInserting =>
      if hasPendingInsert state.rows row.key then some (state.finish recordId)
      else
        some { state.setPhase recordId (.removes answer) with
          history := state.history.noteMissing row.key }
    | .notify => some (state.finish recordId)
    | .leave => some (state.finish recordId)
  | _ => none

/-- `remove`: the in-memory queue drops the matching rows at once, the persistent one lists
their record ids and deletes them one after the other. -/
def QueueState.removeRows (state : QueueState) (recordId : String) (listed : List String) :
    Option QueueState :=
  match state.call? recordId with
  | some ⟨row, .removes _⟩ =>
    match state.kind with
    | .inMemory =>
      some { state.finish recordId with
        rows := state.rows.filter (fun other => !sameSlot row other) }
    | .persistent =>
      if listed.Perm ((state.rows.filter (sameSlot row)).map StoredRow.recordId) then
        some (state.setPhase recordId (.deleting listed))
      else none
  | _ => none

def QueueState.removeFails (state : QueueState) (recordId : String) : Option QueueState :=
  match state.call? recordId with
  | some ⟨_, .removes _⟩ => if state.kind = .persistent then some (state.finish recordId) else none
  | _ => none

def QueueState.deleteRow (state : QueueState) (recordId : String) (deleted : Bool) : QueueState :=
  if deleted then
    { state with rows := state.rows.filter (fun row => row.recordId ≠ recordId) }
  else state

def QueueState.deleteListed (state : QueueState) (recordId : String) (deleted : Bool) :
    Option QueueState :=
  match state.call? recordId with
  | some ⟨_, .deleting []⟩ => some (state.finish recordId)
  | some ⟨_, .deleting (first :: rest)⟩ =>
    some ((state.setPhase recordId (.deleting rest)).deleteRow first deleted)
  | _ => none

/-- What the queue may return as its rows: the persistent one lists them in any order. -/
def Lists (kind : QueueKind) (listed rows : List StoredRow) : Prop :=
  match kind with
  | .persistent => listed.Perm rows
  | .inMemory => listed = rows

instance (kind : QueueKind) (listed rows : List StoredRow) : Decidable (Lists kind listed rows) :=
  match kind with
  | .persistent => inferInstanceAs (Decidable (listed.Perm rows))
  | .inMemory => inferInstanceAs (Decidable (listed = rows))

theorem lists_mem_iff {kind : QueueKind} {listed rows : List StoredRow}
    (lists : Lists kind listed rows) (row : StoredRow) : row ∈ listed ↔ row ∈ rows := by
  cases kind with
  | persistent => exact List.Perm.mem_iff lists
  | inMemory =>
    have same : listed = rows := lists
    rw [same]

def QueueState.beginFlush (state : QueueState) (listed : List StoredRow) (order : List RowKey) :
    Option QueueState :=
  if state.flush = none ∧ Lists state.kind listed state.rows ∧ Visits order (groupRows listed) then
    if listed = [] then some state
    else some { state with flush := some ⟨consolidate order listed, []⟩ }
  else none

def reportsMissing (mutation : ConsolidatedMutation) (answers : FlushAnswers) : Bool :=
  sends mutation && mutation.op != .insert &&
    match answers.attempt with
    | .ok _ => false
    | .error err => err.isNotFound

def History.afterFlushed (history : History) (root : String) (mutation : ConsolidatedMutation)
    (answers : FlushAnswers) : History :=
  let answered :=
    { history with verdicts := history.verdicts ++ flushVerdicts root mutation answers }
  let told :=
    if reportsMissing mutation answers then answered.noteMissing mutation.key else answered
  if flushOutcome root mutation answers = .dropRejected then
    told.noteRefused mutation.key mutation.recordIds
  else told

theorem after_flushed_queued (history : History) (root : String)
    (mutation : ConsolidatedMutation) (answers : FlushAnswers) :
    (history.afterFlushed root mutation answers).queued = history.queued ∧
      (history.afterFlushed root mutation answers).verdicts =
        history.verdicts ++ flushVerdicts root mutation answers := by
  unfold History.afterFlushed
  split_ifs <;> exact ⟨rfl, rfl⟩

def QueueState.sendFlush (state : QueueState) (root : String) (answers : FlushAnswers) :
    Option QueueState :=
  match state.flush with
  | some ⟨mutation :: rest, toRemove⟩ =>
    -- the persistent queue deletes the rows of a mutation before it sends the next one
    if state.kind = .persistent ∧ toRemove ≠ [] then none
    else
      some { state with
        history := state.history.afterFlushed root mutation answers
        flush := some ⟨rest,
          if flushOutcome root mutation answers = .keep then toRemove
          else toRemove ++ mutation.recordIds⟩ }
  | _ => none

def QueueState.deleteFlushed (state : QueueState) (deleted : Bool) : Option QueueState :=
  match state.kind, state.flush with
  | .persistent, some ⟨toSend, first :: rest⟩ =>
    some { state.deleteRow first deleted with flush := some ⟨toSend, rest⟩ }
  | _, _ => none

def QueueState.endFlush (state : QueueState) : Option QueueState :=
  match state.kind, state.flush with
  | .persistent, some ⟨[], []⟩ => some { state with flush := none }
  | .inMemory, some ⟨[], toRemove⟩ =>
    some { state with
      rows := state.rows.filter (fun row => row.recordId ∉ toRemove)
      flush := none }
  | _, _ => none

def unsent (flush : Option FlushRun) : List ConsolidatedMutation :=
  match flush with
  | some run => run.toSend
  | none => []

/-- The record ids a flush has in hand: those it will still send and those it has sent and
will take out. -/
def inHand (flush : Option FlushRun) : List String :=
  match flush with
  | some run => run.toRemove ++ run.toSend.flatMap ConsolidatedMutation.recordIds
  | none => []

theorem mem_in_hand {flush : Option FlushRun} {mutation : ConsolidatedMutation}
    {recordId : String} (pending : mutation ∈ unsent flush)
    (included : recordId ∈ mutation.recordIds) : recordId ∈ inHand flush := by
  cases flush with
  | none => cases pending
  | some run =>
    exact List.mem_append_right _ (List.mem_flatMap.mpr ⟨mutation, pending, included⟩)

inductive Action where
  | begin (row : StoredRow)
  | returnOffline (recordId : String)
  | send (recordId : String) (answer : Answer)
  | react (recordId : String)
  | remove (recordId : String) (listed : List String)
  | removeFails (recordId : String)
  | deleteListed (recordId : String) (deleted : Bool)
  | beginFlush (listed : List StoredRow) (order : List RowKey)
  | sendFlush (answers : FlushAnswers)
  | deleteFlushed (deleted : Bool)
  | endFlush
  deriving DecidableEq

def QueueState.step (root : String) (state : QueueState) : Action → Option QueueState
  | .begin row => state.beginCall row
  | .returnOffline recordId => state.returnOffline recordId
  | .send recordId answer => state.sendDirect recordId answer
  | .react recordId => state.react recordId
  | .remove recordId listed => state.removeRows recordId listed
  | .removeFails recordId => state.removeFails recordId
  | .deleteListed recordId deleted => state.deleteListed recordId deleted
  | .beginFlush listed order => state.beginFlush listed order
  | .sendFlush answers => state.sendFlush root answers
  | .deleteFlushed deleted => state.deleteFlushed deleted
  | .endFlush => state.endFlush

end Stitch.Client.WritePath
