import Stitch.Client.LocalRows
import Stitch.Client.WritePath

/-!
# Mutations sent to the broker

Transcription of the mutating requests of `sync_engine.rs`, of their wrappers in
`remote_sync.rs` and of what `Store::create` and `Store::update_if` make of the outcome. A
mutation of a child row is two requests; the second bumps the version of the scope. How the
broker handles the coming requests is part of the state.
-/

namespace Stitch.Client.SyncRequests

open Foundation.FiniteMap Foundation.FallibleState Mutations Consolidation LocalRows WritePath

section

/-- A response object: its fields, and the fields of `data` when that is an object. -/
structure Response where
  fields : Record
  data : Option Record
  deriving DecidableEq

def Response.text (response : Response) (field : String) : Option String :=
  (response.fields.lookup field).bind Value.asStr

def Response.nonEmptyText (response : Response) (field : String) : Option String :=
  (response.text field).filter (fun text => !text.isEmpty)

def Response.isError (response : Response) : Bool := response.text "status" == some "error"

inductive Reply where
  | publishRejected (reasonCode : UInt8)
  | publishFailed (text : String)
  | connectionClosed
  | timedOut
  | unreadable
  | notObject
  | answered (response : Response)
  deriving DecidableEq

def Reply.refuses : Reply → Bool
  | .publishRejected _ => true
  | .answered response => response.isError
  | _ => false

def Reply.acknowledges : Reply → Bool
  | .answered response => !response.isError
  | _ => false

/-- The broker means what it replies; without a reply either may have happened. -/
structure Handled where
  reply : Reply
  applied : Bool
  refused : reply.refuses = true → applied = false
  acknowledged : reply.acknowledges = true → applied = true
  deriving DecidableEq

def Response.code (response : Response) : Nat :=
  ((response.fields.lookup "code").bind Value.asU64).getD 0

def refusalError (response : Response) (entity id : String) : Error :=
  let message := (response.text "message").getD "operation failed"
  let entity := (response.nonEmptyText "entity").getD entity
  let id := (response.nonEmptyText "id").getD id
  match response.code with
  | 400 => .rejected message
  | 401 => .sessionInvalid
  | 403 => .ownership entity id
  | 404 => .notFound entity id
  | 409 => .conflict entity id
  | 412 => .preconditionFailed entity id
  | _ => .mqtt message

def checkResponse (response : Response) (entity id : String) : Except Error Unit :=
  if !response.isError then .ok () else .error (refusalError response entity id)

def extractId (response : Response) : Except Error String :=
  match response.data with
  | none => .error (.mqtt "response missing data object")
  | some data =>
    match (data.lookup "id").bind Value.asStr with
    | some id => .ok id
    | none => .error (.mqtt "response missing data.id")

def extractVersion (response : Response) : Except Error Nat :=
  match response.data.bind (fun data => (data.lookup "_version").bind Value.asU64) with
  | some version => .ok version
  | none => .error (.mqtt "response missing data._version")

structure Request where
  topic : String
  payload : Record
  deriving DecidableEq

structure Engine where
  topicBase : String
  requestTimeoutMs : Nat
  nowMs : Nat
  replies : List Handled
  issued : List Request
  appliedVersion : HashMap String Nat

abbrev SyncM := Fallible Engine Error

def i64Max : Nat := 2 ^ 63 - 1

def outcome (timeoutMs : Nat) : Reply → Except Error Response
  | .publishRejected reasonCode => .error (.publishRejected reasonCode)
  | .publishFailed text => .error (.mqtt text)
  | .connectionClosed => .error .connectionClosed
  | .timedOut => .error (.timeout timeoutMs)
  | .unreadable => .error .serde
  | .notObject => .error (.mqtt "response was not an object")
  | .answered response => .ok response

/-- A request that the broker never takes up times out. -/
def request (topic : String) (payload : Record) : SyncM Response := fun engine =>
  let issued := engine.issued ++ [⟨topic, payload⟩]
  match engine.replies with
  | [] => (outcome engine.requestTimeoutMs .timedOut, { engine with issued := issued })
  | handled :: rest =>
    (outcome engine.requestTimeoutMs handled.reply,
      { engine with replies := rest, issued := issued })

variable [Database] (config : StoreConfig)

def isChild (entity : String) : Bool := config.childEntities.contains entity

def bumpScopeVersion (scope : String) : SyncM Unit := do
  let now ← inspect (fun engine => min engine.nowMs i64Max)
  let base ← inspect Engine.topicBase
  let payload : Record :=
    ((∅ : Record).insert config.versionField (.number now)).insert config.updatedAtField
      (.number now)
  let response ← request s!"{base}/{config.rootEntity}/{scope}/update" payload
  settle (checkResponse response config.rootEntity scope)
  change (fun engine =>
    { engine with appliedVersion := engine.appliedVersion.insert scope now })

def bumpAfter (entity scope : String) : SyncM Unit :=
  if isChild config entity && !scope.isEmpty then bumpScopeVersion config scope else pure ()

def createData (entity scope : String) (data : Record) : Record :=
  if isChild config entity && (data.lookup config.scopeField).isNone then
    data.insert config.scopeField (.string scope)
  else data

def syncCreate (entity scope : String) (data : Record) : SyncM String := do
  let base ← inspect Engine.topicBase
  let payload := createData config entity scope data
  let createId := (recordId payload).getD ""
  let response ← request s!"{base}/{entity}/create" payload
  settle (checkResponse response entity createId)
  let id ← settle (extractId response)
  bumpAfter config entity scope
  pure id

def syncEdit (verb entity scope id : String) (payload : Record) : SyncM Response := do
  let base ← inspect Engine.topicBase
  let response ← request s!"{base}/{entity}/{id}/{verb}" payload
  settle (checkResponse response entity id)
  bumpAfter config entity scope
  pure response

def syncUpdate (entity scope id : String) (data : Record) : SyncM Unit := do
  let _ ← syncEdit config "update" entity scope id data

def syncDelete (entity scope id : String) : SyncM Unit := do
  let _ ← syncEdit config "delete" entity scope id ∅

def syncUpdateChecked (entity scope id : String) (data : Record) (expectedVersion : Nat) :
    SyncM Nat := do
  let response ← syncEdit config "update" entity scope id
    (data.insert "_expected_version" (.number expectedVersion))
  settle (extractVersion response)

def syncDeleteChecked (entity scope id : String) (expectedVersion : Nat) : SyncM Unit := do
  let _ ← syncEdit config "delete" entity scope id
    ((∅ : Record).insert "_expected_version" (.number expectedVersion))

inductive SyncCall where
  | create (entity scope : String) (data : Record)
  | update (entity scope id : String) (data : Record)
  | delete (entity scope id : String)
  | updateChecked (entity scope id : String) (data : Record) (expectedVersion : Nat)
  | deleteChecked (entity scope id : String) (expectedVersion : Nat)

def SyncCall.entity : SyncCall → String
  | .create entity _ _ => entity
  | .update entity _ _ _ => entity
  | .delete entity _ _ => entity
  | .updateChecked entity _ _ _ _ => entity
  | .deleteChecked entity _ _ _ => entity

def SyncCall.scope : SyncCall → String
  | .create _ scope _ => scope
  | .update _ scope _ _ => scope
  | .delete _ scope _ => scope
  | .updateChecked _ scope _ _ _ => scope
  | .deleteChecked _ scope _ _ => scope

def SyncCall.send : SyncCall → SyncM Unit
  | .create entity scope data => do let _ ← syncCreate config entity scope data
  | .update entity scope id data => syncUpdate config entity scope id data
  | .delete entity scope id => syncDelete config entity scope id
  | .updateChecked entity scope id data expectedVersion => do
    let _ ← syncUpdateChecked config entity scope id data expectedVersion
  | .deleteChecked entity scope id expectedVersion =>
    syncDeleteChecked config entity scope id expectedVersion

inductive EntityRole where
  | root
  | topLevel
  | child
  | unknown
  deriving DecidableEq

def entityRole (entity : String) : EntityRole :=
  if entity = config.rootEntity then .root
  else if config.topLevelEntities.contains entity then .topLevel
  else if config.childEntities.contains entity then .child
  else .unknown

/-- Only mutations of child rows carry their scope to the engine. -/
def outboundScope (entity scope : String) : String :=
  match entityRole config entity with
  | .child => scope
  | _ => ""

def remoteCreate (entity scope : String) (data : Record) : SyncM String :=
  syncCreate config entity (outboundScope config entity scope) data

def remoteUpdateChecked (entity scope id : String) (data : Record) (expectedVersion : Nat) :
    SyncM Nat :=
  syncUpdateChecked config entity (outboundScope config entity scope) id data expectedVersion

def rollbackLocalRow (entity id : String) : StoreM Unit := do
  let _ ← attempt (memoryDelete entity id)
  if ← inspect (fun state => state.persistence.isSome) then
    let _ ← attempt (deleteRow entity id)

/-- Take a mutation out of the queue, if there is one; callers ignore a failure. -/
def removeQueued (entity id scope : String) (op : Operation) : StoreM Unit := do
  if ← inspect (fun state => state.queue.isSome) then
    dbCall
    change (fun state =>
      { state with queue := state.queue.map (fun rows => rows.filter (fun row =>
          !(row.entity == entity && row.entityId == id && row.scopeId == scope &&
            row.op == op))) })

def rollbackLocalCreate (entity id scope : String) : StoreM Unit := do
  rollbackLocalRow entity id
  let _ ← attempt (removeQueued entity id scope .insert)

/-- A local call of `Store::create`: its data, the scope it works in, and the ids and the
time that the runtime supplies. -/
structure CreateCall where
  entity : String
  scopeId : String
  data : Record
  generated : String
  rowId : String
  nowMs : Nat
  connected : Bool

namespace CreateCall

def id (call : CreateCall) : String := (recordId call.data).getD call.generated

def effectiveScope (call : CreateCall) : String :=
  if call.entity = config.rootEntity then call.id else call.scopeId

def row (call : CreateCall) : Record :=
  let data := call.data.insert "id" (.string call.id)
  if isScoped config call.entity && (data.lookup config.scopeField).isNone then
    data.insert config.scopeField (.string (call.effectiveScope config))
  else data

def hasSyncTarget (call : CreateCall) : Bool :=
  !(call.effectiveScope config).isEmpty || config.topLevelEntities.contains call.entity

def pending (call : CreateCall) : StoredRow where
  recordId := call.rowId
  op := .insert
  entity := call.entity
  entityId := call.id
  scopeId := call.effectiveScope config
  data := some (call.row config)
  createdAt := call.nowMs

end CreateCall

def enqueue (row : StoredRow) : StoreM Unit := do
  if ← inspect (fun state => state.queue.isSome) then
    dbCall
    change (fun state => { state with queue := state.queue.map (fun rows => rows ++ [row]) })

/-- What `Store::create` does before it sends: write the row and queue the insert. -/
def createLocally (call : CreateCall) : StoreM Unit := do
  dbCall
  if ← inspect (fun state => (state.memory.rows.lookup (call.entity, call.id)).isSome) then
    settle (.error (.conflict call.entity call.id))
  else do
    memoryCreate config call.entity (call.effectiveScope config) (call.row config)
    if ← inspect (fun state => state.persistence.isSome) then
      let _ ← attempt (accessorCreate config call.entity (call.row config))
    if call.hasSyncTarget config then enqueue (call.pending config)

def createAnswered (entity id scope : String) (answer : Except Error String) : StoreM String :=
  match answer with
  | .ok _ => do
    let _ ← attempt (removeQueued entity id scope .insert)
    pure id
  | .error err =>
    if err.isTransient then pure id
    else if err.isConflict || err.isOwnership then do
      rollbackLocalCreate entity id scope
      settle (.error err)
    else if err.isTerminalPublishRejection then do
      rollbackLocalCreate entity id scope
      settle (.error err)
    else pure id

/-- `Store::create` of a local row; the engine's state is not read again. -/
def create (call : CreateCall) (engine : Engine) : StoreM String := do
  createLocally config call
  let scope := call.effectiveScope config
  if call.connected && call.hasSyncTarget config then
    createAnswered call.entity call.id scope
      (remoteCreate config call.entity scope (call.row config) engine).1
  else pure call.id

def scopeFromRow (entity : String) (row : Record) : Option String :=
  if entity = config.rootEntity then recordId row
  else if config.topLevelEntities.contains entity then some ""
  else refScope config row

def resolveScopeForCas (entity id : String) : StoreM String := do
  dbCall
  let cached ← inspect (fun state => state.memory.rows.lookup (entity, id))
  let existing ← match cached with
    | some row => pure (some row)
    | none => do
      match ← inspect LocalState.persistence with
      | none => pure none
      | some _ => accessorRead entity id
  match existing.bind (scopeFromRow config entity) with
  | some scope => pure scope
  | none => settle (.error (.notFound entity id))

/-- A queue that cannot be read counts as one without an insert. -/
def pendingInsertExists (entity id : String) : StoreM Bool := do
  match ← inspect LocalState.queue with
  | none => pure false
  | some rows =>
    match ← attempt dbCall with
    | .error _ => pure false
    | .ok _ => pure (hasPendingInsert rows (entity, id))

/-- Apply a compare-and-set that succeeded; failures of the local stores are only logged. -/
def applyCas (entity id : String) (fields : Record) (version : Nat) : StoreM Unit := do
  let written := fields.insert "_version" (.number version)
  let _ ← attempt (memoryUpdate entity id written)
  if ← inspect (fun state => state.persistence.isSome) then
    let _ ← attempt (accessorUpdate entity id written)

def dropMissing (entity id : String) (err : Error) : StoreM Unit := do
  if err.isNotFound then
    if !(← pendingInsertExists entity id) then rollbackLocalRow entity id

def casAnswered (entity id : String) (fields : Record) (answer : Except Error Nat) :
    StoreM Nat :=
  match answer with
  | .ok version => do
    applyCas entity id fields version
    pure version
  | .error err => do
    dropMissing entity id err
    settle (.error err)

/-- `Store::update_if` of a store whose remote is configured. -/
def updateIf (entity id : String) (fields : Record) (expectedVersion : Nat) (connected : Bool)
    (engine : Engine) : StoreM Nat := do
  if !connected then settle (.error .connectionClosed)
  else do
    let scope ← resolveScopeForCas config entity id
    casAnswered entity id fields
      (remoteUpdateChecked config entity scope id fields expectedVersion engine).1

end

end Stitch.Client.SyncRequests
