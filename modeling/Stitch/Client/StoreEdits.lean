import Stitch.Foundation.Interleaving
import Stitch.Client.EventReplay
import Stitch.Client.SyncRequests

/-!
# Updates and deletes of a row

Transcription of `Store::update` and `Store::delete` as sequences of atomic steps, one for
each call of the database, the queue and the remote. Both keep the row they found, the
pre-image, and write it back when the broker denies the edit.
-/

namespace Stitch.Client.StoreEdits

open Foundation.FallibleState Foundation.Interleaving Mutations Consolidation
open LocalRows SyncRequests

abbrev StoreSteps := Steps LocalState Error

section

variable [Database] (config : StoreConfig)

def memoryRead (entity id : String) : StoreM (Option Record) := do
  dbCall
  inspect (fun state => state.memory.rows.lookup (entity, id))

def memoryRemove (entity id : String) : StoreM Unit := do
  dbCall
  let found ← inspect (fun state => state.memory.delete entity id)
  storeMemory entity id found

def storedRemove (entity id : String) : StoreM Unit := do
  dbCall
  let found ← inspect (fun state => (localDb state).delete entity id)
  storeFound entity id found

def deleteCached (entity id : String) : StoreSteps Unit := do
  atomic dbCall
  atomic (memoryRemove entity id)

def deleteStored (entity id : String) : StoreSteps Unit := do
  atomic dbCall
  atomic (storedRemove entity id)

def persistent : StoreSteps Bool := atomic (inspect (fun state => state.persistence.isSome))

def rollbackRow (entity id : String) : StoreSteps Unit := do
  let _ ← tried (deleteCached entity id)
  if ← persistent then
    let _ ← tried (deleteStored entity id)

def restoreLocalRow (entity id scope : String) (preImage : Option Record) : StoreSteps Unit :=
  match preImage with
  | none => rollbackRow entity id
  | some row => do
    let _ ← tried (deleteCached entity id)
    let _ ← tried (atomic (memoryCreate config entity scope row))
    if ← persistent then
      let _ ← tried (deleteStored entity id)
      let _ ← tried (atomic (accessorCreate config entity row))

/-- What `Store::update` and `Store::delete` do differently. -/
structure Edit where
  entity : String
  id : String
  op : Operation
  data : Option Record
  /-- The write to memory when the row was found there. -/
  cached : StoreSteps Unit
  /-- The write to memory when the row was found in persistence only; its failure is ignored. -/
  uncached : StoreSteps Unit
  /-- The write to persistence; its failure is ignored. -/
  stored : StoreSteps Unit

def updateEdit (entity id : String) (fields : Record) : Edit where
  entity := entity
  id := id
  op := .update
  data := some fields
  cached := atomic (memoryUpdate entity id fields)
  uncached := atomic (memoryUpdate entity id fields)
  stored := atomic (accessorUpdate entity id fields)

def deleteEdit (entity id : String) : Edit where
  entity := entity
  id := id
  op := .delete
  data := none
  cached := do let _ ← tried (deleteCached entity id)
  uncached := deleteCached entity id
  stored := deleteStored entity id

/-- What the runtime supplies to a local call, and what the remote answers, by the scope the
edit is sent in. -/
structure Issue where
  rowId : String
  nowMs : Nat
  connected : Bool
  answer : String → Except Error Unit

def pendingEdit (edit : Edit) (issue : Issue) (scope : String) : StoredRow where
  recordId := issue.rowId
  op := edit.op
  entity := edit.entity
  entityId := edit.id
  scopeId := scope
  data := edit.data
  createdAt := issue.nowMs

/-- The part of an edit on persistence: the scope of the row and its pre-image. -/
def locate (edit : Edit) (existing : Option Record) :
    StoreSteps (Option (String × Option Record)) := do
  let found := existing.bind (scopeFromRow config edit.entity)
  if ← persistent then
    match found with
    | some scope => do
      let _ ← tried edit.stored
      pure (some (scope, existing))
    | none => do
      match ← atomic (accessorRead edit.entity edit.id) with
      | none => pure none
      | some held =>
        match scopeFromRow config edit.entity held with
        | none => pure none
        | some scope =>
          if existing.isNone then do
            let _ ← tried edit.uncached
            let _ ← tried edit.stored
            pure (some (scope, some held))
          else do
            let _ ← tried edit.stored
            pure (some (scope, existing))
  else pure (found.map (fun scope => (scope, existing)))

def editAnswered (edit : Edit) (scope : String) (preImage : Option Record)
    (answer : Except Error Unit) : StoreSteps Unit :=
  match answer with
  | .ok _ => do
    let _ ← tried (atomic (removeQueued edit.entity edit.id scope edit.op))
  | .error err =>
    if err.isOwnership || err.isTerminalPublishRejection then do
      let _ ← tried (atomic (removeQueued edit.entity edit.id scope edit.op))
      restoreLocalRow config edit.entity edit.id scope preImage
      .done (.error err)
    else if err.isNotFound then do
      if ← atomic (pendingInsertExists edit.entity edit.id) then pure ()
      else do
        rollbackRow edit.entity edit.id
        let _ ← tried (atomic (removeQueued edit.entity edit.id scope edit.op))
        .done (.error err)
    else pure ()

def submit (edit : Edit) (issue : Issue) (scope : String) (preImage : Option Record) :
    StoreSteps Unit := do
  atomic (enqueue (pendingEdit edit issue scope))
  if issue.connected then
    let answered ← tried (atomic (settle (issue.answer scope)))
    editAnswered config edit scope preImage answered

def editLocated (edit : Edit) (issue : Issue) (existing : Option Record) : StoreSteps Unit := do
  match ← locate config edit existing with
  | none => pure ()
  | some (scope, preImage) => submit config edit issue scope preImage

def editFound (edit : Edit) (issue : Issue) (existing : Option Record) : StoreSteps Unit := do
  if (existing.bind (scopeFromRow config edit.entity)).isSome then edit.cached
  editLocated config edit issue existing

def editRow (edit : Edit) (issue : Issue) : StoreSteps Unit := do
  let existing ← atomic (memoryRead edit.entity edit.id)
  editFound config edit issue existing

/-- `Store::update` of a local call. -/
def update (entity id : String) (fields : Record) (issue : Issue) : StoreSteps Unit :=
  editRow config (updateEdit entity id fields) issue

/-- `Store::delete` of a local call. -/
def delete (entity id : String) (issue : Issue) : StoreSteps Unit :=
  editRow config (deleteEdit entity id) issue

end

end Stitch.Client.StoreEdits
