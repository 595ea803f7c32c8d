import Stitch.Foundation.GuardedRuns
import Stitch.Client.ScopeSync

/-!
# Replacing the active scope

`replace_scope` keeps two copies of the current scope: the store's, set before the fallible work
and consulted for an early return, and the memory cache's, set by the reload at the end.
-/

namespace Stitch.Client.ScopeReplacement

open Foundation.FiniteMap Foundation.FallibleState Foundation.GuardedRuns Mutations Consolidation
open LocalRows ScopeSync

section

variable [Database] (config : StoreConfig)

/-- `link` is what `open_scope` answers when a remote is configured and connected. -/
def replaceScope (scope : String) (link : Option (Except Error ScopeState)) : StoreM Unit := do
  let current ← inspect LocalState.currentScope
  if current = some scope then pure ()
  else do
    change (fun state => { state with currentScope := some scope })
    match link with
    | some opened => do
      let outcome ← attempt (openScopeWithServer config scope opened)
      change (fun state => { state with serverSynced := outcome.isOk })
      settle outcome
    | none => do
      let persistence ← inspect LocalState.persistence
      if persistence.isSome then reloadScope config scope
      else pure ()
      change (fun state => { state with serverSynced := false })

structure ReplaceCall where
  scope : String
  link : Option (Except Error ScopeState)
  faults : List (Option Error)

/-- A store, with the scope of the last call and whether the call returned `Ok`. -/
structure Session where
  store : LocalState
  returned : Option (String × Bool)

def Session.before (session : Session) (call : ReplaceCall) : LocalState :=
  { session.store with faults := call.faults }

def callScope (session : Session) (call : ReplaceCall) : Option Session :=
  let ended := replaceScope config call.scope call.link (session.before call)
  some { store := ended.2, returned := some (call.scope, ended.1.isOk) }

def OfScope (scope : String) (key : RowKey) (row : Record) : Prop :=
  key = (config.rootEntity, scope) ∨
    key.1 ∈ config.childEntities ∧ row.lookup config.scopeField = some (.string scope)

/-- The rows the store has after a call: the persisted ones, else the reconciled ones. -/
def rowsAfter (state : LocalState) : Db := state.persistence.getD state.reconciled

/-- The cache has the rows of the scope; the fields that the database sets itself are its own. -/
structure Loaded (scope : String) (state : LocalState) : Prop where
  current : state.memoryScope = some scope
  rows : ∀ key row, state.memory.seen key = some row ↔
    (rowsAfter state).seen key = some row ∧ OfScope config scope key row

variable {config}

theorem of_scope_kept {scope : String} {key : RowKey} (row : Record) :
    OfScope config scope key (kept row) ↔ OfScope config scope key row := by
  rw [OfScope, OfScope, lookup_kept row config.scopeKept]

end

/-- Rows are persisted, and a scope is asked for again only after a call that succeeded. -/
def FollowsSuccess (session : Session) (call : ReplaceCall) : Prop :=
  session.store.persistence.isSome ∧
    (session.store.currentScope = some call.scope →
      session.returned.map Prod.snd = some true)

instance (session : Session) (call : ReplaceCall) : Decidable (FollowsSuccess session call) :=
  inferInstanceAs (Decidable (session.store.persistence.isSome ∧
    (session.store.currentScope = some call.scope →
      session.returned.map Prod.snd = some true)))

section

variable [Database]

theorem seen_create_rows {db : Db} {rows : List (String × Record)}
    (drawn : ∀ entry ∈ rows, ∃ id, db.rows.lookup (entry.1, id) = some entry.2)
    (key : RowKey) (row : Record) :
    (createRows rows).seen key = some row ↔
      ∃ held, (key.1, held) ∈ rows ∧ db.rows.lookup key = some held ∧ kept held = row := by
  induction rows using List.reverseRecOn with
  | nil => simp [createRows, Db.empty, Db.seen]
  | append_singleton rows entry ih =>
    have earlier := ih (fun other member => drawn other (List.mem_append_left _ member))
    obtain ⟨entity, record⟩ := entry
    obtain ⟨id, held⟩ : ∃ id, db.rows.lookup (entity, id) = some record :=
      drawn (entity, record) (by simp)
    have unchanged : kept ((Database.created record).insert "id" (.string id)) = kept record := by
      rw [kept_insert_congr (kept_created record), insert_of_lookup (db.keyed _ _ held)]
    have created : createRows (rows ++ [(entity, record)]) =
        (createRows rows).put entity id (Database.created record) := by
      rw [createRows, List.foldl_append]
      simp only [List.foldl_cons, List.foldl_nil, Db.create, Db.record_id_of_lookup held,
        Option.getD_some]
      rfl
    rw [created]
    by_cases here : key = (entity, id)
    · subst here
      rw [Db.seen_put_self, unchanged, Option.some_inj]
      constructor
      · intro same
        exact ⟨record, List.mem_append_right _ List.mem_cons_self, held, same⟩
      · rintro ⟨other, _, found, same⟩
        rw [Option.some.inj (held.symm.trans found)]
        exact same
    · rw [Db.seen, Db.lookup_put_other _ _ here]
      refine earlier.trans (exists_congr fun other => and_congr_left fun found => ?_)
      rw [List.mem_append, List.mem_singleton]
      refine ⟨Or.inl, fun listed => listed.resolve_right fun same => here ?_⟩
      -- the same record under another key would carry another id
      have ids : some key.2 = some id := by
        rw [← Db.record_id_of_lookup found.1, (Prod.mk.inj same).2, Db.record_id_of_lookup held]
      exact Prod.ext (Prod.mk.inj same).1 (Option.some.inj ids)

variable {config : StoreConfig}

def persistedBundle (config : StoreConfig) (db : Db) (scope : String) : ScopeBundle where
  root := db.rows.lookup (config.rootEntity, scope)
  children := config.childEntities.map
    (fun entity => (entity, db.list entity (inScope config entity scope)))

variable {db : Db} {scope : String} {current : Option String} {after state : LocalState}
  {bundle : ScopeBundle}

theorem mem_persisted_bundle {entity : String} {row : Record} :
    (entity, row) ∈ bundleRows config (persistedBundle config db scope) ↔
      (entity = config.rootEntity ∧ db.rows.lookup (config.rootEntity, scope) = some row) ∨
        (entity ∈ config.childEntities ∧
          row ∈ db.list entity (inScope config entity scope)) := by
  rw [bundleRows, persistedBundle, List.mem_append]
  apply or_congr
  · cases db.rows.lookup (config.rootEntity, scope) with
    | none => simp
    | some root => simp [eq_comm]
  · simp only [List.flatMap_map, List.mem_flatMap, List.mem_map, Prod.mk.injEq]
    constructor
    · intro listed
      obtain ⟨child, member, record, found, same, here⟩ := listed
      subst same
      subst here
      exact ⟨member, found⟩
    · intro listed
      exact ⟨entity, listed.1, row, listed.2, rfl, rfl⟩

theorem persisted_bundle_rows (separated : config.Separated) (key : RowKey) (row : Record)
    (held : db.rows.lookup key = some row) :
    (key.1, row) ∈ bundleRows config (persistedBundle config db scope) ↔
      OfScope config scope key row := by
  rw [mem_persisted_bundle, OfScope]
  apply or_congr
  · constructor
    · intro root
      have ids : some key.2 = some scope := by
        rw [← Db.record_id_of_lookup held, Db.record_id_of_lookup root.2]
      exact Prod.ext root.1 (Option.some.inj ids)
    · intro root
      subst root
      exact ⟨rfl, held⟩
  · apply and_congr_right
    intro child
    have filtered : isScoped config key.1 = true := by
      simp [isScoped, separated key.1 child]
    rw [Db.mem_list, inScope, filtered]
    simp only [Bool.not_true, Bool.false_or, beq_iff_eq]
    exact and_iff_right ⟨key.2, held⟩

def Anchored (db : Db) (current : Option String) (state : LocalState) : Prop :=
  state.persistence = some db ∧ state.currentScope = current

omit [Database] in
theorem keeps_anchored_call :
    Keeps (Anchored db current) dbCall :=
  keeps_db_call (fun _ _ anchored => anchored)

theorem load_bundle_ok (anchored : Anchored db current state)
    (loaded : loadBundleFromPersistence config scope state = (.ok bundle, after)) :
    bundle = persistedBundle config db scope ∧ Anchored db current after := by
  obtain ⟨found, first, inspected, continued⟩ := bind_ok_iff.mp loaded
  cases inspected
  rw [anchored.1] at continued
  obtain ⟨_, second, called, listing⟩ := bind_ok_iff.mp continued
  obtain ⟨children, third, gathered, returned⟩ := bind_ok_iff.mp listing
  cases returned
  have listed : children = config.childEntities.map
      (fun entity => (entity, db.list entity (inScope config entity scope))) := by
    apply gather_ok _ gathered
    intro entity start result next ran
    obtain ⟨_, _, _, done⟩ := bind_ok_iff.mp ran
    cases done
    rfl
  refine ⟨by rw [listed, persistedBundle], ?_⟩
  apply Keeps.after _ (keeps_anchored_call.after anchored called) gathered
  apply keeps_gather
  intro entity
  exact keeps_bind keeps_anchored_call (fun _ => keeps_pure _)

theorem load_scope_ok (anchored : Anchored db current state)
    (loaded : loadScope config scope bundle state = (.ok (), after)) :
    Anchored db current after ∧ after.memoryScope = some scope ∧
      after.memory = createRows (bundleRows config bundle) := by
  obtain ⟨_, first, opened, continued⟩ := bind_ok_iff.mp loaded
  obtain ⟨_, second, created, swapped⟩ := bind_ok_iff.mp continued
  cases swapped
  have filled := (keeps_each _ (fun _ _ => keeps_anchored_call)).after
    (keeps_anchored_call.after anchored opened) created
  exact ⟨filled, rfl, rfl⟩

theorem reload_scope_loads (separated : config.Separated) (anchored : Anchored db current state)
    (reloaded : reloadScope config scope state = (.ok (), after)) :
    Loaded config scope after ∧ after.currentScope = current := by
  obtain ⟨bundle, middle, read, swapped⟩ := bind_ok_iff.mp reloaded
  obtain ⟨same, kept⟩ := load_bundle_ok anchored read
  obtain ⟨persisted, shown, filled⟩ := load_scope_ok kept swapped
  refine ⟨⟨shown, ?_⟩, persisted.2⟩
  intro key row
  have drawn : ∀ entry ∈ bundleRows config (persistedBundle config db scope),
      ∃ id, db.rows.lookup (entry.1, id) = some entry.2 := by
    intro entry member
    obtain ⟨entity, record⟩ := entry
    cases mem_persisted_bundle.mp member with
    | inl root =>
      obtain ⟨here, held⟩ := root
      subst here
      exact ⟨scope, held⟩
    | inr child => exact (Db.mem_list.mp child.2).1
  rw [filled, same, seen_create_rows drawn, rowsAfter, persisted.1, Option.getD_some, Db.seen,
    Option.map_eq_some_iff, exists_and_right.symm]
  refine exists_congr fun held => ?_
  constructor
  · rintro ⟨listed, found, shown⟩
    rw [← shown, of_scope_kept]
    exact ⟨⟨found, rfl⟩, (persisted_bundle_rows separated key held found).mp listed⟩
  · rintro ⟨⟨found, shown⟩, inside⟩
    rw [← shown, of_scope_kept] at inside
    exact ⟨(persisted_bundle_rows separated key held found).mpr inside, found, shown⟩

def Switched (scope : String) (state : LocalState) : Prop :=
  state.persistence.isSome ∧ state.currentScope = some scope

omit [Database] in
theorem switched_unwritten (scope : String) : Unwritten (Switched scope) where
  faults _ _ switched := switched
  stores state db switched := by
    obtain ⟨persisted, current⟩ := switched
    unfold storeLocal
    obtain ⟨old, held⟩ := Option.isSome_iff_exists.mp persisted
    rw [held]
    exact ⟨rfl, current⟩

variable {scope : String} {after state : LocalState} {link : Option (Except Error ScopeState)}

theorem switched_reload (separated : config.Separated) (switched : Switched scope state)
    (reloaded : reloadScope config scope state = (.ok (), after)) :
    Loaded config scope after ∧ after.currentScope = some scope := by
  obtain ⟨db, persisted⟩ := Option.isSome_iff_exists.mp switched.1
  exact reload_scope_loads separated ⟨persisted, switched.2⟩ reloaded

theorem open_scope_loads (separated : config.Separated) {opened : Except Error ScopeState}
    (switched : Switched scope state)
    (finished : openScopeWithServer config scope opened state = (.ok (), after)) :
    Loaded config scope after ∧ after.currentScope = some scope := by
  obtain ⟨_, middle, reconciled, reloaded⟩ := bind_ok_iff.mp finished
  have kept : Switched scope middle :=
    (keeps_reconcile_scope config (switched_unwritten scope)
      (fun _ _ holds => holds) scope opened).after switched reconciled
  exact switched_reload separated kept reloaded

theorem replace_scope_switches (separated : config.Separated) (persisted : state.persistence.isSome)
    (different : state.currentScope ≠ some scope)
    (returned : replaceScope config scope link state = (.ok (), after)) :
    Loaded config scope after ∧ after.currentScope = some scope := by
  obtain ⟨current, first, inspected, continued⟩ := bind_ok_iff.mp returned
  cases inspected
  rw [if_neg different] at continued
  obtain ⟨_, second, switch, rest⟩ := bind_ok_iff.mp continued
  cases switch
  have switched : Switched scope { state with currentScope := some scope } := ⟨persisted, rfl⟩
  cases link with
  | some opened =>
    obtain ⟨outcome, third, attempted, recorded⟩ := bind_ok_iff.mp rest
    obtain ⟨_, fourth, marked, settled⟩ := bind_ok_iff.mp recorded
    cases marked
    cases settled
    obtain ⟨same, reached⟩ := Prod.mk.inj attempted
    obtain ⟨loaded, current⟩ := open_scope_loads separated switched
      (Prod.ext (Except.ok.inj same) reached)
    exact ⟨⟨loaded.current, loaded.rows⟩, current⟩
  | none =>
    obtain ⟨persistence, third, inspected, continued⟩ := bind_ok_iff.mp rest
    cases inspected
    rw [if_pos persisted] at continued
    obtain ⟨_, fourth, reloaded, marked⟩ := bind_ok_iff.mp continued
    cases marked
    obtain ⟨loaded, current⟩ := switched_reload separated switched reloaded
    exact ⟨⟨loaded.current, loaded.rows⟩, current⟩

theorem replace_scope_again (same : state.currentScope = some scope) :
    replaceScope config scope link state = (.ok (), state) := by
  apply bind_ok_iff.mpr
  refine ⟨state.currentScope, state, rfl, ?_⟩
  rw [if_pos same]
  rfl

def Settled (config : StoreConfig) (session : Session) : Prop :=
  ∀ scope, session.returned = some (scope, true) →
    session.store.currentScope = some scope ∧ Loaded config scope session.store

theorem call_settled (separated : config.Separated) {session after : Session}
    {call : ReplaceCall} (settled : Settled config session)
    (follows : FollowsSuccess session call)
    (called : callScope config session call = some after) : Settled config after := by
  rw [callScope] at called
  cases ran : replaceScope config call.scope call.link (session.before call) with
  | mk outcome final =>
    rw [ran] at called
    cases called
    intro scope returned
    obtain ⟨here, succeeded⟩ := Prod.mk.inj (Option.some.inj returned)
    subst here
    cases outcome with
    | error failure => cases succeeded
    | ok result =>
      by_cases same : (session.before call).currentScope = some call.scope
      · -- the early return: the scope was loaded by the call before
        rw [replace_scope_again same] at ran
        cases ran
        obtain ⟨⟨earlier, answer⟩, last, succeeded⟩ :=
          Option.map_eq_some_iff.mp (follows.2 same)
        subst succeeded
        obtain ⟨current, loaded⟩ := settled earlier last
        have agree : earlier = call.scope := Option.some.inj (current.symm.trans same)
        subst agree
        exact ⟨same, ⟨loaded.current, loaded.rows⟩⟩
      · have persisted : (session.before call).persistence.isSome := follows.1
        obtain ⟨loaded, current⟩ := replace_scope_switches separated persisted same ran
        exact ⟨current, loaded⟩

end

/-- In every run of calls that persist their rows and repeat a scope only after a
success, a call that returned `Ok` leaves the memory cache on its scope, with exactly
the scope's rows. -/
theorem replaced_scope_is_loaded [Database] {config : StoreConfig}
    (separated : config.Separated) {first : LocalState} {session : Session}
    (run : Reaches (callScope config) FollowsSuccess ⟨first, none⟩ session)
    {scope : String} (returned : session.returned = some (scope, true)) :
    Loaded config scope session.store := by
  have settled : Settled config session := by
    apply reaches_invariant (Settled config) _ _ run
    · intro other never
      cases never
    · intro before call after holds follows called
      exact call_settled separated holds follows called
  exact (settled scope returned).2

section

def boards : StoreConfig where
  rootEntity := "board"
  childEntities := ["task"]
  scopeField := "boardId"
  topLevelEntities := []
  versionField := "version"
  updatedAtField := "updatedAt"
  scopeKept := rfl

def record (fields : List (String × Value)) : Record :=
  fields.foldr (fun field built => built.insert field.1 field.2) ∅

def boardRow : Record := record [("id", .string "b1"), ("name", .string "plan")]

def taskRow : Record :=
  record [("id", .string "t1"), ("boardId", .string "b1"), ("done", .number 0)]

def fetchedBoard : ScopeState where
  root := boardRow
  children := [("task", [taskRow])]
  bufferedMutations := []

def startState (persistence : Option Db) : LocalState where
  persistence := persistence
  memory := Db.empty
  memoryScope := none
  currentScope := none
  serverSynced := false
  queue := none
  faults := []
  reconciled := Db.empty

def openBoard (answer : Except Error ScopeState) : ReplaceCall where
  scope := "b1"
  link := some answer
  faults := []

end

def askedAgain : List ReplaceCall :=
  [openBoard (.ok fetchedBoard), openBoard (.error (.timeout 1))]

/-- A connected first open, asked for again. -/
theorem opened_board_is_loaded :
    ∃ session, replay (callScope boards) FollowsSuccess
        ⟨startState (some Db.empty), none⟩ askedAgain = some session ∧
      session.store.memory.seen ("task", "t1") = some taskRow ∧
      Loaded boards "b1" session.store := by
  refine ⟨(replay (callScope boards) FollowsSuccess
    ⟨startState (some Db.empty), none⟩ askedAgain).get (by decide),
    (Option.some_get _).symm, by decide, ?_⟩
  apply replaced_scope_is_loaded (by decide)
  · exact reaches_of_replay .start (Option.some_get _).symm
  · decide

def failedThenRetried : List ReplaceCall :=
  [openBoard (.error (.timeout 1)), openBoard (.ok fetchedBoard)]

/-- A failed open leaves the store's copy of the scope set, so the retry returns `Ok`
at once with nothing loaded; without persistence even a successful open ends with an
empty cache. -/
theorem retry_after_failed_open_loads_nothing :
    (∃ session, replay (callScope boards) (fun _ _ => True)
        ⟨startState (some Db.empty), none⟩ failedThenRetried = some session ∧
      session.returned = some ("b1", true) ∧ ¬ Loaded boards "b1" session.store) ∧
    (∃ session, replay (callScope boards) (fun _ _ => True)
        ⟨startState none, none⟩ [openBoard (.ok fetchedBoard)] = some session ∧
      session.returned = some ("b1", true) ∧ ¬ Loaded boards "b1" session.store) := by
  constructor
  · refine ⟨(replay (callScope boards) (fun _ _ => True)
      ⟨startState (some Db.empty), none⟩ failedThenRetried).get (by decide),
      (Option.some_get _).symm, by decide, ?_⟩
    intro loaded
    have shown := loaded.current
    revert shown
    decide
  · refine ⟨(replay (callScope boards) (fun _ _ => True)
      ⟨startState none, none⟩ [openBoard (.ok fetchedBoard)]).get (by decide),
      (Option.some_get _).symm, by decide, ?_⟩
    intro loaded
    have shown := (loaded.rows ("task", "t1") taskRow).mpr
      ⟨by decide, .inr ⟨by decide, by decide⟩⟩
    revert shown
    decide

end Stitch.Client.ScopeReplacement
