import Stitch.Client.ScopeFrames

/-!
# Change tokens

`Store::version` gives out a counter of the memory cache, and a caller fetches a list again when
the counter has changed. The counters of a scope are released when the scope is cleared or
replaced, and start again at zero.
-/

namespace Stitch.Client.ChangeTokens

open Foundation.FiniteMap Foundation.GuardedRuns Mutations
open MemoryStore
open LocalRows (Database StoreConfig Db recordId isScoped inScope refScope ScopeBundle)
open ScopeFrames (taggedBoards afterCalls noRows)
open ScopeReplacement (record)

section

variable [Database] (config : StoreConfig) (scope entity : String)

def tokenKey : ScopeEntity := (versionScope config entity scope, entity)

/-- The mutation does not put a row of the list into another scope. -/
def StaysListed (memory : Memory) (mutation : Mutation) : Prop :=
  mutation.entity = entity →
    ∀ write ∈ rowWrite config memory.db mutation,
      ∀ before ∈ memory.db.rows.lookup (entity, targetId config memory.db mutation),
        ∀ after ∈ write.db.rows.lookup (entity, targetId config memory.db mutation),
          inScope config entity scope before = true → inScope config entity scope after = true

/-- No batch is open, and the call neither clears a scope nor takes away the counter or the
rows of the list without counting it. -/
def Steady (memory : Memory) (call : Call) : Prop :=
  memory.depth = 0 ∧
    match call with
    | .mutate mutation => StaysListed config scope entity memory mutation
    | .loadScope loaded _ =>
      entity ∈ allScopedEntities config ∧
        versionScope config entity loaded = versionScope config entity scope ∧
        (memory.currentScope = some (versionScope config entity scope) →
          loaded = versionScope config entity scope)
    | _ => False

instance (memory : Memory) (mutation : Mutation) :
    Decidable (StaysListed config scope entity memory mutation) :=
  inferInstanceAs (Decidable (_ → _))

instance (memory : Memory) : (call : Call) →
    Decidable (Steady config scope entity memory call)
  | .mutate mutation => inferInstanceAs
      (Decidable (_ ∧ StaysListed config scope entity memory mutation))
  | .loadScope _ _ => inferInstanceAs (Decidable (_ ∧ _ ∧ _ ∧ (_ → _)))
  | .clearScope _ => inferInstanceAs (Decidable (_ ∧ False))
  | .beginBatch => inferInstanceAs (Decidable (_ ∧ False))
  | .endBatch _ => inferInstanceAs (Decidable (_ ∧ False))

variable {config} {scope entity}

theorem listed_resolves (listable : isTopLevel config entity = true ∨ entity ≠ config.rootEntity)
    {row : Record} {id : String} (identified : recordId row = some id)
    (inside : inScope config entity scope row = true) :
    ∃ resolved, resolveScope config entity row = some resolved ∧
      versionScope config entity resolved = versionScope config entity scope := by
  unfold resolveScope versionScope
  by_cases top : isTopLevel config entity = true
  · split_ifs
    · exact ⟨id, identified, rfl⟩
    · exact ⟨"", rfl, rfl⟩
  · have away : entity ≠ config.rootEntity := listable.resolve_left top
    have named : row.lookup config.scopeField = some (.string scope) := by
      have foreign : config.topLevelEntities.contains entity = false :=
        Bool.eq_false_iff.mpr top
      have apart : isScoped config entity = true := by
        rw [isScoped, foreign, Bool.or_false, Bool.not_eq_true', beq_eq_false_iff_ne]
        exact away
      rw [inScope, apart] at inside
      exact eq_of_beq inside
    simp only [if_neg top, if_neg away, refScope, named]
    exact ⟨scope, rfl, rfl⟩

variable {memory : Memory} {mutation : Mutation} {write : RowWrite}

theorem uncounted_write_list
    (listable : isTopLevel config entity = true ∨ entity ≠ config.rootEntity)
    (written : rowWrite config memory.db mutation = some write)
    (stays : StaysListed config scope entity memory mutation)
    (uncounted : ∀ event, write.event = some event →
      versionKey config event ≠ tokenKey config scope entity) :
    write.db.list entity (inScope config entity scope) = listed config scope entity memory := by
  -- the row of a mutation is in the list neither before nor after
  have unseen : ∀ row id, mutation.entity = entity → recordId row = some id →
      (∀ resolved, resolveScope config mutation.entity row = some resolved →
        ∃ event, write.event = some event ∧ event.key = (resolved, mutation.entity)) →
      ¬ inScope config entity scope row = true := by
    intro row id ours identified resolves inside
    obtain ⟨resolved, found, same⟩ := listed_resolves listable identified inside
    rw [ours] at resolves
    obtain ⟨event, emits, key⟩ := resolves resolved found
    obtain ⟨named, kind⟩ := Prod.mk.inj key
    apply uncounted event emits
    rw [versionKey, named, kind, same, tokenKey]
  rcases row_write_cases written with ⟨row, put, resolves⟩ | ⟨row, held, removed, resolves⟩
  · have hidden : mutation.entity = entity → ¬ inScope config entity scope (row.insert "id"
        (.string (targetId config memory.db mutation))) = true := by
      intro ours
      refine unseen _ (targetId config memory.db mutation) ours ?_ resolves
      rw [recordId, Finmap.lookup_insert]
      rfl
    rw [put]
    apply Db.list_put
    · intro before held shown
      obtain ⟨ours, inside⟩ := shown
      rw [ours] at held put
      apply hidden ours
      refine stays ours write written before held _ ?_ inside
      rw [put]
      exact Db.lookup_put_self _ _ _ _
    · intro shown
      exact hidden shown.1 shown.2
  · rw [removed]
    apply Db.list_remove
    intro before found shown
    rw [held] at found
    cases found
    exact unseen row _ shown.1 (Db.record_id_of_lookup held) resolves shown.2

theorem get_version_token (memory : Memory) :
    getVersion config memory scope entity = getOr memory.versions (tokenKey config scope entity) 0 :=
  rfl

theorem mutation_tells (listable : isTopLevel config entity = true ∨ entity ≠ config.rootEntity)
    (shut : memory.depth = 0) (written : rowWrite config memory.db mutation = some write)
    (stays : StaysListed config scope entity memory mutation) (rest : List (Option Error)) :
    getVersion config memory scope entity < getVersion config
        (write.apply config { memory with faults := rest }) scope entity ∨
      getVersion config memory scope entity = getVersion config
        (write.apply config { memory with faults := rest }) scope entity ∧
      listed config scope entity memory = listed config scope entity
        (write.apply config { memory with faults := rest }) := by
  have same : (∀ event, write.event = some event →
      versionKey config event ≠ tokenKey config scope entity) →
      listed config scope entity memory = listed config scope entity
        (write.apply config { memory with faults := rest }) := by
    intro uncounted
    unfold listed
    rw [(apply_frame write { memory with faults := rest }).1]
    exact (uncounted_write_list listable written stays uncounted).symm
  cases emits : write.event with
  | none =>
    refine .inr ⟨?_, same (by rw [emits]; intro event never; cases never)⟩
    rw [RowWrite.apply, emits]
    rfl
  | some event =>
    have announced : write.apply config { memory with faults := rest } =
        announce config { memory with db := write.db, faults := rest } event := by
      rw [RowWrite.apply, emits]
      exact if_neg (by rw [shut]; exact Nat.lt_irrefl 0)
    have token : getVersion config (write.apply config { memory with faults := rest }) scope
        entity = getVersion config memory scope entity +
          if tokenKey config scope entity = versionKey config event then 1 else 0 := by
      rw [announced]
      exact getOr_raise memory.versions _ _
    by_cases counted : tokenKey config scope entity = versionKey config event
    · rw [if_pos counted] at token
      exact .inl (by omega)
    · rw [if_neg counted] at token
      refine .inr ⟨by omega, same ?_⟩
      intro other made
      rw [emits] at made
      cases made
      exact Ne.symm counted

theorem load_tells {memory : Memory} {loaded : String} {bundle : ScopeBundle}
    (configured : entity ∈ allScopedEntities config)
    (ours : versionScope config entity loaded = versionScope config entity scope)
    (kept : memory.currentScope = some (versionScope config entity scope) →
      loaded = versionScope config entity scope) :
    getVersion config memory scope entity <
      getVersion config (swapScope config loaded bundle memory) scope entity := by
  obtain ⟨events, swapped⟩ := @swap_scope_eq _ config loaded bundle memory
  have raised : tokenKey config scope entity ∈ loadKeys config loaded :=
    List.mem_map.mpr ⟨entity, configured, Prod.ext ours rfl⟩
  rw [swapped, get_version_token, get_version_token]
  unfold loadedVersions
  cases current : memory.currentScope with
  | none => exact lt_getOr_foldl_raise memory.versions raised
  | some previous =>
    dsimp only
    split_ifs with replaced
    · have other : previous ≠ versionScope config entity scope := by
        intro same
        rw [current, same] at kept
        exact replaced (same.trans (kept rfl).symm)
      have retained : getOr (keepKeys (fun key => key.1 != previous) memory.versions)
          (tokenKey config scope entity) 0 =
            getOr memory.versions (tokenKey config scope entity) 0 := by
        rw [getOr, getOr, lookup_keepKeys, if_pos]
        exact bne_iff_ne.mpr (Ne.symm other)
      rw [← retained]
      exact lt_getOr_foldl_raise _ raised
    · exact lt_getOr_foldl_raise memory.versions raised

theorem steady_tells (listable : isTopLevel config entity = true ∨ entity ≠ config.rootEntity)
    {memory after : Memory} {call : Call} (steady : Steady config scope entity memory call)
    (taken : step config memory call = some after) :
    getVersion config memory scope entity < getVersion config after scope entity ∨
      getVersion config memory scope entity = getVersion config after scope entity ∧
        listed config scope entity memory = listed config scope entity after := by
  obtain ⟨_, rest, takes | fails⟩ := step_cases taken
  · cases call with
    | mutate mutation =>
      obtain ⟨write, written, same⟩ := Option.map_eq_some_iff.mp takes
      rw [← same]
      exact mutation_tells listable steady.1 written steady.2 rest
    | loadScope loaded bundle =>
      cases takes
      obtain ⟨configured, ours, kept⟩ := steady.2
      exact .inl (@load_tells _ config scope entity { memory with faults := rest } loaded
        bundle configured ours kept)
    | clearScope cleared | beginBatch | endBatch order => exact absurd steady.2 not_false
  · rw [fails]
    exact .inr ⟨rfl, rfl⟩

/-- Equal tokens at two points mean equal lists, when no batch is open between them, no scope is
cleared, no row is put from the list into another scope, and only the scope of the token is
loaded: any scope for a top-level entity, as long as the scope with the empty name is not
replaced. The list is not that of the root entity, whose tokens are per root and whose list is
of all roots. -/
theorem change_token_detects_changes (config : StoreConfig)
    (scope entity : String)
    (listable : isTopLevel config entity = true ∨ entity ≠ config.rootEntity)
    (first last : Memory)
    (run : Reaches (step config) (Steady config scope entity) first last)
    (same : getVersion config first scope entity = getVersion config last scope entity) :
    listed config scope entity first = listed config scope entity last := by
  have told := reaches_detects (fun memory => getVersion config memory scope entity)
    (listed config scope entity) (fun _ _ _ steady taken => steady_tells listable steady taken) run
  rcases told with rises | ⟨_, unchanged⟩
  · omega
  · exact unchanged

end

section

def newRow (entity scope : String) (fields : List (String × Value)) : Call :=
  .mutate (.create entity scope (record fields) .app)

def bundleOf (entity : String) (fields : List (String × Value)) : ScopeBundle :=
  { root := none, children := [(entity, [record fields])] }

def taskOf (board : String) : List (String × Value) :=
  [("id", .string "t1"), ("boardId", .string board)]

def loadedBoard : Memory :=
  afterCalls [.loadScope "b1" (bundleOf "task" (taskOf "b1"))] (Memory.new [])

def otherChanges : List Call :=
  [newRow "task" "b2" [("id", .string "t2")],
    .mutate (.update "task" "t2" (record [("done", .number 1)]) .app),
    newRow "tag" "" [("id", .string "g1")], .mutate (.delete "task" "t9" .app)]

theorem other_changes_leave_token :
    ∃ last, replay (step taggedBoards)
        (Steady taggedBoards "b1" "task") loadedBoard otherChanges = some last ∧
      getVersion taggedBoards loadedBoard "b1" "task" = 1 ∧
      getVersion taggedBoards last "b2" "task" = 2 ∧
      listed taggedBoards "b1" "task" loadedBoard = listed taggedBoards "b1" "task" last := by
  refine ⟨(replay (step taggedBoards)
      (Steady taggedBoards "b1" "task") loadedBoard otherChanges).get
        (by decide), (Option.some_get _).symm, by decide, by decide, ?_⟩
  apply change_token_detects_changes taggedBoards "b1" "task" (.inr (by decide))
  · exact reaches_of_replay .start (Option.some_get _).symm
  · decide

def Stale (scope entity : String) (calls later : List Call) : Prop :=
  let first := afterCalls calls (Memory.new [])
  let last := afterCalls later first
  getVersion taggedBoards first scope entity = getVersion taggedBoards last scope entity ∧
    listed taggedBoards scope entity first ≠ listed taggedBoards scope entity last

instance (scope entity : String) (calls later : List Call) :
    Decidable (Stale scope entity calls later) :=
  inferInstanceAs (Decidable (_ ∧ _))

/-- Counters start again after a clear and after a change of scope. Rows of other scopes and
top-level rows go with a clear, and rows of other scopes with a load, without being counted. The
list of roots changes with any root. A row can be moved to another scope by an update, and a
load does not count entities that are not configured. A load that replaces the scope with the
empty name restarts the counters of top-level entities. -/
theorem tokens_miss_changes :
    Stale "b1" "task" [.loadScope "b1" (bundleOf "task" (taskOf "b1"))]
        [.clearScope "b1", .loadScope "b1" noRows] ∧
      Stale "b1" "task" [.loadScope "b1" (bundleOf "task" (taskOf "b1"))]
        [.loadScope "b2" noRows, .loadScope "b1" noRows] ∧
      Stale "b2" "task" [newRow "task" "b2" (taskOf "b2")] [.loadScope "b1" noRows] ∧
      Stale "" "tag" [newRow "tag" "" [("id", .string "g1")]] [.clearScope "b1"] ∧
      Stale "b1" "board" [newRow "board" "" [("id", .string "b1")]]
        [newRow "board" "" [("id", .string "b2")]] ∧
      Stale "b1" "task" [newRow "task" "b1" (taskOf "b1")]
        [.mutate (.update "task" "t1" (record [("boardId", .string "b2")]) .app)] ∧
      Stale "b1" "note" [newRow "note" "b1" [("id", .string "n1")]] [.loadScope "b1" noRows] ∧
      Stale "" "tag" [.loadScope "" (bundleOf "tag" [("id", .string "g1")])]
        [.loadScope "b1" noRows] := by
  decide

end

end Stitch.Client.ChangeTokens
