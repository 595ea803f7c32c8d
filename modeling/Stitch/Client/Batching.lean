import Stitch.Client.MemoryStore
import Stitch.Client.ScopeReplacement

/-!
# Batches collapse announcements

While a batch is open the memory cache holds back the latest event for each scope and entity.
The end of the outermost batch announces what was held back.
-/

namespace Stitch.Client.Batching

open Foundation.FiniteMap Foundation.FallibleState Foundation.GuardedRuns Mutations
open MemoryStore
open LocalRows (Database StoreConfig Db stripNulls)
open ScopeReplacement (boards record)

section

variable [Database] (config : StoreConfig)

/-- The event of a mutation that succeeds; an update of a row without a scope has none. -/
def eventOf (memory : Memory) (mutation : Mutation) : Option MutationEvent :=
  if (mutate config mutation memory).1.isOk then
    (rowWrite config memory.db mutation).bind RowWrite.event
  else none

/-- The mutation updates a row and leaves it without a scope that resolves. -/
def unscopedUpdate (db : Db) : Mutation → Bool
  | .update entity id fields _ =>
    (db.update entity id (stripNulls fields)).elim false (fun after =>
      (resolveScope config entity ((after.rows.lookup (entity, id)).getD ∅)).isNone)
  | _ => false

/-- A store, and the events of the mutations since the outermost batch began. -/
structure Watched where
  memory : Memory
  emitted : List MutationEvent

def Watched.start (faults : List (Option Error)) : Watched := ⟨Memory.new faults, []⟩

def watch (state : Watched) (call : Call) : Option Watched :=
  (step config state.memory call).map (fun after =>
    { memory := after
      emitted :=
        match call with
        | .beginBatch => if state.memory.depth = 0 then [] else state.emitted
        | .mutate mutation =>
          state.emitted ++ (eventOf config state.memory mutation).toList
        | _ => state.emitted })

def lastFor (events : List MutationEvent) (key : ScopeEntity) : Option MutationEvent :=
  (events.filter (fun event => event.key = key)).getLast?

def AnnouncesOne (before after : Memory) (event : MutationEvent) : Prop :=
  after.sent = before.sent ++ [.mutation event] ∧
    ∀ scope entity, getVersion config after scope entity = getVersion config before scope entity +
      if (versionScope config entity scope, entity) = versionKey config event then 1 else 0

/-- The store announced the last of the events for each key, in some order, and raised each
of their counters once. -/
def AnnouncesLast (before after : Memory) (events : List MutationEvent) : Prop :=
  (∃ announced : List MutationEvent,
    after.sent = before.sent ++ announced.map .mutation ∧
      (announced.map MutationEvent.key).Nodup ∧
      ∀ event, event ∈ announced ↔ lastFor events event.key = some event) ∧
  ∀ scope entity, getVersion config after scope entity = getVersion config before scope entity +
    if (versionScope config entity scope, entity) ∈ events.map (versionKey config) then 1 else 0

structure BatchLaw (state : Watched) (call : Call) (after : Memory) : Prop where
  quiet : 0 < after.depth →
    after.sent = state.memory.sent ∧ after.versions = state.memory.versions
  ended : ∀ order, call = .endBatch order → 0 < state.memory.depth → after.depth = 0 →
    AnnouncesLast config state.memory after state.emitted
  surplus : ∀ order, call = .endBatch order → state.memory.depth = 0 → after = state.memory
  single : ∀ mutation, call = .mutate mutation → state.memory.depth = 0 →
    (mutate config mutation state.memory).1.isOk = true →
    unscopedUpdate config state.memory.db mutation = false →
    ∃ event, eventOf config state.memory mutation = some event ∧
      AnnouncesOne config state.memory after event
  unscoped : ∀ mutation, call = .mutate mutation →
    unscopedUpdate config state.memory.db mutation = true →
    after.sent = state.memory.sent ∧ after.versions = state.memory.versions

variable {config}

omit [Database] in
theorem last_for_snoc (events : List MutationEvent) (event : MutationEvent) (key : ScopeEntity) :
    lastFor (events ++ [event]) key = if event.key = key then some event else lastFor events key := by
  rw [lastFor, lastFor, List.filter_append]
  split_ifs with here
  · simp [here]
  · simp [here]

variable {events : List MutationEvent} {event : MutationEvent} {db : Db} {mutation : Mutation}
  {write : RowWrite}

omit [Database] in
theorem last_for_key {key : ScopeEntity} (last : lastFor events key = some event) :
    event ∈ events ∧ event.key = key := by
  obtain ⟨member, here⟩ := List.mem_filter.mp (List.mem_of_getLast? last)
  exact ⟨member, of_decide_eq_true here⟩

omit [Database] in
theorem last_for_some (member : event ∈ events) : ∃ last, lastFor events event.key = some last := by
  have listed : event ∈ events.filter (fun other => other.key = event.key) :=
    List.mem_filter.mpr ⟨member, decide_eq_true rfl⟩
  cases last : lastFor events event.key with
  | none =>
    rw [lastFor, List.getLast?_eq_none_iff] at last
    rw [last] at listed
    cases listed
  | some found => exact ⟨found, rfl⟩

theorem write_event_none (written : rowWrite config db mutation = some write) :
    write.event = none ↔ unscopedUpdate config db mutation = true := by
  cases mutation with
  | create entity scope data origin =>
    cases written
    simp [createRow, unscopedUpdate]
  | update entity id fields origin =>
    obtain ⟨after, found, same⟩ := Option.map_eq_some_iff.mp written
    rw [unscopedUpdate, found, ← same, Option.elim_some, Option.map_eq_none_iff,
      Option.isNone_iff_eq_none]
  | delete entity id origin =>
    obtain ⟨after, found, same⟩ := Option.map_eq_some_iff.mp written
    rw [← same]
    simp [unscopedUpdate]

theorem write_event_entity (written : rowWrite config db mutation = some write)
    (emits : write.event = some event) : event.entity = mutation.entity := by
  cases mutation with
  | create entity scope data origin =>
    cases written
    cases emits
    rfl
  | update entity id fields origin =>
    obtain ⟨after, _, same⟩ := Option.map_eq_some_iff.mp written
    rw [← same] at emits
    obtain ⟨scope, _, made⟩ := Option.map_eq_some_iff.mp emits
    rw [← made]
    rfl
  | delete entity id origin =>
    obtain ⟨after, _, same⟩ := Option.map_eq_some_iff.mp written
    rw [← same] at emits
    cases emits
    rfl

theorem event_version_key (apart : isTopLevel config config.rootEntity = false)
    (written : rowWrite config db mutation = some write) (emits : write.event = some event) :
    versionKey config event = event.key := by
  have named := write_event_entity written emits
  rw [versionKey, versionScope, named]
  split_ifs with top
  · have unscoped : ∀ data, resolveScope config mutation.entity data = some "" := by
      intro data
      rw [resolveScope, if_neg, if_pos top]
      intro root
      rw [root, apart] at top
      cases top
    rcases row_write_cases written with ⟨row, _, announces⟩ | ⟨row, _, _, announces⟩
    · obtain ⟨sent, same, key⟩ := announces "" (unscoped _)
      rw [emits] at same
      cases same
      exact key.symm
    · obtain ⟨sent, same, key⟩ := announces "" (unscoped _)
      rw [emits] at same
      cases same
      exact key.symm
  · rw [← named]
    rfl

theorem mutation_served (mutation : Mutation) (memory : Memory) :
    ∃ db rest, (serve config (.mutate mutation) memory).2 =
      (eventOf config memory mutation).elim { memory with db := db, faults := rest }
        (fun event => emitMutation config event { memory with db := db, faults := rest }) := by
  obtain ⟨rest, ⟨write, written, ran⟩ | ⟨error, failed⟩⟩ :=
    @mutate_cases _ config mutation memory
  · refine ⟨write.db, rest, ?_⟩
    have emits : eventOf config memory mutation = write.event := by
      rw [eventOf, ran, written, Option.bind_some]
      rfl
    rw [serve, bind_of_ok ran, emits]
    rw [RowWrite.apply]
    cases write.event with
    | none | some event => rfl
  · refine ⟨memory.db, rest, ?_⟩
    have silent : eventOf config memory mutation = none := by
      rw [eventOf, failed]
      rfl
    rw [serve, bind_of_error failed, silent]
    rfl

/-- What is held back is the last event for each key since the outermost batch began. -/
structure HeldBack (config : StoreConfig) (state : Watched) : Prop where
  closed : state.memory.depth = 0 → state.memory.buffered = ∅
  opened : 0 < state.memory.depth →
    ∀ key, state.memory.buffered.lookup key = lastFor state.emitted key
  keys : ∀ event ∈ state.emitted, versionKey config event = event.key

variable {memory : Memory} {state : Watched} {call : Call}

theorem event_of_key (apart : isTopLevel config config.rootEntity = false) {mutation : Mutation}
    {event : MutationEvent} (emits : eventOf config memory mutation = some event) :
    versionKey config event = event.key := by
  rw [eventOf] at emits
  split_ifs at emits
  obtain ⟨write, written, made⟩ := Option.bind_eq_some_iff.mp emits
  exact event_version_key apart written made

theorem emit_mutation_depth (event : MutationEvent) (memory : Memory) :
    (emitMutation config event memory).depth = memory.depth := by
  unfold emitMutation
  split_ifs
  · rfl
  · rfl

theorem emit_mutation_held (event : MutationEvent) (inside : 0 < memory.depth) :
    emitMutation config event memory =
      { memory with buffered := memory.buffered.insert event.key event } :=
  if_pos inside

theorem emit_mutation_announced (event : MutationEvent) (outside : memory.depth = 0) :
    emitMutation config event memory = announce config memory event :=
  if_neg (by rw [outside]; exact Nat.lt_irrefl 0)

theorem mutation_held_back (apart : isTopLevel config config.rootEntity = false)
    (held : HeldBack config state) (mutation : Mutation) :
    HeldBack config
      { memory := (serve config (.mutate mutation) state.memory).2
        emitted := state.emitted ++ (eventOf config state.memory mutation).toList } := by
  obtain ⟨db, rest, served⟩ := @mutation_served _ config mutation state.memory
  rw [served]
  cases emits : eventOf config state.memory mutation with
  | none =>
    rw [Option.toList_none, List.append_nil]
    exact ⟨held.closed, held.opened, held.keys⟩
  | some event =>
    rw [Option.toList_some]
    dsimp only [Option.elim_some]
    refine ⟨?_, ?_, ?_⟩
    · intro outside
      rw [emit_mutation_depth] at outside
      rw [emit_mutation_announced event outside]
      exact held.closed outside
    · intro inside key
      rw [emit_mutation_depth] at inside
      rw [emit_mutation_held event inside, last_for_snoc]
      split_ifs with here
      · rw [← here, Finmap.lookup_insert]
      · rw [Finmap.lookup_insert_of_ne _ (Ne.symm here)]
        exact held.opened inside key
    · intro other member
      rcases List.mem_append.mp member with earlier | new
      · exact held.keys other earlier
      · rw [List.mem_singleton.mp new]
        exact event_of_key apart emits

theorem begin_held_back (held : HeldBack config state) :
    HeldBack config
      { memory := beginBatch state.memory
        emitted := if state.memory.depth = 0 then [] else state.emitted } := by
  have inside : 0 < (beginBatch state.memory).depth :=
    Nat.lt_min.mpr ⟨Nat.succ_pos _, by decide⟩
  refine ⟨?_, ?_, ?_⟩
  · intro outside
    exact absurd outside inside.ne'
  · intro _ key
    split_ifs with outside
    · change state.memory.buffered.lookup key = _
      rw [held.closed outside, Finmap.lookup_empty]
      rfl
    · exact held.opened (Nat.pos_of_ne_zero outside) key
  · intro event member
    split_ifs at member with outside
    · cases member
    · exact held.keys event member

theorem end_batch_cases (order : List ScopeEntity) (memory : Memory) :
    (memory.depth = 0 ∧ endBatch config order memory = memory) ∨
      (1 < memory.depth ∧
        endBatch config order memory = { memory with depth := memory.depth - 1 }) ∨
      (memory.depth = 1 ∧ endBatch config order memory =
        (order.filterMap (fun key => memory.buffered.lookup key)).foldl (announce config)
          { memory with depth := 0, buffered := ∅ }) := by
  unfold endBatch
  split_ifs with outside inner
  · exact .inl ⟨outside, rfl⟩
  · exact .inr (.inl ⟨by omega, rfl⟩)
  · exact .inr (.inr ⟨by omega, rfl⟩)

theorem end_held_back (held : HeldBack config state) (order : List ScopeEntity) :
    HeldBack config { memory := endBatch config order state.memory, emitted := state.emitted } := by
  rcases @end_batch_cases _ config order state.memory with
    ⟨_, same⟩ | ⟨deep, same⟩ | ⟨_, same⟩
  · rw [same]
    exact held
  · rw [same]
    refine ⟨?_, ?_, held.keys⟩
    · intro outside
      dsimp only at outside
      omega
    · intro _ key
      exact held.opened (by omega) key
  · rw [same, announce_all_eq]
    refine ⟨fun _ => rfl, ?_, held.keys⟩
    intro inside
    cases inside

theorem scope_call_keeps_batch {after : Memory} (scopes : ∀ mutation, call ≠ .mutate mutation)
    (starts : call ≠ .beginBatch) (ends : ∀ order, call ≠ .endBatch order)
    (taken : step config memory call = some after) :
    after.depth = memory.depth ∧ after.buffered = memory.buffered := by
  obtain ⟨_, rest, takes | fails⟩ := step_cases taken
  · cases call with
    | mutate mutation => exact absurd rfl (scopes mutation)
    | beginBatch => exact absurd rfl starts
    | endBatch order => exact absurd rfl (ends order)
    | loadScope scope bundle =>
      obtain ⟨events, swapped⟩ := @swap_scope_eq _ config scope bundle
        { memory with faults := rest }
      rw [effect, swapped] at takes
      cases takes
      exact ⟨rfl, rfl⟩
    | clearScope scope =>
      cases takes
      exact ⟨rfl, rfl⟩
  · rw [fails]
    exact ⟨rfl, rfl⟩

theorem watch_held_back (apart : isTopLevel config config.rootEntity = false) {after : Watched}
    (held : HeldBack config state) (taken : watch config state call = some after) :
    HeldBack config after := by
  obtain ⟨memory, stepped, same⟩ := Option.map_eq_some_iff.mp taken
  have carried : memory.depth = state.memory.depth ∧
      memory.buffered = state.memory.buffered →
      HeldBack config { memory := memory, emitted := state.emitted } := by
    intro unchanged
    refine ⟨?_, ?_, held.keys⟩
    · intro outside
      exact unchanged.2.trans (held.closed (unchanged.1.symm.trans outside))
    · intro inside key
      rw [unchanged.2]
      exact held.opened (by rw [← unchanged.1]; exact inside) key
  have served : memory = (serve config call state.memory).2 := by
    rw [step] at stepped
    split_ifs at stepped
    exact (Option.some.inj stepped).symm
  rw [← same]
  cases call with
  | mutate mutation =>
    rw [served]
    exact mutation_held_back apart held mutation
  | loadScope scope bundle | clearScope scope =>
    exact carried (scope_call_keeps_batch (by simp) (by simp) (by simp) stepped)
  | beginBatch =>
    rw [served]
    exact begin_held_back held
  | endBatch order =>
    rw [served]
    exact end_held_back held order

theorem reached_held_back (apart : isTopLevel config config.rootEntity = false)
    {faults : List (Option Error)}
    (run : Reaches (watch config) (fun _ _ => True) (Watched.start faults) state) :
    HeldBack config state := by
  apply reaches_invariant (HeldBack config) _ _ run
  · refine ⟨fun _ => rfl, ?_, ?_⟩
    · intro inside
      cases inside
    · intro event member
      cases member
  · intro before call after held _ taken
    exact watch_held_back apart held taken

variable {order : List ScopeEntity}

omit [Database] in
theorem drained_events {buffered : HashMap ScopeEntity MutationEvent} {emitted : List MutationEvent}
    (visits : Visits order buffered) (held : ∀ key, buffered.lookup key = lastFor emitted key) :
    ((order.filterMap (fun key => buffered.lookup key)).map MutationEvent.key).Nodup ∧
      ∀ event, event ∈ order.filterMap (fun key => buffered.lookup key) ↔
        lastFor emitted event.key = some event := by
  have own : ∀ key event, buffered.lookup key = some event → event.key = key := by
    intro key event found
    rw [held] at found
    exact (last_for_key found).2
  constructor
  · have sublist := filterMap_labels_sublist id MutationEvent.key own order
    rw [List.map_id] at sublist
    exact visits.1.sublist sublist
  · intro event
    rw [List.mem_filterMap]
    constructor
    · intro drained
      obtain ⟨key, _, found⟩ := drained
      rw [own key event found, ← held]
      exact found
    · intro last
      rw [← held] at last
      exact ⟨event.key, (visits.2 event.key).mpr (Finmap.mem_of_lookup_eq_some last), last⟩

theorem announces_last {before : Memory} {events : List MutationEvent}
    (held : HeldBack config state) (distinct : (events.map MutationEvent.key).Nodup)
    (last : ∀ event, event ∈ events ↔ lastFor state.emitted event.key = some event)
    (scopes : before.versions = state.memory.versions) (bus : before.sent = state.memory.sent) :
    AnnouncesLast config state.memory (events.foldl (announce config) before) state.emitted := by
  have emitted : ∀ event ∈ events, event ∈ state.emitted := fun event member =>
    (last_for_key ((last event).mp member)).1
  have counted : events.map (versionKey config) = events.map MutationEvent.key :=
    List.map_congr_left (fun event member => held.keys event (emitted event member))
  rw [announce_all_eq]
  refine ⟨⟨events, ?_, distinct, last⟩, ?_⟩
  · rw [bus]
  · intro scope entity
    rw [getVersion, getVersion, counted, getOr_foldl_raise_once distinct, scopes]
    -- a key has a last event exactly when it has an event
    have affected : (versionScope config entity scope, entity) ∈ events.map MutationEvent.key ↔
        (versionScope config entity scope, entity) ∈ state.emitted.map (versionKey config) := by
      rw [List.mem_map, List.mem_map]
      constructor
      · intro announced
        obtain ⟨event, member, here⟩ := announced
        exact ⟨event, emitted event member,
          (held.keys event (emitted event member)).trans here⟩
      · intro mutated
        obtain ⟨event, member, here⟩ := mutated
        rw [held.keys event member] at here
        obtain ⟨final, found⟩ := last_for_some member
        have same := (last_for_key found).2
        refine ⟨final, (last final).mpr ?_, same.trans here⟩
        rw [same]
        exact found
    simp only [affected]

theorem end_law (held : HeldBack config state) (visits : Visits order state.memory.buffered) :
    BatchLaw config state (.endBatch order) (endBatch config order state.memory) := by
  refine ⟨?_, ?_, ?_, ?_, ?_⟩
  · intro inside
    rcases @end_batch_cases _ config order state.memory with
      ⟨_, same⟩ | ⟨_, same⟩ | ⟨_, same⟩
    · rw [same]
      exact ⟨rfl, rfl⟩
    · rw [same]
      exact ⟨rfl, rfl⟩
    · rw [same, announce_all_eq] at inside
      cases inside
  · intro other call inside outside
    cases call
    rcases @end_batch_cases _ config order state.memory with
      ⟨shut, _⟩ | ⟨deep, same⟩ | ⟨_, same⟩
    · omega
    · rw [same] at outside
      dsimp only at outside
      omega
    · obtain ⟨distinct, last⟩ := drained_events visits (held.opened inside)
      rw [same]
      exact announces_last held distinct last rfl rfl
  · intro other call outside
    exact if_pos outside
  · intro mutation call
    cases call
  · intro mutation call
    cases call

theorem begin_law (state : Watched) :
    BatchLaw config state .beginBatch (beginBatch state.memory) := by
  refine ⟨fun _ => ⟨rfl, rfl⟩, ?_, ?_, ?_, ?_⟩
  · intro order call
    cases call
  · intro order call
    cases call
  · intro mutation call
    cases call
  · intro mutation call
    cases call

theorem event_of_none_of_unscoped (unscoped : unscopedUpdate config memory.db mutation = true) :
    eventOf config memory mutation = none := by
  rw [eventOf]
  split_ifs
  · cases written : rowWrite config memory.db mutation with
    | none => rfl
    | some write => exact (write_event_none written).mpr unscoped
  · rfl

theorem event_of_some (well : (mutate config mutation memory).1.isOk = true)
    (resolves : unscopedUpdate config memory.db mutation = false) :
    ∃ event, eventOf config memory mutation = some event := by
  obtain ⟨rest, ⟨write, written, ran⟩ | ⟨error, failed⟩⟩ :=
    @mutate_cases _ config mutation memory
  · rw [eventOf, if_pos well, written, Option.bind_some]
    cases emits : write.event with
    | none =>
      rw [(write_event_none written).mp emits] at resolves
      cases resolves
    | some event => exact ⟨event, rfl⟩
  · rw [failed] at well
    cases well

theorem mutate_law (state : Watched) (mutation : Mutation) :
    BatchLaw config state (.mutate mutation)
      (serve config (.mutate mutation) state.memory).2 := by
  obtain ⟨db, rest, served⟩ := @mutation_served _ config mutation state.memory
  refine ⟨?_, ?_, ?_, ?_, ?_⟩
  · intro inside
    rw [served] at inside ⊢
    cases emits : eventOf config state.memory mutation with
    | none => exact ⟨rfl, rfl⟩
    | some event =>
      rw [emits] at inside
      dsimp only [Option.elim_some] at inside ⊢
      rw [emit_mutation_depth] at inside
      rw [emit_mutation_held event inside]
      exact ⟨rfl, rfl⟩
  · intro order call
    cases call
  · intro order call
    cases call
  · intro other call outside well resolves
    cases call
    obtain ⟨event, emits⟩ := event_of_some well resolves
    refine ⟨event, emits, ?_⟩
    have still : ({ state.memory with db := db, faults := rest } : Memory).depth = 0 := outside
    rw [served, emits]
    dsimp only [Option.elim_some]
    rw [emit_mutation_announced event still]
    refine ⟨rfl, ?_⟩
    intro scope entity
    exact getOr_raise state.memory.versions _ _
  · intro other call unscoped
    cases call
    rw [served, event_of_none_of_unscoped unscoped]
    exact ⟨rfl, rfl⟩

/-- In every run of a store, with scopes loaded and cleared and calls that fail: nothing is
announced or counted while a batch is open; the end of the outermost batch announces the last
event for each scope and entity mutated since it began and raises each of their counters once;
outside batches a mutation announces its event and raises its counter once. An update that
leaves its row without a scope announces nothing. -/
theorem batching_collapses (config : StoreConfig)
    (apart : isTopLevel config config.rootEntity = false) (faults : List (Option Error))
    (state : Watched)
    (run : Reaches (watch config) (fun _ _ => True) (Watched.start faults) state)
    (call : Call) (after : Memory) (batches : ∀ scope bundle, call ≠ .loadScope scope bundle)
    (unclears : ∀ scope, call ≠ .clearScope scope)
    (taken : step config state.memory call = some after) :
    BatchLaw config state call after := by
  have held := reached_held_back apart run
  rw [step] at taken
  split_ifs at taken with drains
  cases taken
  cases call with
  | mutate mutation => exact mutate_law state mutation
  | loadScope scope bundle => exact absurd rfl (batches scope bundle)
  | clearScope scope => exact absurd rfl (unclears scope)
  | beginBatch => exact begin_law state
  | endBatch order => exact end_law held drains

end

section

def createTask (id board : String) : Call :=
  .mutate (.create "task" board (record [("id", .string id), ("boardId", .string board)]) .app)

def updateTask (id field : String) (value : Value) : Mutation :=
  .update "task" id (record [(field, value)]) .app

def bothBoards : List ScopeEntity := [("b2", "task"), ("b1", "task")]

def nestedBatch : List Call :=
  [.beginBatch, createTask "t1" "b1", .beginBatch, createTask "t2" "b2", .endBatch bothBoards,
    .mutate (updateTask "t1" "done" (.number 1))]

theorem nested_batch_announces_two :
    ∃ state after, replay (watch boards) (fun _ _ => True) (Watched.start [])
        nestedBatch = some state ∧
      step boards state.memory (.endBatch bothBoards) = some after ∧
      state.emitted.length = 3 ∧ after.sent.length = 2 ∧
      getVersion boards after "b1" "task" = 1 ∧
      BatchLaw boards state (.endBatch bothBoards) after := by
  refine ⟨(replay (watch boards) (fun _ _ => True) (Watched.start [])
      nestedBatch).get (by decide),
    (step boards ((replay (watch boards) (fun _ _ => True)
      (Watched.start []) nestedBatch).get (by decide)).memory
        (.endBatch bothBoards)).get (by decide),
    (Option.some_get _).symm, (Option.some_get _).symm, by decide, by decide,
    by decide, ?_⟩
  apply batching_collapses boards (by decide) []
  · exact reaches_of_replay .start (Option.some_get _).symm
  · intro scope bundle same
    cases same
  · intro scope same
    cases same
  · exact (Option.some_get _).symm

def oneTask : Memory := (serve boards (createTask "t1" "b1") (Memory.new [])).2

def globalBoards : StoreConfig := { boards with topLevelEntities := ["board"] }

def twoBoards : Memory :=
  [Call.beginBatch, .mutate (.create "board" "" (record [("id", .string "b1")]) .app),
    .mutate (.create "board" "" (record [("id", .string "b2")]) .app)].foldl
    (fun memory call => (serve globalBoards call memory).2) (Memory.new [])

/-- Outside a batch an update succeeds that takes its row's scope away, and nothing is sent or
counted. At the end of a batch the boards of a store that also lists them as top-level share a
counter, which is raised twice. -/
theorem silent_update_and_shared_counter :
    (oneTask.depth = 0 ∧
      (mutate boards (updateTask "t1" "boardId" (.number 7)) oneTask).1.isOk ∧
      (serve boards (.mutate (updateTask "t1" "boardId" (.number 7)))
        oneTask).2.db.seen ("task", "t1") ≠ oneTask.db.seen ("task", "t1") ∧
      (serve boards (.mutate (updateTask "t1" "boardId" (.number 7)))
        oneTask).2.sent = oneTask.sent ∧
      (serve boards (.mutate (updateTask "t1" "boardId" (.number 7)))
        oneTask).2.versions = oneTask.versions) ∧
    twoBoards.depth = 1 ∧
      Visits [("b1", "board"), ("b2", "board")] twoBoards.buffered ∧
      getVersion globalBoards twoBoards "" "board" = 0 ∧
      getVersion globalBoards (endBatch globalBoards [("b1", "board"), ("b2", "board")] twoBoards)
        "" "board" = 2 := by
  decide

end

end Stitch.Client.Batching
