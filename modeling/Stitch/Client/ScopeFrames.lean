import Stitch.Client.MemoryStore
import Stitch.Client.ScopeReplacement

/-!
# What scope operations leave in the memory cache

Loading a scope fills a fresh database and swaps it in, clearing the loaded scope swaps in an
empty one. Rows that belong to no scope, and rows of further scopes, live in the database that is
given up.
-/

namespace Stitch.Client.ScopeFrames

open Foundation.FallibleState Mutations Consolidation MemoryStore
open LocalRows (Database StoreConfig Db recordId ScopeBundle bundleRows createRows)
open ScopeReplacement (boards record)

section

variable [Database] (config : StoreConfig)

/-- A top-level row, or a row of a scope other than the given ones. -/
def Apart (scopes : List String) (key : RowKey) (row : Record) : Prop :=
  isTopLevel config key.1 = true ∨
    ∃ other ∈ resolveScope config key.1 row, other ∉ scopes

instance (scopes : List String) (key : RowKey) (row : Record) :
    Decidable (Apart config scopes key row) :=
  inferInstanceAs (Decidable (_ ∨ _))

/-- The bundle has a row of the entity with the id, or one that is given an id. -/
def Mentions (bundle : ScopeBundle) (key : RowKey) : Prop :=
  ∃ row ∈ bundleRows config bundle, row.1 = key.1 ∧
    ∀ id ∈ recordId row.2, id = key.2

instance (bundle : ScopeBundle) (key : RowKey) : Decidable (Mentions config bundle key) :=
  inferInstanceAs (Decidable (∃ row ∈ bundleRows config bundle, row.1 = key.1 ∧
    ∀ id ∈ recordId row.2, id = key.2))

def KeepsRows (kind : RowKey → Record → Prop) (before after : Memory) : Prop :=
  ∀ key row, before.db.rows.lookup key = some row → kind key row →
    after.db.rows.lookup key = some row

def Lacks (kind : RowKey → Record → Prop) (memory : Memory) : Prop :=
  ∀ key row, memory.db.rows.lookup key = some row → ¬ kind key row

variable {config} {after memory : Memory} {scope : String}

omit [Database] in
theorem keeps_rows_iff_lacks {kind : RowKey → Record → Prop} {before : Memory}
    (given : ∀ key row, kind key row → after.db.rows.lookup key = none) :
    KeepsRows kind before after ↔ Lacks kind before := by
  constructor
  · intro keeps key row held ofKind
    have kept := keeps key row held ofKind
    rw [given key row ofKind] at kept
    cases kept
  · intro lacks key row held ofKind
    exact absurd ofKind (lacks key row held)

theorem create_rows_unmentioned {rows : List (String × Record)} {key : RowKey}
    (unmentioned : ∀ row ∈ rows, ¬ (row.1 = key.1 ∧ ∀ id ∈ recordId row.2, id = key.2)) :
    (createRows rows).rows.lookup key = none := by
  induction rows using List.reverseRecOn with
  | nil => rfl
  | append_singleton rows row ih =>
    have earlier := ih (fun other member => unmentioned other (List.mem_append_left _ member))
    have created : createRows (rows ++ [row]) = (createRows rows).put row.1
        ((recordId row.2).getD (Database.newId (createRows rows))) (Database.created row.2) := by
      rw [createRows, List.foldl_concat]
      rfl
    rw [created, Db.lookup_put_other _ _ ?_]
    · exact earlier
    · intro same
      apply unmentioned row (by simp)
      rw [same]
      refine ⟨rfl, ?_⟩
      intro id identified
      rw [Option.mem_def.mp identified]
      rfl

theorem load_scope_db {bundle : ScopeBundle}
    (ran : loadScope config scope bundle memory = (.ok (), after)) :
    after.db = createRows (bundleRows config bundle) := by
  have served : serve config (.loadScope scope bundle) memory = (.ok (), after) := ran
  obtain ⟨rest, ⟨reached, takes, same⟩ | ⟨error, failed⟩⟩ :=
    @serve_cases _ config (.loadScope scope bundle) memory
  · obtain ⟨events, swapped⟩ := @swap_scope_eq _ config scope bundle
      { memory with faults := rest }
    rw [served] at same
    rw [effect, swapped] at takes
    rw [(Prod.mk.inj same).2, ← Option.some.inj takes]
  · rw [served] at failed
    cases (Prod.mk.inj failed).1

theorem clear_scope_db (ran : clearScope config scope memory = (.ok (), after)) :
    after.db = Db.empty := by
  obtain ⟨_, middle, _, cleared⟩ := bind_ok_iff.mp ran
  rw [← (Prod.mk.inj cleared).2]
  rfl

/-- A clear of the loaded scope leaves no row, so it keeps the top-level rows and the rows of
other scopes exactly when there are none. A load leaves only rows that the bundle mentions, so
it keeps the top-level rows and the rows of further scopes that the bundle does not mention
exactly when there are none. -/
theorem scope_operations_give_up_other_rows (config : StoreConfig)
    (scope : String) (memory after : Memory) :
    (memory.currentScope = none ∨ memory.currentScope = some scope →
      clearScope config scope memory = (.ok (), after) →
        (∀ key, after.db.rows.lookup key = none) ∧
          (KeepsRows (Apart config [scope]) memory after ↔
            Lacks (Apart config [scope]) memory)) ∧
    ∀ bundle, loadScope config scope bundle memory = (.ok (), after) →
      (∀ key row, after.db.rows.lookup key = some row → Mentions config bundle key) ∧
        (KeepsRows (fun key row => Apart config (scope :: memory.currentScope.toList) key row ∧
            ¬ Mentions config bundle key) memory after ↔
          Lacks (fun key row => Apart config (scope :: memory.currentScope.toList) key row ∧
            ¬ Mentions config bundle key) memory) := by
  constructor
  · intro _ ran
    have emptied : ∀ key, after.db.rows.lookup key = none := by
      intro key
      rw [clear_scope_db ran]
      rfl
    exact ⟨emptied, keeps_rows_iff_lacks (fun key _ _ => emptied key)⟩
  · intro bundle ran
    have gone : ∀ key, ¬ Mentions config bundle key → after.db.rows.lookup key = none := by
      intro key unmentioned
      rw [load_scope_db ran]
      apply create_rows_unmentioned
      intro row member mentions
      exact unmentioned ⟨row, member, mentions⟩
    refine ⟨?_, keeps_rows_iff_lacks (fun key _ kind => gone key kind.2)⟩
    intro key row held
    by_contra unmentioned
    rw [gone key unmentioned] at held
    cases held

end

section

def taggedBoards : StoreConfig := { boards with topLevelEntities := ["tag"] }

def noRows : ScopeBundle := { root := none, children := [] }

def createCall (entity scope id : String) : Call :=
  .mutate (.create entity scope (record [("id", .string id)]) .app)

def afterCalls (calls : List Call) (memory : Memory) : Memory :=
  calls.foldl (fun held call => (serve taggedBoards call held).2) memory

def mixedMemory : Memory :=
  afterCalls [.loadScope "b1" noRows, createCall "task" "b1" "t1", createCall "task" "b2" "t2",
    createCall "tag" "" "g1"] (Memory.new [])

def boardMemory : Memory :=
  afterCalls [.loadScope "b1" noRows, createCall "task" "b1" "t1"] (Memory.new [])

theorem lacks_of_entries {kind : RowKey → Record → Prop} {memory : Memory}
    (none : ∀ entry ∈ memory.db.rows.entries, ¬ kind entry.1 entry.2) : Lacks kind memory := by
  intro key row held
  exact none ⟨key, row⟩ (AList.mem_lookup_iff.mp held)

def cleared (scope : String) (memory : Memory) : Memory :=
  (clearScope taggedBoards scope memory).2

def loaded (scope : String) (memory : Memory) : Memory :=
  (loadScope taggedBoards scope noRows memory).2

/-- With nothing but the loaded board in memory, nothing else is lost. -/
theorem lone_board_loses_nothing_else :
    KeepsRows (Apart taggedBoards ["b1"]) boardMemory (cleared "b1" boardMemory) ∧
      KeepsRows (fun key row => Apart taggedBoards ["b2", "b1"] key row ∧
        ¬ Mentions taggedBoards noRows key) boardMemory (loaded "b2" boardMemory) := by
  have clears := (scope_operations_give_up_other_rows taggedBoards "b1"
    boardMemory (cleared "b1" boardMemory)).1 (by decide) (ended_ok (by decide))
  have loads := (scope_operations_give_up_other_rows taggedBoards "b2"
    boardMemory (loaded "b2" boardMemory)).2 noRows (ended_ok (by decide))
  refine ⟨clears.2.mpr (lacks_of_entries (by decide)), ?_⟩
  have current : "b2" :: boardMemory.currentScope.toList = ["b2", "b1"] := by decide
  rw [current] at loads
  exact loads.2.mpr (lacks_of_entries (by decide))

/-- Clearing the loaded board takes the tag and the task of another board with it. Clearing the
other board takes the task of the loaded one. A load takes the tag. -/
theorem scope_operations_lose_other_rows :
    clearScope taggedBoards "b1" mixedMemory = (.ok (), cleared "b1" mixedMemory) ∧
      ¬ KeepsRows (fun key _ => isTopLevel taggedBoards key.1 = true) mixedMemory
        (cleared "b1" mixedMemory) ∧
      ¬ KeepsRows (Apart taggedBoards ["b1"]) mixedMemory (cleared "b1" mixedMemory) ∧
      clearScope taggedBoards "b2" mixedMemory = (.ok (), cleared "b2" mixedMemory) ∧
      ¬ KeepsRows (Apart taggedBoards ["b2"]) mixedMemory (cleared "b2" mixedMemory) ∧
      loadScope taggedBoards "b1" noRows mixedMemory =
        (.ok (), loaded "b1" mixedMemory) ∧
      ¬ KeepsRows (fun key _ => isTopLevel taggedBoards key.1 = true ∧
        ¬ Mentions taggedBoards noRows key) mixedMemory (loaded "b1" mixedMemory) := by
  have lost : ∀ {kind : RowKey → Record → Prop} {after : Memory} (key : RowKey) (row : Record),
      mixedMemory.db.rows.lookup key = some row → kind key row →
      after.db.rows.lookup key = none → ¬ KeepsRows kind mixedMemory after := by
    intro kind after key row held ofKind gone keeps
    have kept := keeps key row held ofKind
    rw [gone] at kept
    cases kept
  have tag : mixedMemory.db.rows.lookup ("tag", "g1") =
      some (Database.created (record [("id", .string "g1")])) := by decide
  have task : ∀ id board, id = "t1" ∧ board = "b1" ∨ id = "t2" ∧ board = "b2" →
      mixedMemory.db.rows.lookup ("task", id) = some (Database.created
        (record [("id", .string id), ("boardId", .string board)])) := by
    rintro id board (⟨rfl, rfl⟩ | ⟨rfl, rfl⟩)
    · decide
    · decide
  exact ⟨ended_ok (by decide), lost _ _ tag (by decide) (by decide),
    lost _ _ (task "t2" "b2" (by decide)) (by decide) (by decide), ended_ok (by decide),
    lost _ _ (task "t1" "b1" (by decide)) (by decide) (by decide), ended_ok (by decide),
    lost _ _ tag (by decide) (by decide)⟩

end

end Stitch.Client.ScopeFrames
