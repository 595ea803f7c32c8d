import Stitch.Foundation.FiniteMap
import Stitch.P2P.HybridClock

/-!
# Last-writer-wins applier

Transcription of `lww.rs`. Each record has a cell with the winning write and the stamp of the
highest collected tombstone, its floor, which lies strictly below the write it holds.
-/

namespace Stitch.P2P.LastWriterWins

open Foundation.FiniteMap HybridClock

inductive Op where
  | insert
  | update
  | delete
  deriving DecidableEq

def Op.isDelete : Op → Bool
  | .delete => true
  | _ => false

@[ext] structure StampedWrite where
  stamp : Stamp
  op : Op
  entity : String
  id : String
  data : List UInt8
  deriving DecidableEq

inductive MergeOutcome where
  | applied
  | staleDropped
  | belowGcFloor
  deriving DecidableEq

@[ext] structure Cell where
  current : Option StampedWrite
  gcFloor : Option Stamp
  floorBelow : ∀ write ∈ current, ∀ floor ∈ gcFloor, floor < write.stamp
  deriving DecidableEq

def Cell.empty : Cell := ⟨none, none, by simp⟩

def atOrBelow (stamp : Stamp) : Option Stamp → Bool
  | none => false
  | some bound => decide (stamp ≤ bound)

theorem at_or_below_iff (stamp : Stamp) (bound : Option Stamp) :
    atOrBelow stamp bound = true ↔ ∃ value ∈ bound, stamp ≤ value := by
  cases bound <;> simp [atOrBelow]

variable {stamp : Stamp}

theorem not_at_or_below {bound : Option Stamp} (above : ¬atOrBelow stamp bound = true) :
    ∀ value ∈ bound, value < stamp := by
  intro value held
  by_contra notBelow
  exact above ((at_or_below_iff stamp bound).mpr ⟨value, held, not_lt.mp notBelow⟩)

def Cell.merge (cell : Cell) (write : StampedWrite) : Cell × MergeOutcome :=
  if below : atOrBelow write.stamp cell.gcFloor = true then (cell, .belowGcFloor)
  else if atOrBelow write.stamp (cell.current.map (·.stamp)) = true then
    (cell, .staleDropped)
  else
    ({ current := some write
       gcFloor := cell.gcFloor
       floorBelow := by
        intro held same floor isFloor
        cases same
        exact not_at_or_below below floor isFloor }, .applied)

/-- Neither guard of `merge` drops a write with this stamp. -/
def Cell.admits (cell : Cell) (stamp : Stamp) : Bool :=
  !atOrBelow stamp cell.gcFloor && !atOrBelow stamp (cell.current.map (·.stamp))

abbrev RecordKey := String × String

@[ext] structure Applier where
  cells : HashMap RecordKey Cell
  deriving DecidableEq

def Applier.new : Applier := ⟨∅⟩

def Applier.cell (applier : Applier) (key : RecordKey) : Cell :=
  getOr applier.cells key Cell.empty

def Applier.merge (applier : Applier) (write : StampedWrite) : Applier × MergeOutcome :=
  let key := (write.entity, write.id)
  let merged := (applier.cell key).merge write
  (⟨applier.cells.insert key merged.1⟩, merged.2)

/-- The floor after collecting a tombstone: the old one unless the tombstone is higher. -/
def raiseFloor (floor : Option Stamp) (stamp : Stamp) : Stamp :=
  match floor with
  | some prev => if stamp ≤ prev then prev else stamp
  | none => stamp

theorem raise_floor_above {floor : Option Stamp} (above : ∀ value ∈ floor, value < stamp) :
    raiseFloor floor stamp = stamp := by
  cases floor with
  | none => rfl
  | some prev => rw [raiseFloor, if_neg (not_le.mpr (above prev rfl))]

def Cell.collect (cell : Cell) : Option Cell :=
  match cell.current with
  | none => none
  | some current =>
    if current.op.isDelete then
      some {
        current := none
        gcFloor := some (raiseFloor cell.gcFloor current.stamp)
        floorBelow := by simp }
    else none

def Applier.collectTombstone (applier : Applier) (entity id : String) : Applier × Bool :=
  match (applier.cells.lookup (entity, id)).bind Cell.collect with
  | none => (applier, false)
  | some collected => (⟨applier.cells.insert (entity, id) collected⟩, true)

/-- The write a cell shows to readers: the one it holds unless it is a tombstone. -/
def Cell.shown (cell : Cell) : Option StampedWrite :=
  match cell.current with
  | some write => if write.op.isDelete then none else some write
  | none => none

def Applier.visible (applier : Applier) (entity id : String) : Option (List UInt8) :=
  (applier.cells.lookup (entity, id)).bind fun cell => cell.shown.map (·.data)

def Applier.currentStamp (applier : Applier) (entity id : String) : Option Stamp :=
  (applier.cells.lookup (entity, id)).bind fun cell => cell.current.map (·.stamp)

def Applier.visibleWithAuthor (applier : Applier) (entity id : String) :
    Option (List UInt8 × PeerId) :=
  (applier.cells.lookup (entity, id)).bind fun cell =>
    cell.shown.map fun write => (write.data, write.stamp.peer)

def Applier.visibleEntity (applier : Applier) (order : List RecordKey) (entity : String) :
    List (String × List UInt8) :=
  (order.filter fun key => key.1 = entity).filterMap fun key =>
    (applier.cells.lookup key).bind fun cell =>
      cell.shown.map fun write => (key.2, write.data)

def Applier.entriesWithAuthors (applier : Applier) (order : List RecordKey)
    (entity : String) : List (String × List UInt8 × PeerId) :=
  (order.filter fun key => key.1 = entity).filterMap fun key =>
    (applier.cells.lookup key).bind fun cell =>
      cell.shown.map fun write => (key.2, write.data, write.stamp.peer)

@[simp] theorem new_cell (key : RecordKey) : Applier.new.cell key = Cell.empty := by
  simp [Applier.cell, Applier.new]

theorem merge_cell (applier : Applier) (write : StampedWrite) (key : RecordKey) :
    (applier.merge write).1.cell key =
      if key = (write.entity, write.id) then ((applier.cell key).merge write).1
      else applier.cell key := by
  split_ifs with same
  · subst same
    exact getOr_insert_self _ _ _ _
  · exact getOr_insert_other _ _ _ same

theorem collect_cell (applier : Applier) (entity id : String) (key : RecordKey) :
    (applier.collectTombstone entity id).1.cell key =
      if key = (entity, id) then ((applier.cell key).collect).getD (applier.cell key)
      else applier.cell key := by
  have emptyKept : Cell.empty.collect = none := rfl
  unfold Applier.collectTombstone
  split_ifs with same
  · subst same
    cases found : applier.cells.lookup (entity, id) with
    | none => simp [Applier.cell, getOr, found, emptyKept]
    | some cell =>
      cases collected : cell.collect with
      | none | some next => simp [Applier.cell, getOr, found, collected]
  · cases (applier.cells.lookup (entity, id)).bind Cell.collect with
    | none => rfl
    | some next => exact getOr_insert_other _ _ _ same

theorem cell_merge_cases (cell : Cell) (write : StampedWrite) :
    ((cell.merge write).1 = cell ∧ (cell.merge write).2 ≠ .applied ∧
      ((∃ floor ∈ cell.gcFloor, write.stamp ≤ floor) ∨
        ∃ current ∈ cell.current, write.stamp ≤ current.stamp)) ∨
    ((cell.merge write).1.current = some write ∧
      (cell.merge write).1.gcFloor = cell.gcFloor ∧ (cell.merge write).2 = .applied ∧
      (∀ floor ∈ cell.gcFloor, floor < write.stamp) ∧
        ∀ current ∈ cell.current, current.stamp < write.stamp) := by
  unfold Cell.merge
  split_ifs with below stale
  · exact Or.inl ⟨rfl, by simp, Or.inl ((at_or_below_iff _ _).mp below)⟩
  · obtain ⟨bound, held, lower⟩ := (at_or_below_iff _ _).mp stale
    obtain ⟨current, isCurrent, rfl⟩ := Option.mem_map.mp held
    exact Or.inl ⟨rfl, by simp, Or.inr ⟨current, isCurrent, lower⟩⟩
  · refine Or.inr ⟨rfl, rfl, rfl, not_at_or_below below, ?_⟩
    intro current isCurrent
    exact not_at_or_below stale current.stamp (Option.mem_map_of_mem _ isCurrent)

variable {cell : Cell} {write : StampedWrite}

theorem cell_merge_above (floors : ∀ floor ∈ cell.gcFloor, floor < write.stamp)
    (currents : ∀ current ∈ cell.current, current.stamp < write.stamp) :
    (cell.merge write).1.current = some write ∧ (cell.merge write).2 = .applied := by
  rcases cell_merge_cases cell write with ⟨-, -, bound⟩ | ⟨installed, -, applied, -, -⟩
  · rcases bound with ⟨floor, isFloor, lower⟩ | ⟨current, isCurrent, lower⟩
    · exact absurd (floors floor isFloor) (not_lt_of_ge lower)
    · exact absurd (currents current isCurrent) (not_lt_of_ge lower)
  · exact ⟨installed, applied⟩

theorem merge_shown (cell : Cell) (write : StampedWrite) :
    (cell.merge write).1.shown =
      if cell.admits write.stamp then (if write.op.isDelete then none else some write)
      else cell.shown := by
  unfold Cell.merge Cell.admits
  split_ifs <;> simp_all [Cell.shown]

theorem admits_iff (cell : Cell) (stamp : Stamp) :
    cell.admits stamp = true ↔
      (∀ floor ∈ cell.gcFloor, floor < stamp) ∧
        ∀ current ∈ cell.current, current.stamp < stamp := by
  unfold Cell.admits
  cases cell.gcFloor <;> cases cell.current <;> simp [atOrBelow]

theorem merge_shown_at (applier : Applier) (write : StampedWrite) (key : RecordKey) :
    ((applier.merge write).1.cell key).shown =
      if key = (write.entity, write.id) ∧ (applier.cell key).admits write.stamp = true then
        (if write.op.isDelete then none else some write)
      else (applier.cell key).shown := by
  rw [merge_cell]
  by_cases keyed : key = (write.entity, write.id)
  · rw [if_pos keyed, merge_shown]
    simp only [keyed, true_and]
  · rw [if_neg keyed, if_neg (fun here => keyed here.1)]

theorem merge_applied_iff (applier : Applier) (write : StampedWrite) :
    (applier.merge write).2 = .applied ↔
      (applier.cell (write.entity, write.id)).admits write.stamp = true := by
  rw [admits_iff]
  rcases cell_merge_cases (applier.cell (write.entity, write.id)) write with
    ⟨-, dropped, bound⟩ | ⟨-, -, applied, floors, currents⟩
  · refine iff_of_false dropped ?_
    intro admitted
    rcases bound with ⟨floor, isFloor, lower⟩ | ⟨current, isCurrent, lower⟩
    · exact absurd (admitted.1 floor isFloor) (not_lt_of_ge lower)
    · exact absurd (admitted.2 current isCurrent) (not_lt_of_ge lower)
  · exact iff_of_true applied ⟨floors, currents⟩

theorem collect_shown (cell : Cell) : (cell.collect.getD cell).shown = cell.shown := by
  cases held : cell.current with
  | none => simp [Cell.collect, held]
  | some current =>
    cases deleted : current.op.isDelete with
    | true => simp [Cell.collect, Cell.shown, held, deleted]
    | false => simp [Cell.collect, held, deleted]

theorem shown_not_deleted (shown : cell.shown = some write) : write.op.isDelete = false := by
  cases held : cell.current with
  | none => simp [Cell.shown, held] at shown
  | some current =>
    simp only [Cell.shown, held] at shown
    split_ifs at shown with deleted
    cases shown
    exact Bool.eq_false_iff.mpr deleted

theorem shown_admits (shown : cell.shown = some write) (stamp : Stamp) :
    cell.admits stamp = true ↔ write.stamp < stamp := by
  cases held : cell.current with
  | none => simp [Cell.shown, held] at shown
  | some current =>
    simp only [Cell.shown, held] at shown
    split_ifs at shown
    cases shown
    rw [admits_iff]
    constructor
    · intro above
      exact above.2 write held
    · intro above
      constructor
      · intro floor isFloor
        exact (cell.floorBelow write held floor isFloor).trans above
      · intro other isOther
        rw [held] at isOther
        cases isOther
        exact above

theorem merge_admits (admitted : (cell.merge write).1.admits stamp = true) :
    cell.admits stamp = true ∧ write.stamp < stamp := by
  rcases cell_merge_cases cell write with ⟨same, -, bound⟩ | ⟨held, floor, -, -, currents⟩
  · rw [same] at admitted
    refine ⟨admitted, ?_⟩
    rw [admits_iff] at admitted
    rcases bound with ⟨value, isFloor, lower⟩ | ⟨current, isCurrent, lower⟩
    · exact lower.trans_lt (admitted.1 value isFloor)
    · exact lower.trans_lt (admitted.2 current isCurrent)
  · rw [admits_iff] at admitted ⊢
    have above := admitted.2 write held
    rw [floor] at admitted
    exact ⟨⟨admitted.1, fun current isCurrent => (currents current isCurrent).trans above⟩, above⟩

def Cell.mergeWrites (cell : Cell) (writes : List StampedWrite) : Cell :=
  writes.foldl (fun current write => (current.merge write).1) cell

theorem merge_writes_snoc (cell : Cell) (writes : List StampedWrite) (write : StampedWrite) :
    cell.mergeWrites (writes ++ [write]) = ((cell.mergeWrites writes).merge write).1 := by
  simp [Cell.mergeWrites, List.foldl_append]

/-- A list of writes either leaves the cell, which admits none of them, or
installs one of highest stamp. -/
theorem merge_writes_cases (cell : Cell) (writes : List StampedWrite) :
    ((∀ write ∈ writes, cell.admits write.stamp = false) ∧ cell.mergeWrites writes = cell) ∨
      ∃ write ∈ writes, cell.admits write.stamp = true ∧
        (∀ other ∈ writes, other.stamp ≤ write.stamp) ∧
        (cell.mergeWrites writes).current = some write ∧
        (cell.mergeWrites writes).gcFloor = cell.gcFloor := by
  induction writes using List.reverseRecOn with
  | nil => exact Or.inl ⟨by simp, rfl⟩
  | append_singleton writes last ih =>
    rw [merge_writes_snoc]
    rcases ih with ⟨none, same⟩ | ⟨write, listed, admitted, highest, current, floor⟩
    · rw [same]
      rcases cell_merge_cases cell last with ⟨kept, -, bound⟩ | ⟨installed, floor, -, floors, currents⟩
      · refine Or.inl ⟨?_, kept⟩
        intro other member
        rcases List.mem_append.mp member with early | late
        · exact none other early
        · rw [List.mem_singleton.mp late, Bool.eq_false_iff, Ne, admits_iff]
          intro above
          rcases bound with ⟨stamp, isFloor, lower⟩ | ⟨held, isHeld, lower⟩
          · exact absurd (above.1 stamp isFloor) (not_lt_of_ge lower)
          · exact absurd (above.2 held isHeld) (not_lt_of_ge lower)
      · refine Or.inr ⟨last, by simp, (admits_iff _ _).mpr ⟨floors, currents⟩, ?_, installed, floor⟩
        intro other member
        rcases List.mem_append.mp member with early | late
        · have refused := none other early
          rw [Bool.eq_false_iff, Ne, admits_iff] at refused
          by_contra above
          rw [not_le] at above
          exact refused ⟨fun stamp isFloor => (floors stamp isFloor).trans above,
            fun held isHeld => (currents held isHeld).trans above⟩
        · rw [List.mem_singleton.mp late]
    · rcases cell_merge_cases (cell.mergeWrites writes) last with
        ⟨kept, -, bound⟩ | ⟨installed, sameFloor, -, floors, currents⟩
      · rw [kept]
        refine Or.inr ⟨write, List.mem_append_left _ listed, admitted, ?_, current, floor⟩
        intro other member
        rcases List.mem_append.mp member with early | late
        · exact highest other early
        · rw [List.mem_singleton.mp late]
          rcases bound with ⟨stamp, isFloor, lower⟩ | ⟨held, isHeld, lower⟩
          · exact lower.trans ((cell.mergeWrites writes).floorBelow _ current stamp isFloor).le
          · rw [current] at isHeld
            cases isHeld
            exact lower
      · have above := currents write current
        have admitsLast : cell.admits last.stamp = true := by
          rw [admits_iff] at admitted ⊢
          exact ⟨fun stamp isFloor => (admitted.1 stamp isFloor).trans above,
            fun held isHeld => (admitted.2 held isHeld).trans above⟩
        refine Or.inr ⟨last, by simp, admitsLast, ?_, installed, sameFloor.trans floor⟩
        intro other member
        rcases List.mem_append.mp member with early | late
        · exact (highest other early).trans above.le
        · rw [List.mem_singleton.mp late]

/-- Writes the cell does not admit, the order and the repetition of the others make no difference,
as long as equal stamps mean equal writes. -/
theorem merge_writes_congr (cell : Cell) {writes others : List StampedWrite}
    (included : ∀ write ∈ writes, write ∈ others)
    (stale : ∀ write ∈ others, write ∈ writes ∨ cell.admits write.stamp = false)
    (distinct : ∀ left ∈ writes, ∀ right ∈ writes, left.stamp = right.stamp → left = right) :
    cell.mergeWrites others = cell.mergeWrites writes := by
  rcases merge_writes_cases cell writes with ⟨none, same⟩ |
    ⟨write, listed, admitted, highest, current, floor⟩
  · rcases merge_writes_cases cell others with ⟨-, otherSame⟩ | ⟨other, otherListed, otherAdmitted, -⟩
    · rw [same, otherSame]
    · rcases stale other otherListed with known | refused
      · rw [none other known] at otherAdmitted
        cases otherAdmitted
      · rw [refused] at otherAdmitted
        cases otherAdmitted
  · rcases merge_writes_cases cell others with
      ⟨otherNone, -⟩ | ⟨other, otherListed, otherAdmitted, otherHighest, otherCurrent, otherFloor⟩
    · rw [otherNone write (included write listed)] at admitted
      cases admitted
    · rcases stale other otherListed with known | refused
      · have stamps := le_antisymm (highest other known) (otherHighest write (included write listed))
        have same := distinct other known write listed stamps
        apply Cell.ext
        · rw [current, otherCurrent, same]
        · rw [floor, otherFloor]
      · rw [refused] at otherAdmitted
        cases otherAdmitted

theorem visible_eq_shown (applier : Applier) (entity id : String) :
    applier.visible entity id = (applier.cell (entity, id)).shown.map (·.data) := by
  cases found : applier.cells.lookup (entity, id) with
  | none => simp [Applier.visible, Applier.cell, getOr, found, Cell.shown, Cell.empty]
  | some cell => simp [Applier.visible, Applier.cell, getOr, found]

theorem visible_with_author_eq_shown (applier : Applier) (entity id : String) :
    applier.visibleWithAuthor entity id =
      (applier.cell (entity, id)).shown.map fun write => (write.data, write.stamp.peer) := by
  cases found : applier.cells.lookup (entity, id) with
  | none => simp [Applier.visibleWithAuthor, Applier.cell, getOr, found, Cell.shown, Cell.empty]
  | some cell => simp [Applier.visibleWithAuthor, Applier.cell, getOr, found]

section

variable {applier : Applier} {order : List RecordKey} (visits : Visits order applier.cells)
include visits

theorem mem_entries_with_authors (entity id : String) (data : List UInt8) (author : PeerId) :
    (id, data, author) ∈ applier.entriesWithAuthors order entity ↔
      ∃ write, (applier.cell (entity, id)).shown = some write ∧ write.data = data ∧
        write.stamp.peer = author := by
  simp only [Applier.entriesWithAuthors, List.mem_filterMap, List.mem_filter, decide_eq_true_eq,
    Option.bind_eq_some_iff, Option.map_eq_some_iff, Prod.mk.injEq]
  constructor
  · intro listed
    rcases listed with ⟨⟨_, _⟩, ⟨-, rfl⟩, cell, found, write, shown, rfl, rfl, rfl⟩
    refine ⟨write, ?_, rfl, rfl⟩
    rw [Applier.cell, getOr_of_lookup found, shown]
  · intro visible
    rcases visible with ⟨write, shown, rfl, rfl⟩
    cases found : applier.cells.lookup (entity, id) with
    | none => simp [Applier.cell, getOr, found, Cell.shown, Cell.empty] at shown
    | some cell =>
      rw [Applier.cell, getOr_of_lookup found] at shown
      have visited : (entity, id) ∈ order := by
        rw [visits.2]
        exact Finmap.mem_of_lookup_eq_some found
      exact ⟨(entity, id), ⟨visited, rfl⟩, cell, found, write, shown, rfl, rfl, rfl⟩

theorem entries_with_authors_distinct (entity : String) :
    ((applier.entriesWithAuthors order entity).map Prod.fst).Nodup := by
  have keys : ((order.filter fun key => key.1 = entity).map Prod.snd).Nodup := by
    apply (visits.1.filter _).map_on
    intro left leftMember right rightMember same
    simp only [List.mem_filter, decide_eq_true_eq] at leftMember rightMember
    exact Prod.ext (leftMember.2.trans rightMember.2.symm) same
  refine keys.sublist (filterMap_labels_sublist Prod.snd Prod.fst ?_ _)
  intro key entry shown
  simp only [Option.bind_eq_some_iff, Option.map_eq_some_iff] at shown
  obtain ⟨cell, -, write, -, rfl⟩ := shown
  rfl

end

end Stitch.P2P.LastWriterWins
