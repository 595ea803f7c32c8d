import Mathlib.Data.List.Sort

/-!
# Stable sorting

`List.insertionSort` keeps the order of elements that compare equal, so selecting some of the
elements commutes with sorting.
-/

namespace Stitch.Foundation.StableSort

section

variable {Item : Type}

/-- Some occurrence of the first item stands before one of the second. -/
def Precedes (first second : Item) (items : List Item) : Prop := List.Sublist [first, second] items

instance [DecidableEq Item] (first second : Item) (items : List Item) :
    Decidable (Precedes first second items) :=
  inferInstanceAs (Decidable (List.Sublist [first, second] items))

variable {first second : Item} {items : List Item}

theorem precedes_cons {front : Item} {rest : List Item} :
    Precedes first second (front :: rest) ↔
      Precedes first second rest ∨ first = front ∧ second ∈ rest := by
  unfold Precedes
  rw [List.sublist_cons_iff]
  simp only [List.cons.injEq]
  constructor
  · intro placed
    rcases placed with later | ⟨tail, ⟨here, named⟩, found⟩
    · exact Or.inl later
    · rw [← named, List.singleton_sublist] at found
      exact Or.inr ⟨here, found⟩
  · intro placed
    rcases placed with later | ⟨here, found⟩
    · exact Or.inl later
    · exact Or.inr ⟨[second], ⟨here, rfl⟩, List.singleton_sublist.mpr found⟩

/-- In a sorted list an item stands before those that are not below it. -/
theorem precedes_of_not_below {rel : Item → Item → Prop} [Std.Total rel]
    (sorted : items.Pairwise rel) (held : first ∈ items) (also : second ∈ items)
    (apart : ¬ rel second first) : Precedes first second items := by
  induction items with
  | nil => cases held
  | cons front rest ih =>
    rw [List.pairwise_cons] at sorted
    rw [precedes_cons]
    rcases List.mem_cons.mp held with here | later
    · rcases List.mem_cons.mp also with same | after
      · rw [here, same] at apart
        exact absurd (Std.Total.total front front) (by simpa using apart)
      · exact Or.inr ⟨here, after⟩
    · rcases List.mem_cons.mp also with same | after
      · rw [same] at apart
        exact absurd (sorted.1 first later) apart
      · exact Or.inl (ih sorted.2 later after)

theorem precedes_asymm (distinct : items.Nodup) (forward : Precedes first second items) :
    ¬ Precedes second first items := by
  induction items with
  | nil => cases forward
  | cons front rest ih =>
    rw [List.nodup_cons] at distinct
    intro backward
    rw [precedes_cons] at forward backward
    have inRest : ∀ {early late : Item}, Precedes early late rest → early ∈ rest ∧ late ∈ rest := by
      intro early late placed
      exact ⟨placed.subset List.mem_cons_self, placed.subset (by simp)⟩
    rcases forward with later | ⟨here, found⟩
    · rcases backward with again | ⟨front', held⟩
      · exact ih distinct.2 later again
      · rw [← front'] at distinct
        exact distinct.1 (inRest later).2
    · rw [← here] at distinct
      rcases backward with again | ⟨same, held⟩
      · exact distinct.1 (inRest again).2
      · exact distinct.1 held

end

variable {Item : Type} (rel : Item → Item → Prop) [DecidableRel rel]
variable {items : List Item}

theorem ordered_insert_of_forall {item : Item} (below : ∀ other ∈ items, rel item other) :
    items.orderedInsert rel item = item :: items := by
  cases items with
  | nil => rfl
  | cons first rest =>
    rw [List.orderedInsert_cons, if_pos (below first List.mem_cons_self)]

variable [IsTrans Item rel]

theorem filter_ordered_insert (select : Item → Bool) (item : Item) (sorted : items.Pairwise rel) :
    (items.orderedInsert rel item).filter select =
      if select item then (items.filter select).orderedInsert rel item
      else items.filter select := by
  induction items with
  | nil =>
    rw [List.orderedInsert_nil, List.filter_cons]
    rfl
  | cons first rest ih =>
    rw [List.pairwise_cons] at sorted
    rw [List.orderedInsert_cons]
    by_cases below : rel item first
    · -- every later item is above `first`, so the item stays in front after selecting
      have front : ∀ other ∈ (first :: rest).filter select, rel item other := by
        intro other member
        rcases List.mem_cons.mp (List.mem_of_mem_filter member) with here | later
        · rw [here]
          exact below
        · exact IsTrans.trans item first other below (sorted.1 other later)
      rw [if_pos below, ordered_insert_of_forall rel front, List.filter_cons]
    · rw [if_neg below, List.filter_cons, ih sorted.2, List.filter_cons]
      cases select first with
      | false => simp
      | true =>
        cases select item with
        | false => simp
        | true => simp [List.orderedInsert_cons, below]

variable [Std.Total rel]

/-- Selecting before or after the sort gives the same list. -/
theorem filter_insertion_sort (select : Item → Bool) (items : List Item) :
    (items.insertionSort rel).filter select = (items.filter select).insertionSort rel := by
  induction items with
  | nil => rfl
  | cons first rest ih =>
    rw [List.insertionSort_cons,
      filter_ordered_insert rel select first (List.pairwise_insertionSort rel rest), ih,
      List.filter_cons]
    cases select first with
    | false | true => simp

end Stitch.Foundation.StableSort
