import Mathlib.Algebra.BigOperators.Group.Multiset.Basic
import Mathlib.Data.Multiset.Bind
import Stitch.Foundation.FiniteMap

/-!
# Sums over a map, and maps of queues

The sum of a weight over the values of a map does not depend on the order of the keys. Over a map
of queues it counts the queued items, or collects them.
-/

namespace Stitch.Foundation.QueueMap

open FiniteMap

section

variable {Key Value Total : Type} [AddCommMonoid Total]

def sumValues (weight : Value → Total) (map : HashMap Key Value) : Total :=
  (map.entries.map (fun entry => weight entry.2)).sum

variable (weight : Value → Total)
variable [DecidableEq Key]

variable {map : HashMap Key Value} {key : Key}

theorem sum_values_insert_new (absent : key ∉ map) (value : Value) :
    sumValues weight (map.insert key value) = weight value + sumValues weight map := by
  rw [sumValues, Finmap.entries_insert_of_notMem absent, Multiset.map_cons, Multiset.sum_cons]
  rfl

variable {value : Value}

theorem insert_erase_lookup (found : map.lookup key = some value) :
    (map.erase key).insert key value = map := by
  apply Finmap.ext_lookup
  intro other
  by_cases here : other = key
  · subst here
    rw [Finmap.lookup_insert, found]
  · rw [Finmap.lookup_insert_of_ne _ here, Finmap.lookup_erase_ne here]

theorem sum_values_at (found : map.lookup key = some value) :
    sumValues weight map = weight value + sumValues weight (map.erase key) := by
  conv_lhs => rw [← insert_erase_lookup found]
  exact sum_values_insert_new weight (Finmap.notMem_erase_self) value

theorem sum_values_insert (map : HashMap Key Value) (key : Key) (value : Value) :
    sumValues weight (map.insert key value) = weight value + sumValues weight (map.erase key) := by
  have same : map.insert key value = (map.erase key).insert key value := by
    apply Finmap.ext_lookup
    intro other
    by_cases here : other = key
    · subst here
      rw [Finmap.lookup_insert, Finmap.lookup_insert]
    · rw [Finmap.lookup_insert_of_ne _ here, Finmap.lookup_insert_of_ne _ here,
        Finmap.lookup_erase_ne here]
  rw [same]
  exact sum_values_insert_new weight Finmap.notMem_erase_self value

theorem sum_values_erase_absent (absent : map.lookup key = none) :
    sumValues weight (map.erase key) = sumValues weight map := by
  have same : map.erase key = map := by
    apply Finmap.ext_lookup
    intro other
    by_cases here : other = key
    · subst here
      rw [Finmap.lookup_erase, absent]
    · rw [Finmap.lookup_erase_ne here]
  rw [same]

end

section

variable {Key Item Total : Type} [DecidableEq Key] [AddCommMonoid Total]

/-- An empty queue is not stored: its key is removed. -/
def storeQueue (map : HashMap Key (List Item)) (key : Key)
    (queue : List Item) : HashMap Key (List Item) :=
  if queue.isEmpty then map.erase key else map.insert key queue

/-- No key holds an empty queue. -/
def Tidy (map : HashMap Key (List Item)) : Prop :=
  ∀ key queue, map.lookup key = some queue → queue ≠ []

theorem lookup_store_self (map : HashMap Key (List Item)) (key : Key) (queue : List Item) :
    (storeQueue map key queue).lookup key = if queue.isEmpty then none else some queue := by
  unfold storeQueue
  split_ifs
  · exact Finmap.lookup_erase key map
  · exact Finmap.lookup_insert map

theorem lookup_store_other (map : HashMap Key (List Item)) {key other : Key}
    (queue : List Item) (different : other ≠ key) :
    (storeQueue map key queue).lookup other = map.lookup other := by
  unfold storeQueue
  split_ifs
  · exact Finmap.lookup_erase_ne different
  · exact Finmap.lookup_insert_of_ne map different

variable {map : HashMap Key (List Item)}

theorem tidy_store (tidy : Tidy map) (key : Key) (queue : List Item) :
    Tidy (storeQueue map key queue) := by
  intro other held found
  by_cases here : other = key
  · subst here
    rw [lookup_store_self] at found
    split_ifs at found with empty
    cases found
    exact fun same => empty (List.isEmpty_iff.mpr same)
  · rw [lookup_store_other map queue here] at found
    exact tidy other held found

theorem store_sublist {key other : Key} {whole rest held : List Item}
    (found : map.lookup key = some whole) (part : rest.Sublist whole)
    (stored : (storeQueue map key rest).lookup other = some held) :
    ∃ before, map.lookup other = some before ∧ held.Sublist before := by
  by_cases here : other = key
  · subst here
    rw [lookup_store_self] at stored
    split_ifs at stored
    cases stored
    exact ⟨whole, found, part⟩
  · rw [lookup_store_other map rest here] at stored
    exact ⟨held, stored, List.Sublist.refl held⟩

section

variable {map : HashMap Key (List Item)} {key other : Key} {item : Item} {queue : List Item}

theorem mem_push_back {member : Item}
    (found : (map.insert key (getOr map key [] ++ [item])).lookup other = some queue)
    (listed : member ∈ queue) :
    (other = key ∧ member = item) ∨
      ∃ before, map.lookup other = some before ∧ member ∈ before := by
  by_cases here : other = key
  · subst here
    rw [Finmap.lookup_insert] at found
    cases found
    rcases List.mem_append.mp listed with old | last
    · cases before : map.lookup other with
      | none =>
        rw [getOr, before] at old
        cases old
      | some queue =>
        rw [getOr_of_lookup before] at old
        exact Or.inr ⟨queue, rfl, old⟩
    · exact Or.inl ⟨rfl, List.mem_singleton.mp last⟩
  · rw [Finmap.lookup_insert_of_ne _ here] at found
    exact Or.inr ⟨queue, found, listed⟩

theorem tidy_push_back (tidy : Tidy map) (key : Key) (item : Item) :
    Tidy (map.insert key (getOr map key [] ++ [item])) := by
  intro other queue found
  by_cases here : other = key
  · subst here
    rw [Finmap.lookup_insert] at found
    cases found
    exact List.append_ne_nil_of_right_ne_nil _ (List.cons_ne_nil item [])
  · rw [Finmap.lookup_insert_of_ne _ here] at found
    exact tidy other queue found

/-- A queue stays ordered when the item pushed on it comes after its members. -/
theorem pairwise_push_back {Before : Item → Item → Prop}
    (each : ∀ key queue, map.lookup key = some queue → queue.Pairwise Before)
    (last : ∀ queue, map.lookup key = some queue → ∀ member ∈ queue, Before member item)
    (found : (map.insert key (getOr map key [] ++ [item])).lookup other = some queue) :
    queue.Pairwise Before := by
  by_cases here : other = key
  · subst here
    rw [Finmap.lookup_insert] at found
    cases found
    cases before : map.lookup other with
    | none =>
      rw [getOr, before]
      exact List.pairwise_singleton Before item
    | some queue =>
      rw [getOr_of_lookup before]
      refine List.pairwise_append.mpr
        ⟨each other queue before, List.pairwise_singleton Before item, ?_⟩
      intro member listed final isFinal
      rw [List.mem_singleton.mp isFinal]
      exact last queue before member listed
  · rw [Finmap.lookup_insert_of_ne _ here] at found
    exact each other queue found

end

theorem sum_store {weight : List Item → Total} (nothing : weight [] = 0)
    (map : HashMap Key (List Item)) (key : Key) (queue : List Item) :
    sumValues weight (storeQueue map key queue) =
      weight queue + sumValues weight (map.erase key) := by
  unfold storeQueue
  split_ifs with empty
  · rw [List.isEmpty_iff.mp empty, nothing, zero_add]
  · exact sum_values_insert weight map key queue

/-- The queued items of all keys, counted as often as they are queued. -/
def allItems (map : HashMap Key (List Item)) : Multiset Item :=
  sumValues (fun queue : List Item => (queue : Multiset Item)) map

section

variable {map : HashMap Key (List Item)} {key : Key} {item : Item} {queue : List Item}

theorem mem_all_items :
    item ∈ allItems map ↔ ∃ key queue, map.lookup key = some queue ∧ item ∈ queue := by
  change item ∈ Multiset.join (map.entries.map _) ↔ _
  rw [Multiset.mem_join]
  constructor
  · intro listed
    obtain ⟨queue, mapped, member⟩ := listed
    obtain ⟨entry, stored, same⟩ := Multiset.mem_map.mp mapped
    refine ⟨entry.1, entry.2, Finmap.lookup_eq_some_iff.mpr stored, ?_⟩
    rw [← same] at member
    exact member
  · intro stored
    obtain ⟨key, queue, found, member⟩ := stored
    exact ⟨queue, Multiset.mem_map.mpr ⟨⟨key, queue⟩, Finmap.lookup_eq_some_iff.mp found, rfl⟩,
      member⟩

omit [DecidableEq Key] in
theorem sum_length_eq_card (map : HashMap Key (List Item)) :
    sumValues List.length map = (allItems map).card := by
  change _ = Multiset.card (Multiset.join (map.entries.map _))
  rw [Multiset.card_join, Multiset.map_map]
  rfl

/-- What is taken from the front of a queue and what stays in the map are all there was. -/
theorem all_items_store_rest {front rest : List Item}
    (found : map.lookup key = some (front ++ rest)) :
    (front : Multiset Item) + allItems (storeQueue map key rest) = allItems map := by
  rw [allItems, allItems, sum_store rfl, sum_values_at _ found, ← add_assoc, Multiset.coe_add]

theorem all_items_insert_snoc (map : HashMap Key (List Item)) (key : Key) (item : Item) :
    allItems (map.insert key (getOr map key [] ++ [item])) = item ::ₘ allItems map := by
  rw [allItems, allItems, sum_values_insert, ← Multiset.coe_add, Multiset.coe_singleton,
    add_right_comm, Multiset.add_comm, Multiset.singleton_add]
  cases found : map.lookup key with
  | none =>
    rw [getOr, found, Option.getD_none, Multiset.coe_nil, zero_add,
      sum_values_erase_absent _ found]
  | some queue => rw [getOr, found, Option.getD_some, ← sum_values_at _ found]

end

end

end Stitch.Foundation.QueueMap
