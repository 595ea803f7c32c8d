import Mathlib.Data.Finmap

/-!
# Finite maps with an unspecified iteration order

A hash map is Mathlib's `Finmap` together with the freedom to iterate over it in any order: an
iteration is a list of keys satisfying `Visits`.
-/

namespace Stitch.Foundation.FiniteMap

abbrev HashMap (Key Value : Type) := Finmap (fun _ : Key => Value)

variable {Key Value : Type}

/-- One order in which an iterator may visit the keys of a map. -/
def Visits (order : List Key) (map : HashMap Key Value) : Prop :=
  order.Nodup ∧ ∀ key, key ∈ order ↔ key ∈ map

theorem visits_empty : Visits [] (∅ : HashMap Key Value) := by
  refine ⟨List.nodup_nil, ?_⟩
  intro key
  simp [Finmap.notMem_empty]

variable {order keys : List Key} {map : HashMap Key Value} {Item Label : Type} {key other : Key}
  {value : Value} {items : List Item}

theorem visits_of_keys (distinct : order.Nodup) (keys : map.keys = ⟨order, distinct⟩) :
    Visits order map := by
  refine ⟨distinct, ?_⟩
  intro key
  rw [← Finmap.mem_keys, keys]
  rfl

theorem exists_visits (map : HashMap Key Value) : ∃ order, Visits order map := by
  refine ⟨map.keys.toList, map.keys.nodup_toList, ?_⟩
  intro key
  rw [Finset.mem_toList, Finmap.mem_keys]

theorem filterMap_labels_sublist {Other : Type} {select : Item → Option Other}
    (label : Item → Label) (otherLabel : Other → Label)
    (kept : ∀ item other, select item = some other → otherLabel other = label item)
    (items : List Item) :
    ((items.filterMap select).map otherLabel).Sublist (items.map label) := by
  induction items with
  | nil => exact List.Sublist.slnil
  | cons first rest ih =>
    cases selected : select first with
    | none =>
      rw [List.filterMap_cons_none selected]
      exact ih.cons _
    | some other =>
      rw [List.filterMap_cons_some selected, List.map_cons, List.map_cons,
        kept first other selected]
      exact ih.cons_cons _

variable [DecidableEq Key]

theorem ext_of_lookup_iff {left right : HashMap Key Value}
    (same : ∀ key value, left.lookup key = some value ↔ right.lookup key = some value) :
    left = right := by
  apply Finmap.ext_lookup
  intro key
  apply Option.ext
  exact same key

theorem visits_iff_keys :
    Visits order map ↔ order.Nodup ∧ order.toFinset = map.keys := by
  constructor
  · intro visits
    refine ⟨visits.1, ?_⟩
    ext key
    rw [List.mem_toFinset, Finmap.mem_keys, visits.2 key]
  · intro keys
    refine ⟨keys.1, ?_⟩
    intro key
    rw [← Finmap.mem_keys, ← keys.2, List.mem_toFinset]

theorem visits_length (visits : Visits order map) : order.length = map.keys.card := by
  rw [← (visits_iff_keys.mp visits).2, List.toFinset_card_of_nodup visits.1]

instance (order : List Key) (map : HashMap Key Value) : Decidable (Visits order map) :=
  decidable_of_iff (order.Nodup ∧ order.toFinset = map.keys) visits_iff_keys.symm

theorem keys_card_insert (absent : key ∉ map) (value : Value) :
    (map.insert key value).keys.card = map.keys.card + 1 := by
  have keys : (map.insert key value).keys = insert key map.keys := by
    ext other
    rw [Finmap.mem_keys, Finmap.mem_insert, Finset.mem_insert, Finmap.mem_keys]
  rw [keys, Finset.card_insert_of_notMem (fun member => absent (Finmap.mem_keys.mp member))]

theorem flatMap_at_key (distinct : order.Nodup) (key : Key) (items : List Item) :
    order.flatMap (fun other => if other = key then items else []) =
      if key ∈ order then items else [] := by
  induction order with
  | nil => rfl
  | cons first rest ih =>
    rw [List.nodup_cons] at distinct
    rw [List.flatMap_cons, ih distinct.2]
    by_cases here : first = key
    · subst here
      rw [if_pos rfl, if_neg distinct.1, if_pos List.mem_cons_self, List.append_nil]
    · rw [if_neg here, List.nil_append]
      simp only [List.mem_cons, Ne.symm here, false_or]

/-- An iteration that makes at most one item per key selects the item of a key. -/
theorem filter_filterMap_at_key (distinct : order.Nodup) {make : Key → Option Item}
    {label : Item → Key} (made : ∀ key item, make key = some item → label item = key) (key : Key) :
    (order.filterMap make).filter (fun item => label item = key) =
      if key ∈ order then (make key).toList else [] := by
  induction order with
  | nil => rfl
  | cons first rest ih =>
    rw [List.nodup_cons] at distinct
    have later := ih distinct.2
    by_cases here : first = key
    · subst here
      rw [if_neg distinct.1] at later
      rw [if_pos List.mem_cons_self]
      cases item : make first with
      | none => rw [List.filterMap_cons_none item, later, Option.toList_none]
      | some value =>
        rw [List.filterMap_cons_some item,
          List.filter_cons_of_pos (by simpa using made first value item), later,
          Option.toList_some]
    · have skipped : (key ∈ first :: rest) = (key ∈ rest) := by
        simp [Ne.symm here]
      simp only [skipped]
      rw [← later]
      cases item : make first with
      | none => rw [List.filterMap_cons_none item]
      | some value =>
        rw [List.filterMap_cons_some item, List.filter_cons_of_neg]
        simpa [made first value item] using here

def getOr (map : HashMap Key Value) (key : Key) (fallback : Value) : Value :=
  (map.lookup key).getD fallback

@[simp] theorem getOr_empty (key : Key) (fallback : Value) :
    getOr (∅ : HashMap Key Value) key fallback = fallback := by
  simp [getOr]

@[simp] theorem getOr_insert_self (map : HashMap Key Value) (key : Key)
    (value fallback : Value) :
    getOr (map.insert key value) key fallback = value := by
  simp [getOr]

@[simp] theorem getOr_insert_other (map : HashMap Key Value) (value fallback : Value)
    (different : other ≠ key) :
    getOr (map.insert key value) other fallback = getOr map other fallback := by
  simp [getOr, Finmap.lookup_insert_of_ne _ different]

theorem getOr_of_not_mem (absent : key ∉ map) (fallback : Value) :
    getOr map key fallback = fallback := by
  simp [getOr, Finmap.lookup_eq_none.mpr absent]

theorem getOr_of_lookup (found : map.lookup key = some value) (fallback : Value) :
    getOr map key fallback = value := by
  simp [getOr, found]

theorem lookup_foldl_insert (order : List Key) (value : Key → Value)
    (start : HashMap Key Value) (key : Key) :
    (order.foldl (fun map next => map.insert next (value next)) start).lookup key =
      if key ∈ order then some (value key) else start.lookup key := by
  induction order generalizing start with
  | nil => simp
  | cons first rest ih =>
    rw [List.foldl_cons, ih]
    by_cases later : key ∈ rest
    · rw [if_pos later, if_pos (List.mem_cons_of_mem _ later)]
    · rw [if_neg later]
      by_cases here : key = first
      · subst here
        rw [Finmap.lookup_insert, if_pos List.mem_cons_self]
      · rw [Finmap.lookup_insert_of_ne _ here, if_neg (by simp [here, later])]

theorem foldl_insert_visits (visits : Visits order map) (fallback : Value) :
    order.foldl (fun built key => built.insert key (getOr map key fallback)) ∅ = map := by
  apply Finmap.ext_lookup
  intro key
  rw [lookup_foldl_insert order (fun next => getOr map next fallback)]
  by_cases member : key ∈ map
  · obtain ⟨value, found⟩ := Finmap.mem_iff.mp member
    rw [if_pos ((visits.2 key).mpr member), getOr_of_lookup found, found]
  · rw [if_neg (fun visited => member ((visits.2 key).mp visited)), Finmap.lookup_empty,
      Finmap.lookup_eq_none.mpr member]

theorem insert_of_lookup (held : map.lookup key = some value) : map.insert key value = map := by
  apply Finmap.ext_lookup
  intro other
  by_cases here : other = key
  · rw [here, Finmap.lookup_insert, held]
  · rw [Finmap.lookup_insert_of_ne _ here]

theorem lookup_union (left right : HashMap Key Value) (key : Key) :
    (left ∪ right).lookup key = (left.lookup key).or (right.lookup key) := by
  cases found : left.lookup key with
  | none =>
    rw [Finmap.lookup_union_right (Finmap.lookup_eq_none.mp found), Option.none_or]
  | some value =>
    rw [Finmap.lookup_union_left (Finmap.mem_of_lookup_eq_some found), found, Option.some_or]

theorem union_self (map : HashMap Key Value) : map ∪ map = map := by
  apply Finmap.ext_lookup
  intro key
  rw [lookup_union, Option.or_self]

theorem union_override_again (top middle bottom : HashMap Key Value) :
    (top ∪ middle) ∪ (top ∪ bottom) = (top ∪ middle) ∪ bottom := by
  apply Finmap.ext_lookup
  intro key
  simp only [lookup_union]
  cases top.lookup key with
  | none | some value => simp

theorem union_shown_below {shown : HashMap Key Value} (shows : shown ∪ map = map)
    (bottom : HashMap Key Value) : map ∪ (shown ∪ bottom) = map ∪ bottom := by
  rw [← shows, union_override_again]

/-- Change what the map holds at one key, `none` standing for an absent entry. -/
def alter (map : HashMap Key Value) (key : Key) (change : Option Value → Option Value) :
    HashMap Key Value :=
  match change (map.lookup key) with
  | some value => map.insert key value
  | none => map.erase key

@[simp] theorem lookup_alter_self (map : HashMap Key Value) (key : Key)
    (change : Option Value → Option Value) :
    (alter map key change).lookup key = change (map.lookup key) := by
  unfold alter
  cases change (map.lookup key) with
  | none => exact Finmap.lookup_erase key map
  | some value => exact Finmap.lookup_insert map

theorem lookup_alter_other (map : HashMap Key Value) (change : Option Value → Option Value)
    (different : other ≠ key) :
    (alter map key change).lookup other = map.lookup other := by
  unfold alter
  cases change (map.lookup key) with
  | none => exact Finmap.lookup_erase_ne different
  | some value => exact Finmap.lookup_insert_of_ne map different

/-- Add one to the counter at a key; a counter that is not there stands at zero. -/
def raise (counters : HashMap Key Nat) (key : Key) : HashMap Key Nat :=
  alter counters key (fun counter => some (counter.getD 0 + 1))

theorem getOr_raise (counters : HashMap Key Nat) (key other : Key) :
    getOr (raise counters key) other 0 = getOr counters other 0 + if other = key then 1 else 0 := by
  rw [getOr, getOr, raise]
  split_ifs with here
  · rw [here, lookup_alter_self, Option.getD_some]
  · rw [lookup_alter_other counters _ here, Nat.add_zero]

theorem getOr_foldl_raise (keys : List Key) (counters : HashMap Key Nat) (key : Key) :
    getOr (keys.foldl raise counters) key 0 = getOr counters key 0 + keys.count key := by
  induction keys generalizing counters with
  | nil => rfl
  | cons first rest ih =>
    rw [List.foldl_cons, ih, getOr_raise, List.count_cons]
    by_cases here : key = first
    · subst here
      simp only [if_true, beq_self_eq_true]
      omega
    · rw [if_neg here, if_neg (by simpa using Ne.symm here)]
      omega

theorem getOr_foldl_raise_once (distinct : keys.Nodup) (counters : HashMap Key Nat) (key : Key) :
    getOr (keys.foldl raise counters) key 0 =
      getOr counters key 0 + if key ∈ keys then 1 else 0 := by
  rw [getOr_foldl_raise, distinct.count]

theorem lt_getOr_foldl_raise (counters : HashMap Key Nat) (raised : key ∈ keys) :
    getOr counters key 0 < getOr (keys.foldl raise counters) key 0 := by
  rw [getOr_foldl_raise]
  have counted := List.count_pos_iff.mpr raised
  omega

theorem filter_label_eq_singleton [DecidableEq Label] {label : Item → Option Label}
    (distinct : (items.filterMap label).Nodup) {item : Item} {name : Label} (member : item ∈ items)
    (labelled : label item = some name) :
    items.filter (fun other => label other = some name) = [item] := by
  induction items with
  | nil => cases member
  | cons first rest ih =>
    have others : ∀ other ∈ rest, label other = some name → name ∈ rest.filterMap label :=
      fun other later named => List.mem_filterMap.mpr ⟨other, later, named⟩
    rcases List.mem_cons.mp member with here | later
    · subst here
      rw [List.filterMap_cons, labelled] at distinct
      have alone : rest.filter (fun other => label other = some name) = [] := by
        rw [List.filter_eq_nil_iff]
        intro other later named
        exact (List.nodup_cons.mp distinct).1 (others other later (of_decide_eq_true named))
      rw [List.filter_cons, if_pos (decide_eq_true labelled), alone]
    · have different : label first ≠ some name := by
        intro same
        rw [List.filterMap_cons, same] at distinct
        exact (List.nodup_cons.mp distinct).1 (others item later labelled)
      rw [List.filter_cons, if_neg (by simpa using different)]
      have shorter : (rest.filterMap label).Sublist ((first :: rest).filterMap label) :=
        (List.sublist_cons_self first rest).filterMap label
      exact ih (distinct.sublist shorter) later

/-- Folding over the selected results of a partial function is folding over the items that
give them. -/
theorem foldl_selected {Made Held : Type} {make : Item → Option Made} {select : Made → Bool}
    {chosen : Item → Bool} {change : Held → Made → Held} {step : Held → Item → Held}
    (agree : ∀ item ∈ items, ∀ held, ((make item).filter select).elim held (change held) =
      if chosen item then step held item else held) (held : Held) :
    ((items.filterMap make).filter select).foldl change held =
      (items.filter chosen).foldl step held := by
  rw [List.foldl_filter, List.foldl_filterMap, List.foldl_filter]
  apply List.foldl_ext
  intro held item member
  rw [← agree item member held]
  cases make item with
  | none => rfl
  | some made =>
    rw [Option.filter_some]
    cases selected : select made with
    | false | true => simp [selected]

/-- What a sequence of changes leaves at a key depends on the changes of that key only. -/
theorem lookup_foldl_alter (label : Item → Key) (change : Item → Option Value → Option Value)
    (items : List Item) (map : HashMap Key Value) (key : Key) :
    (items.foldl (fun map item => alter map (label item) (change item)) map).lookup key =
      (items.filter (fun item => label item = key)).foldl (fun held item => change item held)
        (map.lookup key) := by
  induction items generalizing map with
  | nil => rfl
  | cons first rest ih =>
    rw [List.foldl_cons, ih]
    by_cases here : label first = key
    · rw [List.filter_cons_of_pos (by simpa using here), List.foldl_cons, ← here,
        lookup_alter_self]
    · rw [List.filter_cons_of_neg (by simpa using here),
        lookup_alter_other map (change first) (Ne.symm here)]

def tabulate (keys : Finset Key) (value : Key → Value) : HashMap Key Value :=
  Finmap.keysLookupEquiv.symm
    ⟨(keys, fun key => if key ∈ keys then some (value key) else none), by
      intro key
      by_cases member : key ∈ keys <;> simp [member]⟩

@[simp] theorem lookup_tabulate (keys : Finset Key) (value : Key → Value) (key : Key) :
    (tabulate keys value).lookup key = if key ∈ keys then some (value key) else none := by
  simp [tabulate]

def keepValues (keep : Value → Bool) (map : HashMap Key Value) : HashMap Key Value :=
  ⟨map.entries.filter (fun entry => keep entry.2), Multiset.nodup_keys.mp
    (Multiset.nodup_of_le (Multiset.map_le_map (Multiset.filter_le _ _))
      map.nodupKeys.nodup_keys)⟩

theorem lookup_keepValues (keep : Value → Bool) (map : HashMap Key Value) (key : Key) :
    (keepValues keep map).lookup key = (map.lookup key).filter keep := by
  apply Option.ext
  intro value
  rw [Option.filter_eq_some_iff, Finmap.lookup_eq_some_iff, Finmap.lookup_eq_some_iff]
  exact Multiset.mem_filter

def keepKeys (keep : Key → Bool) (map : HashMap Key Value) : HashMap Key Value :=
  ⟨map.entries.filter (fun entry => keep entry.1), Multiset.nodup_keys.mp
    (Multiset.nodup_of_le (Multiset.map_le_map (Multiset.filter_le _ _))
      map.nodupKeys.nodup_keys)⟩

theorem lookup_keepKeys (keep : Key → Bool) (map : HashMap Key Value) (key : Key) :
    (keepKeys keep map).lookup key = if keep key then map.lookup key else none := by
  apply Option.ext
  intro value
  have kept : (keepKeys keep map).lookup key = some value ↔
      map.lookup key = some value ∧ keep key = true := by
    rw [Finmap.lookup_eq_some_iff, Finmap.lookup_eq_some_iff]
    exact Multiset.mem_filter
  rw [kept]
  cases keep key with
  | false | true => simp

theorem filterMap_kerase {entries : List (Sigma fun _ : Key => Value)}
    {select : Sigma (fun _ : Key => Value) → Option Item}
    (skipped : ∀ value, (⟨key, value⟩ : Sigma fun _ : Key => Value) ∈ entries →
      select ⟨key, value⟩ = none) :
    (entries.kerase key).filterMap select = entries.filterMap select := by
  induction entries with
  | nil => rfl
  | cons entry rest ih =>
    obtain ⟨other, value⟩ := entry
    by_cases here : key = other
    · subst here
      have erased : List.kerase key (⟨key, value⟩ :: rest) = rest := List.kerase_cons_eq rfl
      rw [erased, List.filterMap_cons, skipped value List.mem_cons_self]
    · have kept : List.kerase key (⟨other, value⟩ :: rest) =
          ⟨other, value⟩ :: List.kerase key rest := List.kerase_cons_ne here
      rw [kept, List.filterMap_cons, List.filterMap_cons,
        ih (fun held member => skipped held (List.mem_cons_of_mem _ member))]

end Stitch.Foundation.FiniteMap
