import Mathlib.Data.List.Basic

/-!
# Contiguous segments of a list

A replica that has forgotten the first `start` entries of a list and has not
yet seen those from `stop` on holds the segment in between.
-/

namespace Stitch.Foundation.Segment

variable {Item : Type}

/-- The entries from position `start` up to, but not including, position `stop`. -/
def listSegment (whole : List Item) (start stop : Nat) : List Item :=
  (whole.take stop).drop start

theorem segment_length (whole : List Item) (start stop : Nat) :
    (listSegment whole start stop).length = min stop whole.length - start := by
  simp [listSegment]

variable {start stop : Nat} {whole : List Item} {item : Item}

theorem segment_get (whole : List Item) {index : Nat} (inside : start + index < stop) :
    (listSegment whole start stop)[index]? = whole[start + index]? := by
  rw [listSegment, List.getElem?_drop, List.getElem?_take_of_lt inside]

theorem segment_snoc (next : whole[stop]? = some item) (order : start ≤ stop) :
    listSegment whole start (stop + 1) = listSegment whole start stop ++ [item] := by
  have bound : stop < whole.length := (List.getElem?_eq_some_iff.mp next).1
  have short : start - (whole.take stop).length = 0 := by
    rw [List.length_take]
    omega
  rw [listSegment, List.take_add_one, next, List.drop_append, short]
  rfl

theorem segment_drop (whole : List Item) (start stop count : Nat) :
    (listSegment whole start stop).drop count = listSegment whole (start + count) stop := by
  rw [listSegment, listSegment, List.drop_drop]

/-- Entries added behind the list do not reach a segment within it. -/
theorem segment_append (more : List Item) (start : Nat) (inside : stop ≤ whole.length) :
    listSegment (whole ++ more) start stop = listSegment whole start stop := by
  rw [listSegment, listSegment, List.take_append_of_le_length inside]

theorem mem_segment :
    item ∈ listSegment whole start stop ↔
      ∃ index, start ≤ index ∧ index < stop ∧ whole[index]? = some item := by
  rw [List.mem_iff_getElem?]
  constructor
  · intro listed
    rcases listed with ⟨index, found⟩
    have bound : index < (listSegment whole start stop).length :=
      (List.getElem?_eq_some_iff.mp found).1
    rw [segment_length] at bound
    have inside : start + index < stop := by omega
    refine ⟨start + index, by omega, inside, ?_⟩
    rw [← segment_get whole inside, found]
  · intro inside
    rcases inside with ⟨index, lower, upper, found⟩
    have inside : start + (index - start) < stop := by omega
    refine ⟨index - start, ?_⟩
    rw [segment_get whole inside, Nat.add_sub_cancel' lower, found]

end Stitch.Foundation.Segment
