import Mathlib.Data.List.Basic

/-!
# In-order acceptance

A receiver that counts the entries it has accepted and takes only the next one
ends a consecutive run of offers at the end of that run, provided the run does
not start beyond the first entry the receiver lacks.
-/

namespace Stitch.Foundation.InOrder

def advance (cursor offered : Nat) : Nat :=
  if offered = cursor + 1 then cursor + 1 else cursor

theorem advance_mono (cursor offered : Nat) : cursor ≤ advance cursor offered := by
  unfold advance
  split_ifs <;> omega

variable {cursor start : Nat}

theorem advance_consecutive (count : Nat) (reached : start ≤ cursor) :
    (List.range' (start + 1) count).foldl advance cursor = max cursor (start + count) := by
  induction count generalizing start cursor with
  | zero => simp [reached]
  | succ count ih =>
    have next : start + 1 ≤ advance cursor (start + 1) := by
      unfold advance
      split_ifs <;> omega
    rw [List.range'_succ, List.foldl_cons, ih next]
    unfold advance
    split_ifs <;> omega

theorem consecutive_offer_in_reach {count : Nat} (reached : start ≤ cursor)
    {before after : List Nat} {offered : Nat}
    (split : List.range' (start + 1) count = before ++ offered :: after) :
    offered ≤ before.foldl advance cursor + 1 := by
  obtain ⟨taken, -, isBefore, isAfter⟩ := List.range'_eq_append_iff.mp split
  have head := (List.range'_eq_cons_iff.mp isAfter.symm).1
  rw [isBefore, advance_consecutive taken reached]
  omega

end Stitch.Foundation.InOrder
