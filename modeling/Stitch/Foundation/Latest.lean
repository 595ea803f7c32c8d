import Mathlib.Order.Basic
import Mathlib.Data.Set.Insert

/-!
# The latest write of a set

Last writer wins, for any set of writes ranked in a linear order: a replica that sees the writes
one at a time keeps the latest by comparing each new write with the one it holds.
-/

namespace Stitch.Foundation.Latest

variable {Write Rank : Type} [LinearOrder Rank]

def IsLatest (rank : Write → Rank) (writes : Set Write) (latest : Write) : Prop :=
  latest ∈ writes ∧ ∀ write ∈ writes, rank write ≤ rank latest

variable {rank : Write → Rank} {writes : Set Write} {latest write : Write}

theorem latest_unique {left right : Write} (distinct : Set.InjOn rank writes)
    (leftLatest : IsLatest rank writes left) (rightLatest : IsLatest rank writes right) :
    left = right := by
  apply distinct leftLatest.1 rightLatest.1
  exact le_antisymm (rightLatest.2 left leftLatest.1) (leftLatest.2 right rightLatest.1)

theorem latest_singleton (rank : Write → Rank) (write : Write) :
    IsLatest rank {write} write := by
  refine ⟨rfl, ?_⟩
  intro other member
  rw [Set.mem_singleton_iff.mp member]

theorem latest_insert_of_le (held : IsLatest rank writes latest)
    (lower : rank write ≤ rank latest) : IsLatest rank (insert write writes) latest := by
  refine ⟨Set.mem_insert_of_mem write held.1, ?_⟩
  intro other member
  rcases Set.mem_insert_iff.mp member with same | member
  · rw [same]
    exact lower
  · exact held.2 other member

theorem latest_insert_of_lt (held : IsLatest rank writes latest)
    (higher : rank latest < rank write) : IsLatest rank (insert write writes) write := by
  refine ⟨Set.mem_insert write writes, ?_⟩
  intro other member
  rcases Set.mem_insert_iff.mp member with same | member
  · rw [same]
  · exact (held.2 other member).trans higher.le

end Stitch.Foundation.Latest
