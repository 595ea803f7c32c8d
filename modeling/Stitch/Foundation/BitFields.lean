import Mathlib.Data.Nat.Bitwise
import Mathlib.Tactic.Ring

/-!
# Bit fields of 16-bit words

A mask of consecutive ones cuts a field out of a word, shifts move it and a disjunction puts
fields next to each other. As numbers these are a quotient, a product and a sum.
-/

namespace Stitch.Foundation.BitFields

theorem and_mask (value start count : Nat) :
    value &&& (2 ^ count - 1) * 2 ^ start = value / 2 ^ start % 2 ^ count * 2 ^ start := by
  apply Nat.eq_of_testBit_eq
  intro index
  rw [Nat.testBit_and, Nat.testBit_mul_two_pow, Nat.testBit_mul_two_pow, Nat.testBit_mod_two_pow,
    Nat.testBit_two_pow_sub_one, Nat.testBit_div_two_pow]
  by_cases past : start ≤ index
  · have same : index - start + start = index := Nat.sub_add_cancel past
    rw [same, decide_eq_true past, Bool.true_and, Bool.true_and, Bool.and_comm]
  · simp [past]

theorem or_below (high : Nat) {low index : Nat} (below : low < 2 ^ index) :
    high * 2 ^ index ||| low = high * 2 ^ index + low := by
  rw [Nat.mul_comm]
  exact (Nat.two_pow_add_eq_or_of_lt below high).symm

section

variable {value mask amount : UInt16} {start count shift : Nat}

theorem field_up (value : UInt16) (masks : mask.toNat = (2 ^ count - 1) * 2 ^ start)
    (moves : amount.toNat = shift) (small : shift < 16) (fits : start + count + shift ≤ 16) :
    ((value &&& mask) <<< amount).toNat =
      value.toNat / 2 ^ start % 2 ^ count * 2 ^ (start + shift) := by
  have bound : value.toNat / 2 ^ start % 2 ^ count < 2 ^ count := Nat.mod_lt _ (Nat.two_pow_pos _)
  have room : 2 ^ count * 2 ^ (start + shift) ≤ 2 ^ 16 := by
    rw [← pow_add]
    exact Nat.pow_le_pow_right (by decide) (by omega)
  have below : value.toNat / 2 ^ start % 2 ^ count * 2 ^ (start + shift) < 2 ^ 16 :=
    lt_of_lt_of_le ((Nat.mul_lt_mul_right (Nat.two_pow_pos _)).mpr bound) room
  rw [UInt16.toNat_shiftLeft, UInt16.toNat_and, masks, moves, and_mask, Nat.mod_eq_of_lt small,
    Nat.shiftLeft_eq, Nat.mul_assoc, ← pow_add, Nat.mod_eq_of_lt below]

theorem field_down (value : UInt16) (masks : mask.toNat = (2 ^ count - 1) * 2 ^ start)
    (moves : amount.toNat = shift) (small : shift < 16) (inside : shift ≤ start) :
    ((value &&& mask) >>> amount).toNat =
      value.toNat / 2 ^ start % 2 ^ count * 2 ^ (start - shift) := by
  have moved (field : Nat) : field * 2 ^ start / 2 ^ shift = field * 2 ^ (start - shift) := by
    have split : 2 ^ start = 2 ^ (start - shift) * 2 ^ shift := by
      rw [← pow_add, Nat.sub_add_cancel inside]
    rw [split, ← Nat.mul_assoc, Nat.mul_div_cancel _ (Nat.two_pow_pos _)]
  rw [UInt16.toNat_shiftRight, UInt16.toNat_and, masks, moves, and_mask, Nat.mod_eq_of_lt small,
    Nat.shiftRight_eq_div_pow, moved]

theorem field_low (value : UInt16) (masks : mask.toNat = 2 ^ count - 1) :
    (value &&& mask).toNat = value.toNat % 2 ^ count := by
  rw [UInt16.toNat_and, masks, Nat.and_two_pow_sub_one_eq_mod]

theorem join_fields {high low : UInt16} {upper index : Nat} (highs : high.toNat = upper * 2 ^ index)
    (below : low.toNat < 2 ^ index) : (high ||| low).toNat = upper * 2 ^ index + low.toNat := by
  rw [UInt16.toNat_or, highs, or_below upper below]

end

end Stitch.Foundation.BitFields
