import Mathlib.Data.List.Basic
import Mathlib.Tactic.Ring

/-!
# Byte layouts

Big-endian integers, slices of a byte string, UTF-8 text and arrays of fixed width, and the reads
of a program that stops at an index out of range.
-/

namespace Stitch.Foundation.ByteLayout

def beBytes : Nat → Nat → List UInt8
  | 0, _ => []
  | width + 1, value => UInt8.ofNat (value / 256 ^ width) :: beBytes width value

def beValue : List UInt8 → Nat
  | [] => 0
  | byte :: rest => byte.toNat * 256 ^ rest.length + beValue rest

@[simp] theorem be_bytes_length (width value : Nat) :
    (beBytes width value).length = width := by
  induction width with
  | zero => rfl
  | succ width ih => simp [beBytes, ih]

theorem be_value_be_bytes (width value : Nat) :
    beValue (beBytes width value) = value % 256 ^ width := by
  induction width with
  | zero => simp [beBytes, beValue, Nat.mod_one]
  | succ width ih =>
    have leading : (UInt8.ofNat (value / 256 ^ width)).toNat =
        value / 256 ^ width % 256 := UInt8.toNat_ofNat'
    have split : value % 256 ^ (width + 1) =
        value % 256 ^ width + 256 ^ width * (value / 256 ^ width % 256) := by
      rw [pow_succ, Nat.mod_mul]
    simp only [beBytes, beValue, be_bytes_length, ih, leading, split]
    ring

theorem be_value_be_bytes_of_lt {width value : Nat} (fits : value < 256 ^ width) :
    beValue (beBytes width value) = value := by
  rw [be_value_be_bytes, Nat.mod_eq_of_lt fits]

theorem be_value_lt_pow (bytes : List UInt8) : beValue bytes < 256 ^ bytes.length := by
  induction bytes with
  | nil => exact Nat.one_pos
  | cons byte rest ih =>
    have digit : byte.toNat + 1 ≤ 256 := byte.toNat_lt
    have block := Nat.mul_le_mul_right (256 ^ rest.length) digit
    rw [Nat.add_mul, Nat.one_mul] at block
    rw [List.length_cons, pow_succ, Nat.mul_comm, beValue]
    omega

theorem be_bytes_be_value_add (value : Nat) (bytes : List UInt8) :
    beBytes bytes.length (value * 256 ^ bytes.length + beValue bytes) = bytes := by
  induction bytes generalizing value with
  | nil => rfl
  | cons byte rest ih =>
    have spread : value * 256 ^ (rest.length + 1) +
        (byte.toNat * 256 ^ rest.length + beValue rest) =
          (value * 256 + byte.toNat) * 256 ^ rest.length + beValue rest := by
      ring
    have below := be_value_lt_pow rest
    have leading : ((value * 256 + byte.toNat) * 256 ^ rest.length + beValue rest) /
        256 ^ rest.length = value * 256 + byte.toNat := by
      rw [Nat.mul_comm, Nat.mul_add_div (Nat.pow_pos (by decide)), Nat.div_eq_of_lt below, Nat.add_zero]
    rw [List.length_cons, beValue, beBytes, spread, leading, ih]
    congr 1
    apply UInt8.toNat_inj.mp
    have digit := byte.toNat_lt
    rw [UInt8.toNat_ofNat']
    omega

theorem be_bytes_be_value {width : Nat} {bytes : List UInt8} (size : bytes.length = width) :
    beBytes width (beValue bytes) = bytes := by
  have back := be_bytes_be_value_add 0 bytes
  rwa [Nat.zero_mul, Nat.zero_add, size] at back

theorem be_value_append (front rest : List UInt8) :
    beValue (front ++ rest) = beValue front * 256 ^ rest.length + beValue rest := by
  induction front with
  | nil => simp [beValue]
  | cons byte front ih =>
    rw [List.cons_append, beValue, ih, beValue, List.length_append, pow_add]
    ring

/-- Byte strings of one width are ordered as the numbers they spell. -/
theorem be_value_lt_of_lt {left right : List UInt8} (width : left.length = right.length)
    (less : left < right) : beValue left < beValue right := by
  induction left generalizing right with
  | nil =>
    rw [List.length_nil, eq_comm, List.length_eq_zero_iff] at width
    subst width
    exact (List.not_lt_nil _ less).elim
  | cons byte rest ih =>
    cases right with
    | nil => exact (List.not_lt_nil _ less).elim
    | cons otherByte otherRest =>
      have widths : rest.length = otherRest.length := Nat.succ.inj width
      simp only [beValue, widths]
      rcases List.cons_lt_cons_iff.mp less with lower | ⟨same, lower⟩
      · have digit : byte.toNat + 1 ≤ otherByte.toNat := lower
        have block := Nat.mul_le_mul_right (256 ^ otherRest.length) digit
        rw [Nat.add_mul, Nat.one_mul] at block
        have tail := be_value_lt_pow rest
        rw [widths] at tail
        omega
      · subst same
        have tail := ih widths lower
        omega

def slice (bytes : List UInt8) (start stop : Nat) : List UInt8 :=
  (bytes.drop start).take (stop - start)

theorem slice_length {bytes : List UInt8} {start stop : Nat}
    (inside : stop ≤ bytes.length) : (slice bytes start stop).length = stop - start := by
  simp only [slice, List.length_take, List.length_drop]
  omega

variable {front rest : List UInt8} {fields : List (List UInt8)}

theorem slice_append_right {start stop : Nat} (past : front.length ≤ start) :
    slice (front ++ rest) start stop =
      slice rest (start - front.length) (stop - front.length) := by
  have width : stop - start = stop - front.length - (start - front.length) := by omega
  simp only [slice]
  rw [List.drop_append, List.drop_eq_nil_of_le past, List.nil_append, width]

theorem slice_append_left {stop : Nat} (exact : front.length = stop) :
    slice (front ++ rest) 0 stop = front := by
  subst exact
  simp [slice]

theorem slice_middle {front middle rest : List UInt8} {start stop : Nat}
    (before : front.length = start) (width : start + middle.length = stop) :
    slice (front ++ (middle ++ rest)) start stop = middle := by
  rw [slice_append_right before.le, before, Nat.sub_self]
  exact slice_append_left (by omega)

theorem slice_flatten {field : List UInt8} {start stop : Nat} (index : Nat)
    (found : fields[index]? = some field) (before : (fields.take index).flatten.length = start)
    (width : start + field.length = stop) : slice fields.flatten start stop = field := by
  have layout : fields.flatten =
      (fields.take index).flatten ++ (field ++ (fields.drop (index + 1)).flatten) := by
    obtain ⟨bound, same⟩ := List.getElem?_eq_some_iff.mp found
    conv_lhs => rw [← List.take_append_drop index fields, List.drop_eq_getElem_cons bound]
    rw [List.flatten_append, List.flatten_cons, same]
  rw [layout]
  exact slice_middle before width

theorem byte_flatten {byte : UInt8} {start : Nat} (index : Nat)
    (found : fields[index]? = some [byte]) (before : (fields.take index).flatten.length = start) :
    fields.flatten.getD start 0 = byte := by
  have field := slice_flatten index found before rfl
  have head : (fields.flatten.drop start).head? = some byte := by
    cases rest : fields.flatten.drop start with
    | nil => simp [slice, rest] at field
    | cons first rest =>
      simp [slice, rest] at field
      simp [field]
  rw [List.getD_eq_getElem?_getD, ← List.head?_drop, head]
  rfl

section

def lengthPrefixed (part : List UInt8) : List UInt8 := beBytes 4 part.length ++ part

theorem length_prefixed_inj {left right leftRest rightRest : List UInt8}
    (leftFits : left.length < 256 ^ 4) (rightFits : right.length < 256 ^ 4)
    (same : lengthPrefixed left ++ leftRest = lengthPrefixed right ++ rightRest) :
    left = right ∧ leftRest = rightRest := by
  unfold lengthPrefixed at same
  rw [List.append_assoc, List.append_assoc] at same
  obtain ⟨lengths, parts⟩ := List.append_inj same (by simp)
  have sameLength : left.length = right.length := by
    rw [← be_value_be_bytes_of_lt leftFits, lengths, be_value_be_bytes_of_lt rightFits]
  exact List.append_inj parts sameLength

/-- As many parts, each behind its length, are told apart by their bytes. -/
theorem length_prefixed_parts_inj {left right : List (List UInt8)}
    (count : left.length = right.length)
    (leftFit : ∀ part ∈ left, part.length < 256 ^ 4)
    (rightFit : ∀ part ∈ right, part.length < 256 ^ 4)
    (same : (left.map lengthPrefixed).flatten = (right.map lengthPrefixed).flatten) :
    left = right := by
  induction left generalizing right with
  | nil => exact (List.length_eq_zero_iff.mp count.symm).symm
  | cons first rest ih =>
    cases right with
    | nil => cases count
    | cons other others =>
      have heads := length_prefixed_inj (leftFit first List.mem_cons_self)
        (rightFit other List.mem_cons_self) same
      have tails := ih (Nat.succ.inj count)
        (fun part member => leftFit part (List.mem_cons_of_mem first member))
        (fun part member => rightFit part (List.mem_cons_of_mem other member)) heads.2
      rw [heads.1, tails]

end

def utf8Bytes (text : String) : List UInt8 := text.toUTF8.data.toList

def fromUtf8 (bytes : List UInt8) : Option String := String.fromUTF8? ⟨bytes.toArray⟩

theorem from_utf8_utf8_bytes (text : String) : fromUtf8 (utf8Bytes text) = some text := by
  have same : (⟨(utf8Bytes text).toArray⟩ : ByteArray) = text.toByteArray := by
    simp [utf8Bytes]
  simp only [fromUtf8, same, String.fromUTF8?, dif_pos text.isValidUTF8]
  rfl

theorem utf8_bytes_from_utf8 {bytes : List UInt8} {text : String}
    (read : fromUtf8 bytes = some text) : utf8Bytes text = bytes := by
  unfold fromUtf8 String.fromUTF8? at read
  split_ifs at read with valid
  cases read
  simp [utf8Bytes, String.fromUTF8]

section

variable {bytes : List UInt8} {start middle stop : Nat}

theorem slice_zero (bytes : List UInt8) (stop : Nat) : slice bytes 0 stop = bytes.take stop := rfl

theorem slice_append_slice (first : start ≤ middle) (second : middle ≤ stop) :
    slice bytes start middle ++ slice bytes middle stop = slice bytes start stop := by
  have width : stop - start = (middle - start) + (stop - middle) := by omega
  have reach : middle = start + (middle - start) := by omega
  unfold slice
  rw [width, List.take_add, List.drop_drop, ← reach]

theorem slice_agree {other : List UInt8} {limit : Nat} (agree : bytes.take limit = other.take limit)
    (inside : stop ≤ limit) : slice bytes start stop = slice other start stop := by
  have cut : ∀ whole : List UInt8, slice whole start stop = slice (whole.take limit) start stop := by
    intro whole
    have shorter : min (stop - start) (limit - start) = stop - start := by omega
    unfold slice
    rw [List.drop_take, List.take_take, shorter]
  rw [cut bytes, agree, ← cut other]

theorem slice_byte (inside : start < bytes.length) :
    slice bytes start (start + 1) = [bytes.getD start 0] := by
  unfold slice
  rw [List.drop_eq_getElem_cons inside, Nat.add_sub_cancel_left, List.take_succ_cons,
    List.take_zero, List.getD_eq_getElem?_getD, List.getElem?_eq_getElem inside,
    Option.getD_some]

end

section

def readU16 (bytes : List UInt8) : UInt16 := UInt16.ofNat (beValue bytes)

def readU32 (bytes : List UInt8) : UInt32 := UInt32.ofNat (beValue bytes)

theorem read_u16_be_bytes (value : UInt16) : readU16 (beBytes 2 value.toNat) = value := by
  rw [readU16, be_value_be_bytes_of_lt value.toNat_lt, UInt16.ofNat_toNat]

theorem read_u32_be_bytes (value : UInt32) : readU32 (beBytes 4 value.toNat) = value := by
  rw [readU32, be_value_be_bytes_of_lt value.toNat_lt, UInt32.ofNat_toNat]

def hexByte (byte : UInt8) : String :=
  String.ofList [(byte.toNat / 16).digitChar, (byte.toNat % 16).digitChar]

/-- The format `{:#0width$x}`. -/
def hexPadded (width value : Nat) : String :=
  let digits := Nat.toDigits 16 value
  "0x" ++ String.ofList (List.replicate (width - 2 - digits.length) '0' ++ digits)

end

/-- An array of bytes of fixed width. -/
@[ext] structure Block (width : Nat) where
  bytes : List UInt8
  size : bytes.length = width
  deriving DecidableEq

section

variable {width : Nat}

theorem copy_size (source : List UInt8) (width : Nat) :
    ((source ++ List.replicate width 0).take width).length = width := by
  simp

def Block.copy (width : Nat) (source : List UInt8) : Block width :=
  ⟨(source ++ List.replicate width 0).take width, copy_size source width⟩

theorem copy_bytes {source : List UInt8} (size : source.length = width) :
    (Block.copy width source).bytes = source := by
  change (source ++ List.replicate width 0).take width = source
  rw [List.take_append_of_le_length size.ge, List.take_of_length_le size.le]

theorem copy_block (block : Block width) : Block.copy width block.bytes = block :=
  Block.ext (copy_bytes block.size)

end

section

variable {bytes : List UInt8} {start stop width : Nat}

/-- The read `bytes[index]`; `none` is the panic of an index out of range. -/
def byteAt (bytes : List UInt8) (index : Nat) : Option UInt8 := bytes[index]?

def sliceAt (bytes : List UInt8) (start stop : Nat) : Option (List UInt8) :=
  if start ≤ stop ∧ stop ≤ bytes.length then some (slice bytes start stop) else none

def exactly (width : Nat) (bytes : List UInt8) : Option (List UInt8) :=
  if bytes.length = width then some bytes else none

def usizeSize : Nat := 2 ^ 64

/-- An addition of `usize` values of 64 bits that stops at an overflow. -/
def addUsize (left right : Nat) : Option Nat :=
  if left + right < usizeSize then some (left + right) else none

theorem byte_at_inside {index : Nat} (inside : index < bytes.length) :
    byteAt bytes index = some (bytes.getD index 0) := by
  rw [byteAt, List.getD_eq_getElem?_getD, List.getElem?_eq_getElem inside, Option.getD_some]

theorem slice_at_inside (ordered : start ≤ stop) (inside : stop ≤ bytes.length) :
    sliceAt bytes start stop = some (slice bytes start stop) :=
  if_pos ⟨ordered, inside⟩

theorem exactly_slice_at (size : start + width = stop) (inside : stop ≤ bytes.length) :
    (sliceAt bytes start stop).bind (exactly width) = some (slice bytes start stop) := by
  rw [slice_at_inside (by omega) inside, Option.bind_some, exactly,
    if_pos ((slice_length inside).trans (by omega))]

theorem add_usize_small {left right : Nat} (small : left + right < usizeSize) :
    addUsize left right = some (left + right) :=
  if_pos small

theorem bind_of_some {Value Other : Type} {read : Option Value} {value : Value}
    (found : read = some value) (next : Value → Option Other) : (read >>= next) = next value := by
  rw [found]
  rfl

end

end Stitch.Foundation.ByteLayout
