import Stitch.Foundation.ByteLayout

/-!
# Bodies of padded records

A record is a 16-bit type, a 16-bit length and that many bytes, filled up with zeros to a
multiple of four. A scanner goes on or stops at each record of a body; it ends where no further
header fits, or where a length runs over the end.
-/

namespace Stitch.Foundation.PaddedRecords

open ByteLayout

@[ext] structure RawRecord where
  typ : UInt16
  value : List UInt8
  deriving DecidableEq

def padding (length : Nat) : Nat := (4 - length % 4) % 4

def RawRecord.bytes (raw : RawRecord) : List UInt8 :=
  beBytes 2 raw.typ.toNat ++ beBytes 2 raw.value.length ++ raw.value ++
    List.replicate (padding raw.value.length) 0

def width (length : Nat) : Nat := 4 + length + padding length

theorem record_bytes_length (raw : RawRecord) : raw.bytes.length = width raw.value.length := by
  simp only [RawRecord.bytes, width, List.length_append, be_bytes_length, List.length_replicate]

theorem width_mod_four (length : Nat) : width length % 4 = 0 := by
  unfold width padding
  omega

theorem width_pos (length : Nat) : 4 + length ≤ width length := Nat.le_add_right _ _

inductive Visit (Held Result : Type) where
  | onward (held : Held)
  | stop (result : Result)

/-- What a loop over the records of a body does: at a record, at a length that runs over the
end, and at the end. -/
structure Scanner (Held Result : Type) where
  visit : Held → Nat → RawRecord → Visit Held Result
  overrun : Held → Result
  finish : Held → Nat → Result

def typeAt (body : List UInt8) (offset : Nat) : UInt16 :=
  readU16 (slice body offset (offset + 2))

def lengthAt (body : List UInt8) (offset : Nat) : Nat :=
  beValue (slice body (offset + 2) (offset + 4))

def valueAt (body : List UInt8) (offset : Nat) : List UInt8 :=
  slice body (offset + 4) (offset + 4 + lengthAt body offset)

def recordAt (body : List UInt8) (offset : Nat) : RawRecord :=
  ⟨typeAt body offset, valueAt body offset⟩

variable {Held Result : Type}

def Scanner.scanFrom (scanner : Scanner Held Result) (body : List UInt8) :
    Nat → Nat → Held → Result
  | 0, offset, held => scanner.finish held offset
  | fuel + 1, offset, held =>
    if offset + 4 ≤ body.length then
      if body.length < offset + 4 + lengthAt body offset then scanner.overrun held
      else
        match scanner.visit held offset (recordAt body offset) with
        | .onward next =>
          scanner.scanFrom body fuel (offset + width (lengthAt body offset)) next
        | .stop result => result
    else scanner.finish held offset

/-- Every round goes at least four bytes further, so the length of the body is fuel enough. -/
def Scanner.scan (scanner : Scanner Held Result) (body : List UInt8) (held : Held) : Result :=
  scanner.scanFrom body body.length 0 held

structure Entry where
  offset : Nat
  raw : RawRecord
  deriving DecidableEq

inductive Ending where
  | finished (offset : Nat)
  | overran
  deriving DecidableEq

def entriesFrom (body : List UInt8) : Nat → Nat → List Entry × Ending
  | 0, offset => ([], .finished offset)
  | fuel + 1, offset =>
    if offset + 4 ≤ body.length then
      if body.length < offset + 4 + lengthAt body offset then ([], .overran)
      else
        let later := entriesFrom body fuel (offset + width (lengthAt body offset))
        (⟨offset, recordAt body offset⟩ :: later.1, later.2)
    else ([], .finished offset)

def entries (body : List UInt8) : List Entry × Ending := entriesFrom body body.length 0

def Scanner.run (scanner : Scanner Held Result) (ending : Ending) : List Entry → Held → Result
  | [], held =>
    match ending with
    | .finished offset => scanner.finish held offset
    | .overran => scanner.overrun held
  | entry :: rest, held =>
    match scanner.visit held entry.offset entry.raw with
    | .onward next => scanner.run ending rest next
    | .stop result => result

theorem scan_from_eq_run (scanner : Scanner Held Result) (body : List UInt8) (fuel offset : Nat)
    (held : Held) :
    scanner.scanFrom body fuel offset held =
      scanner.run (entriesFrom body fuel offset).2 (entriesFrom body fuel offset).1 held := by
  induction fuel generalizing offset held with
  | zero => rfl
  | succ fuel ih =>
    rw [Scanner.scanFrom, entriesFrom]
    split_ifs with fits beyond
    · rfl
    · rw [Scanner.run]
      cases scanner.visit held offset (recordAt body offset) with
      | onward next => exact ih _ next
      | stop result => rfl
    · rfl

theorem scan_eq_run (scanner : Scanner Held Result) (body : List UInt8) (held : Held) :
    scanner.scan body held = scanner.run (entries body).2 (entries body).1 held :=
  scan_from_eq_run scanner body body.length 0 held

section

variable {body : List UInt8} {fuel offset : Nat}

theorem entries_from_end (beyond : body.length < offset + 4) :
    entriesFrom body fuel offset = ([], .finished offset) := by
  cases fuel with
  | zero => rfl
  | succ fuel => rw [entriesFrom, if_neg (by omega)]

def Fuelled (body : List UInt8) (fuel offset : Nat) : Prop :=
  body.length < offset + 4 * (fuel + 1)

theorem fuelled_next {length : Nat} (fuelled : Fuelled body (fuel + 1) offset) :
    Fuelled body fuel (offset + width length) := by
  have moved := width_pos length
  unfold Fuelled at fuelled ⊢
  omega

theorem fuelled_start (body : List UInt8) : Fuelled body body.length 0 := by
  unfold Fuelled
  omega

theorem entries_from_record (fits : offset + 4 ≤ body.length)
    (inside : offset + 4 + lengthAt body offset ≤ body.length) :
    entriesFrom body (fuel + 1) offset =
      (⟨offset, recordAt body offset⟩ ::
          (entriesFrom body fuel (offset + width (lengthAt body offset))).1,
        (entriesFrom body fuel (offset + width (lengthAt body offset))).2) := by
  rw [entriesFrom, if_pos fits, if_neg (by omega)]

variable {entry : Entry}

theorem entries_from_bounds (member : entry ∈ (entriesFrom body fuel offset).1) :
    offset ≤ entry.offset ∧ entry.offset + 4 ≤ body.length := by
  induction fuel generalizing offset with
  | zero => cases member
  | succ fuel ih =>
    rw [entriesFrom] at member
    split_ifs at member with fits beyond
    · cases member
    · rcases List.mem_cons.mp member with same | later
      · rw [same]
        exact ⟨le_rfl, fits⟩
      · obtain ⟨reached, inside⟩ := ih later
        exact ⟨(Nat.le_add_right offset _).trans reached, inside⟩
    · cases member

variable (member : entry ∈ (entriesFrom body (fuel + 1) offset).1)

include member

theorem entries_from_cons :
    (entriesFrom body (fuel + 1) offset).1 =
      ⟨offset, recordAt body offset⟩ ::
        (entriesFrom body fuel (offset + width (lengthAt body offset))).1 := by
  rw [entriesFrom] at member ⊢
  split_ifs at member ⊢ with fits beyond
  · cases member
  · rfl
  · cases member

theorem entries_from_later (further : offset < entry.offset) :
    entry ∈ (entriesFrom body fuel (offset + width (lengthAt body offset))).1 := by
  rw [entries_from_cons member] at member
  rcases List.mem_cons.mp member with same | later
  · rw [same] at further
    exact (Nat.lt_irrefl offset further).elim
  · exact later

theorem entries_from_first (here : entry.offset = offset) :
    entry = ⟨offset, recordAt body offset⟩ := by
  rw [entries_from_cons member] at member
  rcases List.mem_cons.mp member with same | later
  · exact same
  · have beyond := (entries_from_bounds later).1
    have moved := width_pos (lengthAt body offset)
    omega

omit member

/-- Bodies that agree up to a place at which both have a record have the same records before
it. -/
theorem entries_from_shared {other : List UInt8} {more stop : Nat} {twin : Entry}
    (agree : body.take stop = other.take stop) (member : entry ∈ (entriesFrom body fuel offset).1)
    (place : entry.offset = stop) (matched : twin ∈ (entriesFrom other more offset).1)
    (twinPlace : twin.offset = stop) :
    ∃ before after later,
      (entriesFrom body fuel offset).1 = before ++ entry :: after ∧
        (entriesFrom other more offset).1 = before ++ twin :: later := by
  induction fuel generalizing offset more with
  | zero => cases member
  | succ fuel ih =>
    cases more with
    | zero => cases matched
    | succ more =>
      have reached := (entries_from_bounds member).1
      rcases Nat.eq_or_lt_of_le reached with here | further
      · rw [entries_from_cons member, entries_from_cons matched,
          ← entries_from_first member here.symm,
          ← entries_from_first matched (twinPlace.trans (place.symm.trans here.symm))]
        exact ⟨[], _, _, rfl, rfl⟩
      · have rest := entries_from_later member further
        have twinRest := entries_from_later matched (by omega)
        have beyond := (entries_from_bounds rest).1
        have moved := width_pos (lengthAt body offset)
        have length : lengthAt body offset = lengthAt other offset := by
          rw [lengthAt, slice_agree agree (by omega)]
          rfl
        have record : recordAt body offset = recordAt other offset := by
          rw [recordAt, typeAt, valueAt, slice_agree agree (by omega),
            slice_agree agree (by omega), length]
          rfl
        rw [← length] at twinRest
        obtain ⟨before, after, later, first, second⟩ := ih rest twinRest
        rw [entries_from_cons member, entries_from_cons matched, ← length, ← record, first,
          second]
        exact ⟨⟨offset, recordAt body offset⟩ :: before, after, later, rfl, rfl⟩

end

section

variable {front rest : List UInt8} {raw : RawRecord}

theorem record_layout (front rest : List UInt8) (raw : RawRecord) :
    front ++ (raw.bytes ++ rest) =
      [front, beBytes 2 raw.typ.toNat, beBytes 2 raw.value.length, raw.value,
        List.replicate (padding raw.value.length) 0, rest].flatten := by
  simp [RawRecord.bytes]

theorem length_at_record (fits : raw.value.length < 65536) :
    lengthAt (front ++ (raw.bytes ++ rest)) front.length = raw.value.length := by
  have found : slice (front ++ (raw.bytes ++ rest)) (front.length + 2) (front.length + 4) =
      beBytes 2 raw.value.length := by
    rw [record_layout]
    exact slice_flatten 2 rfl (by simp) (by simp)
  rw [lengthAt, found]
  exact be_value_be_bytes_of_lt fits

theorem record_at_record (fits : raw.value.length < 65536) :
    recordAt (front ++ (raw.bytes ++ rest)) front.length = raw := by
  have typ : slice (front ++ (raw.bytes ++ rest)) front.length (front.length + 2) =
      beBytes 2 raw.typ.toNat := by
    rw [record_layout]
    exact slice_flatten 1 rfl (by simp) (by simp)
  have value : slice (front ++ (raw.bytes ++ rest)) (front.length + 4)
      (front.length + 4 + raw.value.length) = raw.value := by
    rw [record_layout]
    exact slice_flatten 3 rfl (by simp) rfl
  apply RawRecord.ext
  · change typeAt _ _ = _
    rw [typeAt, typ, read_u16_be_bytes]
  · change valueAt _ _ = _
    rw [valueAt, length_at_record fits, value]

def placed : Nat → List RawRecord → List Entry
  | _, [] => []
  | offset, raw :: rest => ⟨offset, raw⟩ :: placed (offset + width raw.value.length) rest

theorem placed_map_raw (offset : Nat) (raws : List RawRecord) :
    (placed offset raws).map Entry.raw = raws := by
  induction raws generalizing offset with
  | nil => rfl
  | cons raw rest ih => rw [placed, List.map_cons, ih]

theorem placed_append (offset : Nat) (raws later : List RawRecord) :
    placed offset (raws ++ later) =
      placed offset raws ++ placed (offset + (raws.flatMap RawRecord.bytes).length) later := by
  induction raws generalizing offset with
  | nil => simp [placed]
  | cons raw rest ih =>
    rw [List.cons_append, placed, placed, ih, List.flatMap_cons, List.length_append,
      record_bytes_length, List.cons_append, Nat.add_assoc]

theorem layout_mod_four (raws : List RawRecord) :
    (raws.flatMap RawRecord.bytes).length % 4 = 0 := by
  induction raws with
  | nil => rfl
  | cons raw rest ih =>
    have aligned := width_mod_four raw.value.length
    rw [List.flatMap_cons, List.length_append, record_bytes_length]
    omega

variable {raws : List RawRecord}

theorem value_length_le_layout {raw : RawRecord} (member : raw ∈ raws) :
    raw.value.length ≤ (raws.flatMap RawRecord.bytes).length := by
  induction raws with
  | nil => cases member
  | cons first rest ih =>
    rw [List.flatMap_cons, List.length_append, record_bytes_length]
    rcases List.mem_cons.mp member with same | later
    · have moved := width_pos first.value.length
      rw [same]
      omega
    · have below := ih later
      omega

theorem entries_from_layout {raws : List RawRecord} {fuel : Nat}
    (fits : ∀ raw ∈ raws, raw.value.length < 65536)
    (fuelled : Fuelled (front ++ raws.flatMap RawRecord.bytes) fuel front.length) :
    entriesFrom (front ++ raws.flatMap RawRecord.bytes) fuel front.length =
      (placed front.length raws,
        .finished (front ++ raws.flatMap RawRecord.bytes).length) := by
  induction raws generalizing front fuel with
  | nil =>
    rw [List.flatMap_nil, List.append_nil, entries_from_end (by omega)]
    rfl
  | cons raw rest ih =>
    rw [List.flatMap_cons] at fuelled ⊢
    have small := fits raw List.mem_cons_self
    have moved := width_pos raw.value.length
    have total : (front ++ (raw.bytes ++ rest.flatMap RawRecord.bytes)).length =
        front.length + width raw.value.length + (rest.flatMap RawRecord.bytes).length := by
      simp only [List.length_append, record_bytes_length]
      omega
    have regroup : front ++ (raw.bytes ++ rest.flatMap RawRecord.bytes) =
        (front ++ raw.bytes) ++ rest.flatMap RawRecord.bytes := (List.append_assoc ..).symm
    have next : (front ++ raw.bytes).length = front.length + width raw.value.length := by
      rw [List.length_append, record_bytes_length]
    cases fuel with
    | zero =>
      unfold Fuelled at fuelled
      omega
    | succ fuel =>
      rw [entries_from_record (by omega) (by rw [length_at_record small]; omega),
        length_at_record small, record_at_record small]
      have later : Fuelled (front ++ (raw.bytes ++ rest.flatMap RawRecord.bytes)) fuel
          (front.length + width raw.value.length) := fuelled_next fuelled
      rw [regroup, ← next] at later
      rw [regroup, ← next, ih (fun other member => fits other (List.mem_cons_of_mem raw member))
        later, next]
      rfl

theorem entries_layout (fits : ∀ raw ∈ raws, raw.value.length < 65536) :
    entries (raws.flatMap RawRecord.bytes) =
      (placed 0 raws, .finished (raws.flatMap RawRecord.bytes).length) :=
  @entries_from_layout [] raws _ fits (fuelled_start _)

end

end Stitch.Foundation.PaddedRecords
