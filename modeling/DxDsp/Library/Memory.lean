/-
This file holds the byte-level vocabulary: memory as a function from addresses
to bytes, a copy into a range of it, little-endian words read from it, the bytes
that words take up, stores in a row, the placement of the members of a C
structure, and the bytes of a structure whose members were assigned in order.
-/

import Mathlib.Algebra.GroupWithZero.Nat
import Mathlib.Data.List.Basic
import Mathlib.Logic.Function.Basic

namespace DxDsp.Library

/-! ### Byte memory -/

/-- Memory from some address on; addresses are offsets from it. -/
abbrev ByteMemory := Nat → UInt8

namespace ByteMemory

/-- Copy `size` bytes to the range that starts at `offset`. -/
def store (memory : ByteMemory) (offset size : Nat) (bytes : Nat → UInt8) : ByteMemory :=
  fun address =>
    if offset ≤ address ∧ address < offset + size then bytes (address - offset)
    else memory address

/-- The value of a sequence of bytes, least significant first. -/
def littleEndian : List UInt8 → Nat
  | [] => 0
  | byte :: rest => byte.toNat + 256 * littleEndian rest

/-- The 16-bit word at an offset. -/
def halfword (memory : ByteMemory) (offset : Nat) : UInt16 :=
  UInt16.ofNat (littleEndian [memory offset, memory (offset + 1)])

/-- The 32-bit word at an offset. -/
def word (memory : ByteMemory) (offset : Nat) : UInt32 :=
  UInt32.ofNat (littleEndian
    [memory offset, memory (offset + 1), memory (offset + 2), memory (offset + 3)])

theorem store_of_lt {memory : ByteMemory} {size address : Nat} {bytes : Nat → UInt8}
    (inside : address < size) : memory.store 0 size bytes address = bytes address := by
  rw [store, if_pos ⟨Nat.zero_le _, by omega⟩, Nat.sub_zero]

theorem store_of_le {memory : ByteMemory} {size address : Nat} {bytes : Nat → UInt8}
    (behind : size ≤ address) : memory.store 0 size bytes address = memory address := by
  rw [store, if_neg (by omega)]

theorem littleEndian_lt (bytes : List UInt8) : littleEndian bytes < 256 ^ bytes.length := by
  induction bytes with
  | nil => exact Nat.one_pos
  | cons byte rest inductionHypothesis =>
    have small := byte.toNat_lt
    rw [littleEndian, List.length_cons, Nat.pow_succ]
    omega

theorem word_toNat (memory : ByteMemory) (offset : Nat) :
    (memory.word offset).toNat = (memory offset).toNat + 256 * ((memory (offset + 1)).toNat +
      256 * ((memory (offset + 2)).toNat + 256 * (memory (offset + 3)).toNat)) := by
  have bound : littleEndian
      [memory offset, memory (offset + 1), memory (offset + 2), memory (offset + 3)] < 256 ^ 4 :=
    littleEndian_lt _
  have size : 256 ^ 4 = 2 ^ 32 := by decide
  rw [size] at bound
  rw [word, UInt32.toNat_ofNat', Nat.mod_eq_of_lt bound]
  rfl

/-! ### Bytes of words -/

/-- The byte of a 32-bit value at an index, least significant first. -/
def byteOf (value : UInt32) (index : Nat) : UInt8 := UInt8.ofNat (value.toNat / 256 ^ index)

/-- The bytes that words in a row take up. -/
def ofWords (words : Nat → UInt32) : ByteMemory :=
  fun address => byteOf (words (address / 4)) (address % 4)

theorem byteOf_word (memory : ByteMemory) (offset : Nat) {index : Nat} (inside : index < 4) :
    byteOf (memory.word offset) index = memory (offset + index) := by
  refine UInt8.toNat_inj.mp ?_
  rw [byteOf, UInt8.toNat_ofNat', word_toNat]
  have first := (memory offset).toNat_lt
  have second := (memory (offset + 1)).toNat_lt
  have third := (memory (offset + 2)).toNat_lt
  have fourth := (memory (offset + 3)).toNat_lt
  obtain rfl | rfl | rfl | rfl : index = 0 ∨ index = 1 ∨ index = 2 ∨ index = 3 := by omega
  · simp only [Nat.pow_zero, Nat.div_one, Nat.add_zero]
    omega
  · rw [Nat.pow_one]
    omega
  · have square : 256 ^ 2 = 65536 := rfl
    rw [square]
    omega
  · have cube : 256 ^ 3 = 16777216 := rfl
    rw [cube]
    omega

/-- Words that were read from memory take up the bytes they were read from. -/
theorem ofWords_word (memory : ByteMemory) (offset address : Nat) :
    ofWords (fun i => memory.word (offset + 4 * i)) address = memory (offset + address) := by
  rw [ofWords, byteOf_word memory _ (Nat.mod_lt _ (by decide))]
  congr 1
  omega

theorem word_eq_iff {first second : ByteMemory} {offset other : Nat} :
    first.word offset = second.word other ↔
      ∀ index < 4, first (offset + index) = second (other + index) := by
  constructor
  · intro same index inside
    rw [← byteOf_word first offset inside, same, byteOf_word second other inside]
  · intro same
    have zero := same 0 (by decide)
    have one := same 1 (by decide)
    have two := same 2 (by decide)
    have three := same 3 (by decide)
    rw [Nat.add_zero, Nat.add_zero] at zero
    rw [word, word, zero, one, two, three]

end ByteMemory

/-! ### Stores in a row -/

section StoreEach

variable {Key Value : Type} [DecidableEq Key] {addr : Nat → Key} {value : Nat → Value}
  {base : Key → Value} {key : Key}

/-- The memory after `count` stores, the `i`-th of them at `addr i`. -/
def storeEach (base : Key → Value) (addr : Nat → Key) (value : Nat → Value) (count : Nat) :
    Key → Value :=
  (List.range count).foldl (fun memory i => Function.update memory (addr i) (value i)) base

theorem storeEach_succ (count : Nat) :
    storeEach base addr value (count + 1) =
      Function.update (storeEach base addr value count) (addr count) (value count) := by
  rw [storeEach, List.range_succ, List.foldl_append]
  rfl

/-- A key that no store names keeps its value. -/
theorem storeEach_of_ne {count : Nat} (apart : ∀ i < count, addr i ≠ key) :
    storeEach base addr value count key = base key := by
  induction count with
  | zero => rfl
  | succ count inductionHypothesis =>
    rw [storeEach_succ, Function.update_of_ne (apart count (Nat.lt_succ_self count)).symm]
    exact inductionHypothesis fun i inside => apart i (Nat.lt_succ_of_lt inside)

/-- A key that one store names holds what that store put there. -/
theorem storeEach_of_unique {count i : Nat} (inside : i < count)
    (unique : ∀ j < count, addr j = addr i → j = i) :
    storeEach base addr value count (addr i) = value i := by
  induction count with
  | zero => exact absurd inside (Nat.not_lt_zero i)
  | succ count inductionHypothesis =>
    rw [storeEach_succ]
    by_cases last : i = count
    · rw [last, Function.update_self]
    · have before : i < count := by omega
      have other : addr i ≠ addr count :=
        fun same => last (unique count (Nat.lt_succ_self count) same.symm).symm
      rw [Function.update_of_ne other]
      exact inductionHypothesis before fun j earlier => unique j (Nat.lt_succ_of_lt earlier)

end StoreEach

/-! ### Structure layout -/

/-- Size and alignment of one member of a structure. -/
structure Member where
  size : Nat
  align : Nat

/-- The next multiple of an alignment. -/
def roundUp (offset align : Nat) : Nat := (offset + align - 1) / align * align

/-- Where the members of a structure start, when the first may start at `offset`. -/
def memberOffsets : Nat → List Member → List Nat
  | _, [] => []
  | offset, member :: rest =>
    roundUp offset member.align :: memberOffsets (roundUp offset member.align + member.size) rest

/-- The end of the last member. -/
def memberEnd : Nat → List Member → Nat
  | offset, [] => offset
  | offset, member :: rest => memberEnd (roundUp offset member.align + member.size) rest

/-- The alignment of a structure is the largest of its members'. -/
def structAlign (members : List Member) : Nat :=
  members.foldr (fun member align => max member.align align) 1

/-- The size of a structure: its end, padded to its alignment. -/
def structSize (members : List Member) : Nat :=
  roundUp (memberEnd 0 members) (structAlign members)

/-- A structure as a member of another one. -/
def structMember (members : List Member) : Member where
  size := structSize members
  align := structAlign members

/-- An array of `count` elements as a member. -/
def arrayMember (element : Member) (count : Nat) : Member where
  size := element.size * count
  align := element.align

/-! ### Assigned members -/

/-- Offset and size of each member. -/
def memberPlaces (members : List Member) : List (Nat × Nat) :=
  (memberOffsets 0 members).zip (members.map Member.size)

/-- The address lies in one of the places. -/
def Covered (places : List (Nat × Nat)) (address : Nat) : Prop :=
  ∃ place ∈ places, place.1 ≤ address ∧ address < place.1 + place.2

instance (places : List (Nat × Nat)) (address : Nat) : Decidable (Covered places address) :=
  inferInstanceAs (Decidable (∃ place ∈ places, _))

/-- Assign values to the first members, in order. -/
def ByteMemory.assign (memory : ByteMemory) : List (Nat × Nat) → List Nat → ByteMemory
  | (offset, size) :: places, value :: values =>
    ByteMemory.assign (memory.store offset size fun index => UInt8.ofNat (value / 256 ^ index))
      places values
  | _, _ => memory

/-- After the same assignments a byte is the same where a member covers it, and where it was. -/
theorem ByteMemory.assign_eq_iff {places : List (Nat × Nat)} {values : List Nat} {address : Nat}
    (first second : ByteMemory) :
    first.assign places values address = second.assign places values address ↔
      Covered (places.take values.length) address ∨ first address = second address := by
  induction places generalizing values first second with
  | nil => simp [ByteMemory.assign, Covered]
  | cons place rest inductionHypothesis =>
    cases values with
    | nil => simp [ByteMemory.assign, Covered]
    | cons value values =>
      rw [ByteMemory.assign, ByteMemory.assign, inductionHypothesis, ByteMemory.store,
        ByteMemory.store, List.length_cons, List.take_succ_cons, Covered, Covered,
        List.exists_mem_cons_iff]
      by_cases inside : place.1 ≤ address ∧ address < place.1 + place.2
      · simp [inside]
      · simp [inside]

/-- The bytes of a structure in memory, once its first members are assigned. -/
def structBytes (members : List Member) (values : List Nat) (memory : ByteMemory) : List UInt8 :=
  (List.range (structSize members)).map (memory.assign (memberPlaces members) values)

theorem structBytes_eq_iff {members : List Member} {values : List Nat}
    (first second : ByteMemory) :
    structBytes members values first = structBytes members values second ↔
      ∀ address < structSize members,
        Covered ((memberPlaces members).take values.length) address ∨
          first address = second address := by
  simp only [structBytes, List.map_inj_left, List.mem_range, ByteMemory.assign_eq_iff]

/-- The same of the bytes in front of some address. -/
theorem structBytes_take_eq_iff {members : List Member} {values : List Nat} {count : Nat}
    (first second : ByteMemory) :
    (structBytes members values first).take count =
        (structBytes members values second).take count ↔
      ∀ address < structSize members, address < count →
        Covered ((memberPlaces members).take values.length) address ∨
          first address = second address := by
  simp only [structBytes, ← List.map_take, List.take_range, List.map_inj_left, List.mem_range,
    ByteMemory.assign_eq_iff, Nat.lt_min]
  exact ⟨fun same address inside reached => same address ⟨reached, inside⟩,
    fun same address both => same address both.2 both.1⟩

/-- A structure without padding whose members are all assigned shows nothing of the memory. -/
theorem structBytes_eq {members : List Member} {values : List Nat}
    (covered : ∀ address < structSize members,
      Covered ((memberPlaces members).take values.length) address)
    (first second : ByteMemory) :
    structBytes members values first = structBytes members values second :=
  (structBytes_eq_iff first second).mpr fun address inside => Or.inl (covered address inside)

end DxDsp.Library
