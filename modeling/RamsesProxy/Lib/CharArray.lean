import Mathlib.Data.List.GetD
import Mathlib.Tactic.Common

set_option autoImplicit false

abbrev Bytes := List UInt8

-- A C char array. It has exactly the indices below its size, so a byte copied past
-- the end has no place to go; that no copy does so is a fact to prove of each caller.
abbrev CharArray (size : Nat) := Fin size → UInt8

namespace CharArray

variable {size : Nat}

def zeroed : CharArray size := fun _ => 0

def load (memory : CharArray size) (index : Nat) : UInt8 :=
  if inside : index < size then memory ⟨index, inside⟩ else 0

def slice (memory : CharArray size) (offset count : Nat) : Bytes :=
  (List.range count).map fun index => memory.load (offset + index)

def memcpy (memory : CharArray size) (offset : Nat) (source : Bytes) : CharArray size :=
  fun index =>
    if offset ≤ index.val ∧ index.val < offset + source.length then source.getD (index.val - offset) 0
    else memory index

-- The same two accesses with the end of the array checked.
def sliceChecked (memory : CharArray size) (offset count : Nat) : Option Bytes :=
  if offset + count ≤ size then some (memory.slice offset count) else none

def memcpyChecked (memory : CharArray size) (offset : Nat) (source : Bytes) : Option (CharArray size) :=
  if offset + source.length ≤ size then some (memory.memcpy offset source) else none

@[simp] theorem slice_length (memory : CharArray size) (offset count : Nat) :
    (memory.slice offset count).length = count := by
  simp [slice]

theorem slice_split (memory : CharArray size) (offset left right : Nat) :
    memory.slice offset (left + right) = memory.slice offset left ++ memory.slice (offset + left) right := by
  simp [slice, List.range_add, Nat.add_assoc, Function.comp_def]

theorem load_memcpy_outside (memory : CharArray size) (offset : Nat) (source : Bytes) (index : Nat)
    (outside : index < offset ∨ offset + source.length ≤ index) :
    (memory.memcpy offset source).load index = memory.load index := by
  have missed : ¬ (offset ≤ index ∧ index < offset + source.length) := by omega
  by_cases inside : index < size
  · simp only [load, memcpy, dif_pos inside, if_neg missed]
  · simp only [load, dif_neg inside]

theorem load_memcpy_inside (memory : CharArray size) (offset : Nat) (source : Bytes) (index : Nat)
    (fits : offset + source.length ≤ size) (within : index < source.length) :
    (memory.memcpy offset source).load (offset + index) = source[index] := by
  have inside : offset + index < size := by omega
  have hit : offset ≤ offset + index ∧ offset + index < offset + source.length := by omega
  simp only [load, memcpy, dif_pos inside, if_pos hit, Nat.add_sub_cancel_left]
  exact List.getD_eq_getElem source 0 within

theorem slice_congr (left right : CharArray size) (offset count : Nat)
    (same : ∀ index, offset ≤ index → index < offset + count → left.load index = right.load index) :
    left.slice offset count = right.slice offset count := by
  apply List.map_congr_left
  intro index member
  have bound := List.mem_range.mp member
  exact same (offset + index) (by omega) (by omega)

theorem slice_part (left right : CharArray size) (count offset part : Nat) (same : left.slice 0 count = right.slice 0 count)
    (within : offset + part ≤ count) : left.slice offset part = right.slice offset part := by
  apply slice_congr
  intro index _ high
  have atIndex := congrArg (fun bytes => bytes[index]?) same
  simpa [slice, show index < count by omega] using atIndex

theorem slice_memcpy_outside (memory : CharArray size) (offset : Nat) (source : Bytes) (start count : Nat)
    (apart : start + count ≤ offset ∨ offset + source.length ≤ start) :
    (memory.memcpy offset source).slice start count = memory.slice start count := by
  apply slice_congr
  intro index low high
  exact load_memcpy_outside memory offset source index (by omega)

theorem slice_memcpy (memory : CharArray size) (offset : Nat) (source : Bytes) (fits : offset + source.length ≤ size) :
    (memory.memcpy offset source).slice offset source.length = source := by
  apply List.ext_getElem
  · simp
  · intro index _ within
    simp only [slice, List.getElem_map, List.getElem_range]
    exact load_memcpy_inside memory offset source index fits within

theorem load_memcpy_slice (memory other : CharArray size) (count index : Nat) (within : index < count) :
    (memory.memcpy 0 (other.slice 0 count)).load index = other.load index := by
  by_cases inside : index < size
  · have hit : 0 ≤ index ∧ index < 0 + (other.slice 0 count).length := by simpa using within
    simp only [load, memcpy, dif_pos inside, if_pos hit, Nat.sub_zero]
    rw [List.getD_eq_getElem _ _ (by simpa using within)]
    simp [slice, load, inside]
  · simp only [load, dif_neg inside]

end CharArray
