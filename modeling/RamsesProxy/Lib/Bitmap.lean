import RamsesProxy.Lib.CharArray

set_option autoImplicit false

-- A set of small numbers in an array of bytes, the first number in the highest bit.
namespace Bitmap

variable {size : Nat}

def full : CharArray size := fun _ => 255

def change (bitmap : CharArray size) (index : Nat) (update : UInt8 → UInt8) : CharArray size :=
  fun other => if other.val = index then update (bitmap other) else bitmap other

def fill (bitmap : CharArray size) (offset count : Nat) (byte : UInt8) : CharArray size :=
  bitmap.memcpy offset (List.replicate count byte)

def overlap (left right : CharArray size) : CharArray size := fun index => left index ||| right index

def bit (byte : UInt8) (index : Nat) : Bool := (byte >>> UInt8.ofNat (7 - index)) &&& 1 == 1

def test (bitmap : CharArray size) (number : Nat) : Bool := bit (bitmap.load (number / 8)) (number % 8)

theorem bit_test (byte : UInt8) (index : Nat) : bit byte index = byte.toNat.testBit (7 - index) := by
  have small : (7 - index) % 2 ^ 8 % 8 = 7 - index := by omega
  have shifted : (byte >>> UInt8.ofNat (7 - index) &&& 1).toNat = byte.toNat >>> (7 - index) &&& 1 := by
    rw [UInt8.toNat_and, UInt8.toNat_shiftRight, UInt8.toNat_ofNat', small]
    rfl
  have value := Nat.and_one_is_mod (byte.toNat >>> (7 - index))
  rw [bit, Nat.testBit, Nat.and_comm, ← shifted, Bool.eq_iff_iff, beq_iff_eq, bne_iff_ne, ← UInt8.toNat_inj]
  rw [← shifted] at value
  change _ = 1 ↔ _
  omega

theorem bit_or (left right : UInt8) (index : Nat) : bit (left ||| right) index = (bit left index || bit right index) := by
  rw [bit_test, bit_test, bit_test, UInt8.toNat_or, Nat.testBit_or]

theorem test_overlap (left right : CharArray size) (number : Nat) :
    test (overlap left right) number = (test left number || test right number) := by
  by_cases inside : number / 8 < size
  · simp only [test, CharArray.load, dif_pos inside, overlap, bit_or]
  · simp [test, CharArray.load, dif_neg inside, bit]

theorem bit_full (index : Nat) : bit 255 index = true := by
  have ones : (255 : UInt8).toNat = 2 ^ 8 - 1 := rfl
  rw [bit_test, ones, Nat.testBit_two_pow_sub_one]
  exact decide_eq_true (by omega)

theorem load_zeroed (index : Nat) : (CharArray.zeroed : CharArray size).load index = 0 := by
  simp [CharArray.load, CharArray.zeroed]

theorem load_full (index : Nat) (inside : index < size) : (full : CharArray size).load index = 255 := by
  simp [CharArray.load, full, inside]

theorem test_zeroed (number : Nat) : test (CharArray.zeroed : CharArray size) number = false := by
  simp [test, load_zeroed, bit]

theorem test_full (number : Nat) (inside : number / 8 < size) : test (full : CharArray size) number = true := by
  rw [test, load_full _ inside, bit_full]

theorem test_change (bitmap : CharArray size) (index number : Nat) (update : UInt8 → UInt8) (inside : number / 8 < size) :
    test (change bitmap index update) number =
      if number / 8 = index then bit (update (bitmap.load index)) (number % 8) else test bitmap number := by
  by_cases here : number / 8 = index
  · subst here
    simp [test, CharArray.load, dif_pos inside, change]
  · simp [test, CharArray.load, dif_pos inside, change, here]

theorem test_fill (bitmap : CharArray size) (offset count number : Nat) (byte : UInt8) (fits : offset + count ≤ size) :
    test (fill bitmap offset count byte) number =
      if offset ≤ number / 8 ∧ number / 8 < offset + count then bit byte (number % 8) else test bitmap number := by
  by_cases here : offset ≤ number / 8 ∧ number / 8 < offset + count
  · have inside : number / 8 < size := by omega
    have within : number / 8 - offset < count := by omega
    rw [if_pos here]
    simp [test, fill, CharArray.load, CharArray.memcpy, inside, here, within]
  · rw [if_neg here, test, fill, CharArray.load_memcpy_outside _ _ _ _ (by simp; omega), test]

end Bitmap
