import Mathlib.Algebra.Ring.Int.Defs
import Mathlib.Algebra.Ring.Nat
import Mathlib.Data.List.TakeWhile
import RamsesProxy.Lib.CharArray

set_option autoImplicit false

-- The functions of <string.h>, <stdlib.h> and <stdio.h> on C strings. A C string is
-- the list of its bytes without the terminator.
namespace CText

def ascii (text : String) : Bytes := text.toList.map fun character => UInt8.ofNat character.toNat

def cstr (memory : Bytes) : Bytes := memory.takeWhile (· != 0)

def strncat (target source : Bytes) (count : Nat) : Bytes := target ++ cstr (source.take count)

def isSpace (byte : UInt8) : Bool := byte == 32 || (9 ≤ byte && byte ≤ 13)
def isDigit (byte : UInt8) : Bool := 48 ≤ byte && byte ≤ 57

def digitsValue (digits : Bytes) : Nat := digits.foldl (fun value digit => 10 * value + (digit.toNat - 48)) 0

def strtol (text : Bytes) : Int :=
  match text.dropWhile isSpace with
  | [] => 0
  | first :: rest =>
      if first = 45 then -(digitsValue (rest.takeWhile isDigit) : Int)
      else if first = 43 then (digitsValue (rest.takeWhile isDigit) : Int)
      else (digitsValue ((first :: rest).takeWhile isDigit) : Int)

-- atol saturates at the ends of a 64-bit long; atoi is the low 32 bits of it.
def atol (text : Bytes) : Int := max (-2 ^ 63) (min (2 ^ 63 - 1) (strtol text))
def atoi (text : Bytes) : Int := (atol text).bmod (2 ^ 32)

def decimal (number : Nat) : Bytes := (Nat.toDigits 10 number).map fun digit => UInt8.ofNat digit.toNat

def hexDigit (digit : Nat) : UInt8 := (ascii "0123456789abcdef").getD digit 0

def hexadecimal (number : Nat) : Bytes := (Nat.toDigits 16 number).map fun digit => UInt8.ofNat digit.toNat

def signedDecimal (value : Int) : Bytes :=
  if value < 0 then 45 :: decimal value.natAbs else decimal value.natAbs

def printfD (width : Nat) (value : Int) : Bytes :=
  List.replicate (width - (signedDecimal value).length) 32 ++ signedDecimal value

-- The sign and the digits that a decimal conversion takes, and how many bytes it has read.
def scanSigned (sign : Int) (skipped : Nat) (text : Bytes) : Option (Int × Nat) :=
  match text.takeWhile isDigit with
  | [] => none
  | digits => some (sign * digitsValue digits, skipped + digits.length)

def scanDecimal (text : Bytes) : Option (Int × Nat) :=
  let blanks := (text.takeWhile isSpace).length
  match text.dropWhile isSpace with
  | 45 :: rest => scanSigned (-1) (blanks + 1) rest
  | 43 :: rest => scanSigned 1 (blanks + 1) rest
  | rest => scanSigned 1 blanks rest

-- sscanf reads a long, which saturates, and %d stores the low 32 bits of it.
def scanLd (text : Bytes) : Option (Int × Nat) :=
  (scanDecimal text).map fun scanned => (max (-2 ^ 63) (min (2 ^ 63 - 1) scanned.1), scanned.2)

def scanD (text : Bytes) : Option (Int × Nat) := (scanLd text).map fun scanned => (scanned.1.bmod (2 ^ 32), scanned.2)

-- %0*d: a negative width turns the padding to blanks on the right.
def padded (width : Int) (number : Nat) : Bytes :=
  if 0 ≤ width then List.replicate (width.toNat - (decimal number).length) 48 ++ decimal number
  else decimal number ++ List.replicate (width.natAbs - (decimal number).length) 32

def paddedSigned (width value : Int) : Bytes :=
  if 0 ≤ value then padded width value.toNat
  else if 0 ≤ width then 45 :: padded (width - 1) value.natAbs
  else 45 :: padded (width + 1) value.natAbs

-- One strtok call on the text still to be cut: the token and what is left after its
-- delimiter, or no token when nothing but delimiters is left.
def strtok (delimiter : UInt8 → Bool) (text : Bytes) : Option (Bytes × Bytes) :=
  match text.dropWhile delimiter with
  | [] => none
  | first :: rest =>
      some ((first :: rest).takeWhile (!delimiter ·), ((first :: rest).dropWhile (!delimiter ·)).tail)

theorem cstr_of_no_nul (text : Bytes) (clean : ∀ byte ∈ text, byte ≠ 0) : cstr text = text := by
  rw [cstr, List.takeWhile_eq_self_iff]
  intro byte member
  simpa using clean byte member

theorem cstr_cstr (memory : Bytes) : cstr (cstr memory) = cstr memory := List.takeWhile_idem ..

theorem strncat_empty (source : Bytes) (count : Nat) (long : source.length = count) (clean : ∀ byte ∈ source, byte ≠ 0) :
    strncat [] source count = source := by
  rw [strncat, ← long, List.take_length, cstr_of_no_nul source clean, List.nil_append]

theorem digit_byte (digit : Nat) (small : digit < 10) : UInt8.ofNat (Nat.digitChar digit).toNat = UInt8.ofNat (48 + digit) := by
  match digit with
  | 0 | 1 | 2 | 3 | 4 | 5 | 6 | 7 | 8 | 9 => rfl
  | larger + 10 => omega

theorem decimal_eq (number : Nat) :
    decimal number = (if number < 10 then [] else decimal (number / 10)) ++ [UInt8.ofNat (48 + number % 10)] := by
  rw [decimal, Nat.toDigits_eq_if (by decide)]
  by_cases small : number < 10
  · simp only [if_pos small, List.map_cons, List.map_nil, List.nil_append, digit_byte number small, Nat.mod_eq_of_lt small]
  · simp only [if_neg small, List.map_append, List.map_cons, List.map_nil, decimal]
    rw [digit_byte (number % 10) (Nat.mod_lt number (by decide))]

theorem hex_byte (digit : Nat) (small : digit < 16) : UInt8.ofNat (Nat.digitChar digit).toNat = hexDigit digit := by
  match digit with
  | 0 | 1 | 2 | 3 | 4 | 5 | 6 | 7 | 8 | 9 | 10 | 11 | 12 | 13 | 14 | 15 => rfl
  | larger + 16 => omega

theorem hexadecimal_eq (number : Nat) :
    hexadecimal number = (if number < 16 then [] else hexadecimal (number / 16)) ++ [hexDigit (number % 16)] := by
  rw [hexadecimal, Nat.toDigits_eq_if (by decide)]
  by_cases small : number < 16
  · simp only [if_pos small, List.map_cons, List.map_nil, List.nil_append, hex_byte number small, Nat.mod_eq_of_lt small]
  · simp only [if_neg small, List.map_append, List.map_cons, List.map_nil, hexadecimal]
    rw [hex_byte (number % 16) (Nat.mod_lt number (by decide))]

theorem digit_byte_value (digit : Nat) (small : digit < 10) : (UInt8.ofNat (48 + digit)).toNat = 48 + digit :=
  UInt8.toNat_ofNat_of_lt' (by have : UInt8.size = 256 := rfl; omega)

theorem digits_value_snoc (digits : Bytes) (digit : UInt8) :
    digitsValue (digits ++ [digit]) = 10 * digitsValue digits + (digit.toNat - 48) := by
  simp [digitsValue]

theorem digits_value_decimal (number : Nat) : digitsValue (decimal number) = number := by
  induction number using Nat.strong_induction_on with
  | _ number ih =>
      rw [decimal_eq, digits_value_snoc, digit_byte_value _ (Nat.mod_lt number (by decide))]
      by_cases small : number < 10
      · rw [if_pos small]
        simp only [digitsValue, List.foldl_nil]
        omega
      · rw [if_neg small, ih (number / 10) (by omega)]
        omega

theorem decimal_digits (number : Nat) : ∀ byte ∈ decimal number, isDigit byte = true := by
  induction number using Nat.strong_induction_on with
  | _ number ih =>
      intro byte member
      rw [decimal_eq, List.mem_append, List.mem_singleton] at member
      rcases member with earlier | last
      · by_cases small : number < 10
        · simp [if_pos small] at earlier
        · rw [if_neg small] at earlier
          exact ih (number / 10) (by omega) byte earlier
      · have value := digit_byte_value (number % 10) (Nat.mod_lt number (by decide))
        simp only [isDigit, Bool.and_eq_true, decide_eq_true_eq, UInt8.le_iff_toNat_le, last, value]
        have bound := Nat.mod_lt number (show 0 < 10 by decide)
        exact ⟨by simp, by simp; omega⟩

theorem decimal_length (number width : Nat) (positive : 0 < width) (bound : number < 10 ^ width) :
    (decimal number).length ≤ width := by
  rw [decimal, List.length_map]
  exact (Nat.length_toDigits_le_iff (by decide) positive).mpr bound

theorem decimal_cons (number : Nat) : ∃ first rest, decimal number = first :: rest ∧ isDigit first = true := by
  cases digits : decimal number with
  | nil => simp [decimal] at digits
  | cons first rest => exact ⟨first, rest, rfl, decimal_digits number first (by simp [digits])⟩

theorem digit_not_space (byte : UInt8) (digit : isDigit byte = true) : isSpace byte = false := by
  simp only [isDigit, Bool.and_eq_true, decide_eq_true_eq, UInt8.le_iff_toNat_le] at digit
  have low : 48 ≤ byte.toNat := digit.1
  have notBlank : byte ≠ 32 := by rintro rfl; simp at low
  have high : ¬ byte ≤ 13 := by
    rw [UInt8.le_iff_toNat_le]
    simp only [UInt8.reduceToNat]
    omega
  simp [isSpace, notBlank, high]

theorem digit_ne (byte other : UInt8) (digit : isDigit byte = true) (apart : isDigit other = false) : byte ≠ other := by
  rintro rfl
  simp [digit] at apart

theorem strtol_padded (blanks number : Nat) : strtol (List.replicate blanks 32 ++ decimal number) = number := by
  obtain ⟨first, rest, digits, digit⟩ := decimal_cons number
  have skipped : (List.replicate blanks 32 ++ decimal number).dropWhile isSpace = first :: rest := by
    rw [List.dropWhile_append_of_pos (by intro byte member; rw [List.eq_of_mem_replicate member]; rfl), digits]
    simp [digit_not_space first digit]
  have whole : (first :: rest).takeWhile isDigit = decimal number := by
    rw [← digits, List.takeWhile_eq_self_iff]
    exact decimal_digits number
  rw [strtol, skipped]
  simp only [if_neg (digit_ne first 45 digit rfl), if_neg (digit_ne first 43 digit rfl), whole, digits_value_decimal]

theorem atoi_padded (blanks number : Nat) (bound : number < 2 ^ 31) :
    atoi (List.replicate blanks 32 ++ decimal number) = number := by
  rw [atoi, atol, strtol_padded]
  have kept : max (-2 ^ 63 : Int) (min (2 ^ 63 - 1) (number : Int)) = number := by omega
  rw [kept]
  exact Int.bmod_eq_of_le (by omega) (by omega)

theorem printf_d_nat (width number : Nat) :
    printfD width number = List.replicate (width - (decimal number).length) 32 ++ decimal number := by
  have sign : ¬ ((number : Int) < 0) := by omega
  simp only [printfD, signedDecimal, if_neg sign, Int.natAbs_natCast]

theorem printf_d_length (width number : Nat) (positive : 0 < width) (bound : number < 10 ^ width) :
    (printfD width number).length = width := by
  have short := decimal_length number width positive bound
  rw [printf_d_nat, List.length_append, List.length_replicate]
  omega

theorem printf_d_no_nul (width number : Nat) : ∀ byte ∈ printfD width number, byte ≠ 0 := by
  intro byte member
  rw [printf_d_nat, List.mem_append] at member
  rcases member with blank | digit
  · rw [List.eq_of_mem_replicate blank]
    decide
  · exact digit_ne byte 0 (decimal_digits number byte digit) rfl

theorem atoi_printf_d (width number : Nat) (bound : number < 2 ^ 31) : atoi (printfD width number) = number := by
  rw [printf_d_nat]
  exact atoi_padded _ number bound

theorem atoi_decimal (number : Nat) (bound : number < 2 ^ 31) : atoi (decimal number) = number := by
  simpa using atoi_padded 0 number bound

theorem strtol_signed (value : Int) : strtol (signedDecimal value) = value := by
  by_cases negative : value < 0
  · have digits : (decimal value.natAbs).takeWhile isDigit = decimal value.natAbs :=
      List.takeWhile_eq_self_iff.mpr (decimal_digits value.natAbs)
    have kept : (45 :: decimal value.natAbs).dropWhile isSpace = 45 :: decimal value.natAbs := rfl
    rw [signedDecimal, if_pos negative, strtol, kept]
    simp only [if_true, digits, digits_value_decimal]
    omega
  · rw [signedDecimal, if_neg negative]
    have padded := strtol_padded 0 value.natAbs
    rw [List.replicate_zero, List.nil_append] at padded
    omega

theorem atol_signed_decimal (value : Int) (low : -2 ^ 63 ≤ value) (high : value < 2 ^ 63) :
    atol (signedDecimal value) = value := by
  rw [atol, strtol_signed]
  omega

theorem atoi_signed_decimal (value : Int) (low : -2 ^ 31 ≤ value) (high : value < 2 ^ 31) :
    atoi (signedDecimal value) = value := by
  rw [atoi, atol_signed_decimal value (by omega) (by omega)]
  exact Int.bmod_eq_of_le (by omega) (by omega)

theorem signed_decimal_bytes (value : Int) (byte : UInt8) (member : byte ∈ signedDecimal value) :
    byte = 45 ∨ isDigit byte = true := by
  by_cases negative : value < 0
  · rw [signedDecimal, if_pos negative, List.mem_cons] at member
    exact member.imp_right (decimal_digits value.natAbs byte)
  · rw [signedDecimal, if_neg negative] at member
    exact .inr (decimal_digits value.natAbs byte member)

theorem atoi_range (text : Bytes) : -2 ^ 31 ≤ atoi text ∧ atoi text < 2 ^ 31 := by
  have low := @Int.le_bmod (atol text) (2 ^ 32) (by decide)
  have high := @Int.bmod_lt (atol text) (2 ^ 32) (by decide)
  rw [atoi]
  omega

theorem uint32_of_nonneg (value : Int) (low : 0 ≤ value) (high : value < 2 ^ 31) : ((UInt32.ofInt value).toNat : Int) = value := by
  have kept : value % 2 ^ 32 = value := Int.emod_eq_of_lt low (by omega)
  rw [UInt32.ofInt, kept, UInt32.toNat_ofNat_of_lt' (by have : UInt32.size = 4294967296 := rfl; omega)]
  exact Int.toNat_of_nonneg low

theorem uint32_of_negative (value : Int) (low : -2 ^ 31 ≤ value) (negative : value < 0) :
    2 ^ 31 ≤ (UInt32.ofInt value).toNat := by
  have wrapped : value % 2 ^ 32 = value + 2 ^ 32 := by omega
  rw [UInt32.ofInt, wrapped, UInt32.toNat_ofNat_of_lt' (by have : UInt32.size = 4294967296 := rfl; omega)]
  omega

theorem uint32_of_int_gt (value : Int) (limit : UInt32) (low : -2 ^ 31 ≤ value) (high : value < 2 ^ 31)
    (small : limit.toNat < 2 ^ 31) : UInt32.ofInt value > limit ↔ value < 0 ∨ (limit.toNat : Int) < value := by
  rw [gt_iff_lt, UInt32.lt_iff_toNat_lt]
  by_cases negative : value < 0
  · have wrapped := uint32_of_negative value low negative
    omega
  · have kept := uint32_of_nonneg value (by omega) high
    omega

theorem strtok_token (delimiter : UInt8 → Bool) (token rest : Bytes) (mark : UInt8) (nonempty : token ≠ [])
    (plain : ∀ byte ∈ token, delimiter byte = false) (marked : delimiter mark = true) :
    strtok delimiter (token ++ mark :: rest) = some (token, rest) := by
  cases token with
  | nil => exact absurd rfl nonempty
  | cons first others =>
      have kept : (first :: others ++ mark :: rest).dropWhile delimiter = first :: (others ++ mark :: rest) := by
        simp [plain first (by simp)]
      have noMark : ∀ byte ∈ first :: others, (!delimiter byte) = true := by
        intro byte member
        simp [plain byte member]
      rw [strtok, kept]
      have joined : first :: (others ++ mark :: rest) = (first :: others) ++ mark :: rest := rfl
      simp only [joined]
      rw [List.takeWhile_append_of_pos noMark, List.dropWhile_append_of_pos noMark]
      simp [marked]

theorem strtok_skips (delimiter : UInt8 → Bool) (marks text : Bytes) (skipped : ∀ byte ∈ marks, delimiter byte = true) :
    strtok delimiter (marks ++ text) = strtok delimiter text := by
  rw [strtok, strtok, List.dropWhile_append_of_pos skipped]

theorem strtok_last (delimiter : UInt8 → Bool) (token : Bytes) (nonempty : token ≠ [])
    (plain : ∀ byte ∈ token, delimiter byte = false) : strtok delimiter token = some (token, []) := by
  cases token with
  | nil => exact absurd rfl nonempty
  | cons first others =>
      have kept : (first :: others).dropWhile delimiter = first :: others := by simp [plain first (by simp)]
      have noMark : ∀ byte ∈ first :: others, (!delimiter byte) = true := by
        intro byte member
        simp [plain byte member]
      have taken := List.takeWhile_eq_self_iff.mpr noMark
      have dropped := List.dropWhile_eq_nil_iff.mpr noMark
      rw [strtok, kept]
      simp only [taken, dropped, List.tail_nil]

theorem strtok_shape (delimiter : UInt8 → Bool) (text token rest : Bytes) (cut : strtok delimiter text = some (token, rest)) :
    ∃ marks tail, text = marks ++ (token ++ tail) ∧ (∀ byte ∈ marks, delimiter byte = true) ∧ token ≠ [] ∧
      (∀ byte ∈ token, delimiter byte = false) ∧
      ((tail = [] ∧ rest = []) ∨ ∃ mark, delimiter mark = true ∧ tail = mark :: rest) := by
  unfold strtok at cut
  split at cut
  · cases cut
  · rename_i first others body
    obtain ⟨taken, dropped⟩ := Prod.mk.inj (Option.some.inj cut)
    have head : delimiter first = false := by
      have stopped := List.head?_dropWhile_not delimiter text
      simpa [body] using stopped
    refine ⟨text.takeWhile delimiter, (first :: others).dropWhile (!delimiter ·), ?_, ?_, ?_, ?_, ?_⟩
    · rw [← taken, List.takeWhile_append_dropWhile, ← body, List.takeWhile_append_dropWhile]
    · exact fun byte member => List.mem_takeWhile_imp member
    · rw [← taken]
      simp [head]
    · intro byte member
      rw [← taken] at member
      simpa using List.mem_takeWhile_imp member
    · cases tail : (first :: others).dropWhile (!delimiter ·) with
      | nil =>
          rw [tail] at dropped
          exact .inl ⟨rfl, dropped.symm⟩
      | cons mark after =>
          rw [tail] at dropped
          have stopped := List.head?_dropWhile_not (!delimiter ·) (first :: others)
          refine .inr ⟨mark, ?_, by rw [← dropped]; rfl⟩
          simpa [tail] using stopped

theorem strtok_rest (text : Bytes) (nonempty : text ≠ []) : strtok (fun _ => false) text = some (text, []) :=
  strtok_last _ text nonempty fun _ _ => rfl

theorem digits_value_zeros (zeros : Nat) (digits : Bytes) : digitsValue (List.replicate zeros 48 ++ digits) = digitsValue digits := by
  induction zeros with
  | zero => rfl
  | succ zeros ih => simpa [List.replicate_succ, digitsValue] using ih

theorem scan_digits (digits rest : Bytes) (nonempty : digits ≠ []) (all : ∀ byte ∈ digits, isDigit byte = true)
    (ends : ∀ byte ∈ rest.head?, isDigit byte = false) :
    scanDecimal (digits ++ rest) = some ((digitsValue digits : Int), digits.length) := by
  obtain ⟨first, others, rfl⟩ := List.exists_cons_of_ne_nil nonempty
  have digit := all first List.mem_cons_self
  have whole : (first :: others ++ rest).takeWhile isDigit = first :: others := by
    rw [List.takeWhile_append_of_pos all]
    cases rest with
    | nil => simp
    | cons byte after =>
        have stops : isDigit byte = false := ends byte rfl
        simp [stops]
  have blank := digit_not_space first digit
  have minus := digit_ne first 45 digit rfl
  have plus := digit_ne first 43 digit rfl
  have kept : (first :: others ++ rest).dropWhile isSpace = first :: others ++ rest := by simp [blank]
  have none : (first :: others ++ rest).takeWhile isSpace = [] := by simp [blank]
  unfold scanDecimal
  rw [kept, none, List.cons_append]
  split
  · rename_i heading
    exact absurd (List.cons.inj heading).1 minus
  · rename_i heading
    exact absurd (List.cons.inj heading).1 plus
  · rw [scanSigned, ← List.cons_append, whole]
    simp

theorem padded_scanned (width : Int) (number : Nat) (rest : Bytes) (ends : ∀ byte ∈ rest.head?, isDigit byte = false) :
    ∃ count : Nat, scanDecimal (padded width number ++ rest) = some ((number : Int), count) ∧ width ≤ count := by
  obtain ⟨first, others, digits, _⟩ := decimal_cons number
  by_cases positive : 0 ≤ width
  · have zeros := scan_digits (List.replicate (width.toNat - (decimal number).length) 48 ++ decimal number) rest
      (by simp [digits])
      (by
        intro byte member
        cases List.mem_append.mp member with
        | inl zero => rw [List.eq_of_mem_replicate zero]; rfl
        | inr digit => exact decimal_digits number byte digit)
      ends
    rw [digits_value_zeros, digits_value_decimal] at zeros
    refine ⟨_, by rw [padded, if_pos positive]; exact zeros, ?_⟩
    rw [List.length_append, List.length_replicate]
    omega
  · have blanks := scan_digits (decimal number) (List.replicate (width.natAbs - (decimal number).length) 32 ++ rest) (by simp [digits])
      (decimal_digits number)
      (by
        intro byte first
        cases count : width.natAbs - (decimal number).length with
        | zero =>
            rw [count] at first
            exact ends byte first
        | succ left =>
            rw [count] at first
            cases first
            rfl)
    rw [digits_value_decimal] at blanks
    refine ⟨_, by rw [padded, if_neg positive, List.append_assoc]; exact blanks, ?_⟩
    omega

theorem padded_scanned_int (width : Int) (number : Nat) (rest : Bytes) (ends : ∀ byte ∈ rest.head?, isDigit byte = false)
    (small : number < 2 ^ 31) :
    ∃ count : Nat, scanD (padded width number ++ rest) = some ((number : Int), count) ∧ width ≤ count := by
  obtain ⟨count, scanned, wide⟩ := padded_scanned width number rest ends
  refine ⟨count, ?_, wide⟩
  have long : max (-2 ^ 63) (min (2 ^ 63 - 1) (number : Int)) = number := by omega
  rw [scanD, scanLd, scanned, Option.map_some, Option.map_some, long, Int.bmod_eq_of_le (by omega) (by omega)]

@[simp] theorem padded_signed_nat (width : Int) (number : Nat) : paddedSigned width number = padded width number := by
  rw [paddedSigned, if_pos (Int.natCast_nonneg number), Int.toNat_natCast]

end CText
