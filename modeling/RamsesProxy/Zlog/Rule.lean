import RamsesProxy.Lib.Bitmap
import RamsesProxy.Lib.CText

set_option autoImplicit false

namespace Zlog

open CText

def toUpper (byte : UInt8) : UInt8 := if 97 ≤ byte ∧ byte ≤ 122 then byte - 32 else byte

-- The slots of the array by level; an empty slot has no level defined. zlog_level_new
-- refuses a level outside 0 to 255, so there is no slot above.
structure LevelList where
  slots : List (Option Bytes)
  bounded : slots.length ≤ 256

namespace LevelList

def empty : LevelList := ⟨[], by simp⟩

def set (levels : LevelList) (str : Bytes) (level : Int) : Option LevelList :=
  if inside : 0 ≤ level ∧ level ≤ 255 then
    if str = [] ∨ 1024 < str.length then none
    else
      some
        { slots := (levels.slots ++ List.replicate (level.toNat + 1 - levels.slots.length) none).set level.toNat (some (str.map toUpper))
          bounded := by
            have bounded := levels.bounded
            simp only [List.length_set, List.length_append, List.length_replicate]
            omega }
  else none

def setDefault (levels : LevelList) : Option LevelList := do
  let levels ← levels.set (ascii "*") 0
  let levels ← levels.set (ascii "DEBUG") 20
  let levels ← levels.set (ascii "INFO") 40
  let levels ← levels.set (ascii "NOTICE") 60
  let levels ← levels.set (ascii "WARN") 80
  let levels ← levels.set (ascii "ERROR") 100
  let levels ← levels.set (ascii "FATAL") 120
  let levels ← levels.set (ascii "UNKNOWN") 254
  levels.set (ascii "!") 255

def atoi (levels : LevelList) (str : Bytes) : Int :=
  if str = [] then -1
  else
    match levels.slots.findIdx? fun slot => slot.any fun name => str.map toUpper == name.map toUpper with
    | some index => index
    | none => -1

theorem atoi_bounded (levels : LevelList) (str : Bytes) : -1 ≤ levels.atoi str ∧ levels.atoi str ≤ 255 := by
  unfold atoi
  by_cases empty : str = []
  · rw [if_pos empty]
    omega
  · rw [if_neg empty]
    cases found : levels.slots.findIdx? fun slot => slot.any fun name => str.map toUpper == name.map toUpper with
    | none => exact ⟨Int.le_refl _, by decide⟩
    | some index =>
        have inside := (List.findIdx?_eq_some_iff_getElem.mp found).1
        have bounded := levels.bounded
        dsimp only
        omega

end LevelList

inductive CompareChar where
  | equal
  | except
  | every
  | above
deriving DecidableEq

-- The mask of one level in its byte. An unknown level, which is -1, has none.
def levelMask (level : Int) : UInt8 := UInt8.ofNat (1 <<< (7 - level.tmod 8).toNat)

def makeBitmap (compareChar : CompareChar) (level : Int) : CharArray 32 :=
  let index := (level.tdiv 8).toNat
  match compareChar with
  | .equal => Bitmap.change CharArray.zeroed index (· ||| levelMask level)
  | .except => Bitmap.change Bitmap.full index (· &&& ~~~levelMask level)
  | .every => Bitmap.full
  | .above =>
      Bitmap.fill (Bitmap.change CharArray.zeroed index (· ||| ~~~UInt8.ofNat (255 <<< (8 - level.tmod 8).toNat)))
        (index + 1) (32 - index - 1) 255

-- What a rule does with an event that it lets through is left to action.
structure Rule (Action : Type) where
  category : Bytes
  compareChar : CompareChar
  level : Int
  levelBitmap : CharArray 32
  action : Action
  named : category ≠ []
  bounded : -1 ≤ level ∧ level ≤ 255
  mapped : levelBitmap = makeBitmap compareChar level

namespace Rule

variable {Action : Type}

def isCategoryByte (byte : UInt8) : Bool :=
  (48 ≤ byte && byte ≤ 57) || (65 ≤ byte && byte ≤ 90) || (97 ≤ byte && byte ≤ 122) || byte == 95 || byte == 42 || byte == 33

def compareOf (level : Bytes) : CompareChar × Bytes :=
  match level with
  | 61 :: rest => (.equal, rest)
  | 33 :: rest => (.except, rest)
  | 42 :: _ => (.every, level)
  | _ => (.above, level)

-- The selector is the first word of the line; action is none when the rest of the line
-- is refused.
def new (levels : LevelList) (selector : Bytes) (action : Option Action) : Option (Rule Action) :=
  let category := selector.takeWhile (· != 46)
  let level := (selector.dropWhile (· != 46)).tail
  if named : category ≠ [] then
    if level = [] ∨ category.all isCategoryByte = false then none
    else
      action.map fun action =>
        { category := category
          compareChar := (compareOf level).1
          level := levels.atoi (compareOf level).2
          levelBitmap := makeBitmap (compareOf level).1 (levels.atoi (compareOf level).2)
          action := action
          named := named
          bounded := levels.atoi_bounded _
          mapped := rfl }
  else none

def passes (rule : Rule Action) (level : Int) : Bool :=
  match rule.compareChar with
  | .every => true
  | .above => decide (rule.level ≤ level)
  | .equal => decide (level = rule.level)
  | .except => decide (level ≠ rule.level)

def output (rule : Rule Action) (level : Int) : List Action := if rule.passes level = true then [rule.action] else []

def isWastebin (rule : Rule Action) : Bool := rule.category == ascii "!"

def matchCategory (rule : Rule Action) (category : Bytes) : Bool :=
  if rule.category = ascii "*" then true
  else if rule.category = category then true
  else if rule.category.getLast? = some 95 then
    let len := rule.category.length
    let len := if category.length = len - 1 then len - 1 else len
    rule.category.take len == category.take len
  else false

theorem mask_bits (level index : Fin 8) :
    Bitmap.bit ((0 : UInt8) ||| UInt8.ofNat (1 <<< (7 - level.val))) index.val = decide (index.val = level.val) ∧
      Bitmap.bit ((255 : UInt8) &&& ~~~UInt8.ofNat (1 <<< (7 - level.val))) index.val = decide (index.val ≠ level.val) ∧
      Bitmap.bit ((0 : UInt8) ||| ~~~UInt8.ofNat (255 <<< (8 - level.val))) index.val = decide (level.val ≤ index.val) := by
  revert level index
  decide

-- The bitmap of a rule that names no level it knows is that of level -1.
theorem unknown_test (compareChar : CompareChar) (level : Nat) (small : level < 256) :
    Bitmap.test (makeBitmap compareChar (-1)) level =
      match compareChar with
      | .equal => false
      | .except | .every | .above => true := by
  have inside : level / 8 < 32 := by omega
  have mask : levelMask (-1) = 0 := rfl
  cases compareChar with
  | equal => simp [makeBitmap, mask, Bitmap.test_change _ _ _ _ inside, Bitmap.test_zeroed, Bitmap.load_zeroed, Bitmap.bit]
  | except =>
      have whole : Bitmap.change (Bitmap.full : CharArray 32) 0 (· &&& ~~~levelMask (-1)) = Bitmap.full := by
        funext index
        simp [Bitmap.change, Bitmap.full, mask]
      exact (congrArg (Bitmap.test · level) whole).trans (Bitmap.test_full level inside)
  | every => exact Bitmap.test_full level inside
  | above =>
      have byte : (0 : UInt8) ||| ~~~UInt8.ofNat (255 <<< (8 - (-1 : Int).tmod 8).toNat) = 255 := rfl
      have index : ((-1 : Int).tdiv 8).toNat = 0 := rfl
      simp only [makeBitmap, index, Bitmap.test_fill _ _ _ _ _ (show 0 + 1 + (32 - 0 - 1) ≤ 32 by omega),
        Bitmap.test_change _ _ _ _ inside, Bitmap.load_zeroed, byte, Bitmap.bit_full]
      by_cases first : level / 8 = 0
      · rw [if_pos first, ite_self]
      · rw [if_pos (by omega)]

theorem known_test (compareChar : CompareChar) (kept level : Nat) (keptSmall : kept < 256) (small : level < 256) :
    Bitmap.test (makeBitmap compareChar kept) level =
      match compareChar with
      | .equal => decide (level = kept)
      | .except => decide (level ≠ kept)
      | .every => true
      | .above => decide (kept ≤ level) := by
  have inside : level / 8 < 32 := by omega
  have index : ((kept : Int).tdiv 8).toNat = kept / 8 := rfl
  have rest : (kept : Int).tmod 8 = ((kept % 8 : Nat) : Int) := rfl
  have seven : (7 - ((kept % 8 : Nat) : Int)).toNat = 7 - kept % 8 := by omega
  have eight : (8 - ((kept % 8 : Nat) : Int)).toNat = 8 - kept % 8 := by omega
  obtain ⟨equalBits, exceptBits, aboveBits⟩ := mask_bits ⟨kept % 8, by omega⟩ ⟨level % 8, by omega⟩
  cases compareChar with
  | equal =>
      simp only [makeBitmap, index, Bitmap.test_change _ _ _ _ inside, levelMask, rest, seven, Bitmap.load_zeroed,
        Bitmap.test_zeroed, equalBits]
      by_cases here : level / 8 = kept / 8
      · rw [if_pos here, decide_eq_decide]
        omega
      · rw [if_neg here, eq_comm, decide_eq_false_iff_not]
        omega
  | except =>
      simp only [makeBitmap, index, Bitmap.test_change _ _ _ _ inside, levelMask, rest, seven,
        Bitmap.load_full _ (show kept / 8 < 32 by omega), Bitmap.test_full level inside, exceptBits]
      by_cases here : level / 8 = kept / 8
      · rw [if_pos here, decide_eq_decide]
        omega
      · rw [if_neg here, eq_comm, decide_eq_true_eq]
        omega
  | every => exact Bitmap.test_full level inside
  | above =>
      simp only [makeBitmap, index, rest, eight, Bitmap.test_fill _ _ _ _ _ (show kept / 8 + 1 + (32 - kept / 8 - 1) ≤ 32 by omega),
        Bitmap.test_change _ _ _ _ inside, Bitmap.load_zeroed, Bitmap.test_zeroed, aboveBits, Bitmap.bit_full]
      by_cases later : kept / 8 + 1 ≤ level / 8 ∧ level / 8 < kept / 8 + 1 + (32 - kept / 8 - 1)
      · rw [if_pos later, eq_comm, decide_eq_true_eq]
        omega
      · rw [if_neg later]
        by_cases here : level / 8 = kept / 8
        · rw [if_pos here, decide_eq_decide]
          omega
        · rw [if_neg here, eq_comm, decide_eq_false_iff_not]
          omega

theorem bitmap_passes (rule : Rule Action) (level : Nat) (small : level < 256) :
    Bitmap.test rule.levelBitmap level = rule.passes level := by
  obtain ⟨low, high⟩ := rule.bounded
  rw [rule.mapped]
  by_cases unknown : rule.level = -1
  · rw [unknown, unknown_test rule.compareChar level small]
    cases kind : rule.compareChar with
    | equal => simp only [passes, kind, unknown, decide_eq_false (show ¬(level : Int) = -1 by omega)]
    | except => simp only [passes, kind, unknown, decide_eq_true (show (level : Int) ≠ -1 by omega)]
    | every => simp only [passes, kind]
    | above => simp only [passes, kind, unknown, decide_eq_true (show -1 ≤ (level : Int) by omega)]
  · obtain ⟨kept, known⟩ := Int.eq_ofNat_of_zero_le (show 0 ≤ rule.level by omega)
    rw [known, known_test rule.compareChar kept level (by omega) small]
    cases kind : rule.compareChar with
    | equal | except | every | above => simp [passes, kind, known]

end Rule

end Zlog
