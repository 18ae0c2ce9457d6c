import Mathlib.Data.List.Infix
import Mathlib.Tactic.Common

set_option autoImplicit false

-- A text that is held in a bounded place. What does not fit is left out, and the end of
-- what is held then gives way to a mark.
namespace Bounded

universe u

variable {Item : Type u}

def marked (mark text : List Item) : List Item :=
  text.take (text.length - mark.length) ++ mark.take (text.length - (text.length - mark.length))

-- No limit is none.
def Fits (limit : Option Nat) (count : Nat) : Prop := ∀ bound, limit = some bound → count ≤ bound

def shown (limit : Option Nat) (mark whole : List Item) : List Item :=
  match limit with
  | none => whole
  | some bound => if whole.length ≤ bound then whole else marked mark (whole.take bound)

def kept (limit : Option Nat) (whole : List Item) : Option (List Item) :=
  match limit with
  | none => some whole
  | some bound => if whole.length ≤ bound then some whole else none

section Marks

variable (mark text : List Item)

@[simp] theorem marked_length : (marked mark text).length = text.length := by
  simp only [marked, List.length_append, List.length_take]
  omega

@[simp] theorem marked_nil : marked [] text = text := by
  simp [marked]

theorem marked_marked : marked mark (marked mark text) = marked mark text := by
  have kept : (text.take (text.length - mark.length)).length = text.length - mark.length := by
    rw [List.length_take]
    omega
  have same : (marked mark text).take (text.length - mark.length) = text.take (text.length - mark.length) := List.take_left' kept
  rw [marked, marked_length, same, ← marked]

end Marks

section Shown

variable (limit : Option Nat) (mark whole more : List Item)

theorem shown_fits (fits : Fits limit whole.length) : shown limit mark whole = whole := by
  cases limit with
  | none => rfl
  | some bound => exact if_pos (fits bound rfl)

theorem kept_fits (fits : Fits limit whole.length) : kept limit whole = some whole := by
  cases limit with
  | none => rfl
  | some bound => exact if_pos (fits bound rfl)

theorem kept_over (tooLong : ¬ Fits limit whole.length) : kept limit whole = none := by
  cases limit with
  | none => exact absurd (by simp [Fits]) tooLong
  | some bound =>
      refine if_neg fun fits => tooLong fun other same => ?_
      cases same
      exact fits

theorem fits_front (fits : Fits limit (whole ++ more).length) : Fits limit whole.length := by
  intro bound bounded
  have total := fits bound bounded
  rw [List.length_append] at total
  omega

theorem shown_over (bound : Nat) (tooLong : bound < whole.length) : shown (some bound) mark whole = marked mark (whole.take bound) :=
  if_neg (by omega)

theorem shown_length_le : (shown limit mark whole).length ≤ whole.length := by
  cases limit with
  | none => exact Nat.le_refl _
  | some bound =>
      by_cases fits : whole.length ≤ bound
      · rw [shown, if_pos fits]
      · rw [shown_over mark whole bound (by omega), marked_length, List.length_take]
        exact Nat.min_le_right ..

theorem shown_length_over (bound : Nat) (tooLong : bound < whole.length) : (shown (some bound) mark whole).length = bound := by
  rw [shown_over mark whole bound tooLong, marked_length, List.length_take]
  omega

theorem shown_stays (bound : Nat) (tooLong : bound < whole.length) :
    shown (some bound) mark (whole ++ more) = shown (some bound) mark whole := by
  have longer : bound < (whole ++ more).length := by
    rw [List.length_append]
    omega
  rw [shown_over mark whole bound tooLong, shown_over mark (whole ++ more) bound longer, List.take_append_of_le_length (by omega)]

end Shown

end Bounded
