import Mathlib.Data.List.Pairwise
import Mathlib.Order.Lattice
import Mathlib.Tactic.Common

set_option autoImplicit false

universe u v

class StrictTotal {Key : Type u} (less : Key → Key → Bool) : Prop where
  irrefl : ∀ a, less a a = false
  trans : ∀ a b c, less a b = true → less b c = true → less a c = true
  total : ∀ a b, less a b = false → less b a = false → a = b

-- A comparator that compares ranks in a linear order, when no two keys have the same one.
theorem strict_total_of_rank {Key : Type u} {Rank : Type v} [LinearOrder Rank] (less : Key → Key → Bool) (rank : Key → Rank)
    (ranked : ∀ a b, less a b = true ↔ rank a < rank b) (injective : ∀ a b, rank a = rank b → a = b) : StrictTotal less where
  irrefl a := by
    rw [Bool.eq_false_iff, ne_eq, ranked]
    exact lt_irrefl (rank a)
  trans a b c ab bc := by
    rw [ranked] at ab bc ⊢
    exact lt_trans ab bc
  total a b notAb notBa := by
    rw [Bool.eq_false_iff, ne_eq, ranked] at notAb notBa
    exact injective a b (le_antisymm (le_of_not_gt notBa) (le_of_not_gt notAb))

-- std::map as the sequence its iterators walk. Keys are only ever compared with the
-- comparator, and two keys are the same when neither is less than the other.
structure OrderedMap {Key : Type u} (less : Key → Key → Bool) (Value : Type v) where
  entries : List (Key × Value)
  sorted : entries.Pairwise fun a b => less a.1 b.1 = true

namespace OrderedMap

section Entries

variable {Key : Type u} {Value : Type v} (less : Key → Key → Bool)

def findIn (key : Key) : List (Key × Value) → Option Value
  | [] => none
  | (first, value) :: rest =>
      if less first key then findIn key rest else if less key first then none else some value

def assignIn (key : Key) (value : Value) : List (Key × Value) → List (Key × Value)
  | [] => [(key, value)]
  | (first, old) :: rest =>
      if less first key then (first, old) :: assignIn key value rest
      else if less key first then (key, value) :: (first, old) :: rest
      else (first, value) :: rest

def eraseIn (key : Key) : List (Key × Value) → List (Key × Value)
  | [] => []
  | (first, value) :: rest =>
      if less first key then (first, value) :: eraseIn key rest
      else if less key first then (first, value) :: rest
      else rest

theorem erase_in_sublist (key : Key) (entries : List (Key × Value)) : (eraseIn less key entries).Sublist entries := by
  induction entries with
  | nil => exact List.Sublist.refl _
  | cons head rest ih =>
      obtain ⟨first, old⟩ := head
      rw [eraseIn]
      split
      · exact ih.cons_cons _
      · split
        · exact List.Sublist.refl _
        · exact List.sublist_cons_self _ _

variable [order : StrictTotal less]

theorem not_equal_of_less (a b : Key) (before : less a b = true) : a ≠ b := by
  rintro rfl
  simp [order.irrefl] at before

theorem not_less_of_less (a b : Key) (before : less a b = true) : less b a = false := by
  by_contra after
  have self := order.trans a b a before (by simpa using after)
  rw [order.irrefl] at self
  cases self

theorem compare_cases (first key : Key) :
    (less first key = true ∧ first ≠ key) ∨
    (less first key = false ∧ less key first = true ∧ first ≠ key) ∨
    (less first key = false ∧ less key first = false ∧ first = key) := by
  cases below : less first key with
  | true => exact .inl ⟨rfl, not_equal_of_less less first key below⟩
  | false =>
      cases above : less key first with
      | true => exact .inr (.inl ⟨rfl, rfl, (not_equal_of_less less key first above).symm⟩)
      | false => exact .inr (.inr ⟨rfl, rfl, order.total first key below above⟩)

theorem equivalent_iff_eq (a b : Key) : less a b = false ∧ less b a = false ↔ a = b := by
  constructor
  · rintro ⟨notBelow, notAbove⟩
    exact order.total a b notBelow notAbove
  · rintro rfl
    exact ⟨order.irrefl a, order.irrefl a⟩

theorem below_first_absent (key first : Key) (value : Value) (rest : List (Key × Value)) (below : less key first = true)
    (sorted : ((first, value) :: rest).Pairwise fun a b => less a.1 b.1 = true) :
    ∀ entry ∈ (first, value) :: rest, less key entry.1 = true := by
  intro entry member
  rcases List.mem_cons.mp member with rfl | later
  · exact below
  · exact order.trans key first entry.1 below ((List.pairwise_cons.mp sorted).1 entry later)

theorem mem_assign_in (key : Key) (value : Value) (entries : List (Key × Value))
    (sorted : entries.Pairwise fun a b => less a.1 b.1 = true) (entry : Key × Value) :
    entry ∈ assignIn less key value entries ↔ entry = (key, value) ∨ (entry ∈ entries ∧ entry.1 ≠ key) := by
  induction entries with
  | nil => simp [assignIn]
  | cons head rest ih =>
      obtain ⟨first, old⟩ := head
      obtain ⟨headBelow, restSorted⟩ := List.pairwise_cons.mp sorted
      rcases compare_cases less first key with ⟨below, apart⟩ | ⟨notBelow, above, apart⟩ | ⟨notBelow, notAbove, rfl⟩
      · simp only [assignIn, if_pos below, List.mem_cons, ih restSorted]
        grind
      · have absent := below_first_absent less key first old rest above sorted
        have keyApart : ∀ other ∈ (first, old) :: rest, other.1 ≠ key := fun other member =>
          (not_equal_of_less less key other.1 (absent other member)).symm
        simp only [assignIn, notBelow, above, Bool.false_eq_true, if_false, if_true]
        rw [List.mem_cons]
        exact or_congr_right ⟨fun member => ⟨member, keyApart entry member⟩, fun both => both.1⟩
      · have apart : ∀ other ∈ rest, other.1 ≠ first := fun other member =>
          (not_equal_of_less less first other.1 (headBelow other member)).symm
        simp only [assignIn, notBelow, Bool.false_eq_true, if_false, List.mem_cons]
        grind

theorem mem_erase_in (key : Key) (entries : List (Key × Value))
    (sorted : entries.Pairwise fun a b => less a.1 b.1 = true) (entry : Key × Value) :
    entry ∈ eraseIn less key entries ↔ entry ∈ entries ∧ entry.1 ≠ key := by
  induction entries with
  | nil => simp [eraseIn]
  | cons head rest ih =>
      obtain ⟨first, old⟩ := head
      obtain ⟨headBelow, restSorted⟩ := List.pairwise_cons.mp sorted
      rcases compare_cases less first key with ⟨below, apart⟩ | ⟨notBelow, above, apart⟩ | ⟨notBelow, notAbove, rfl⟩
      · simp only [eraseIn, if_pos below, List.mem_cons, ih restSorted]
        grind
      · have absent := below_first_absent less key first old rest above sorted
        simp only [eraseIn, notBelow, above, Bool.false_eq_true, if_false, if_true]
        exact ⟨fun member => ⟨member, (not_equal_of_less less key entry.1 (absent entry member)).symm⟩, fun both => both.1⟩
      · have apart : ∀ other ∈ rest, other.1 ≠ first := fun other member =>
          (not_equal_of_less less first other.1 (headBelow other member)).symm
        simp only [eraseIn, notBelow, Bool.false_eq_true, if_false, List.mem_cons]
        grind

theorem find_in_some (key : Key) (value : Value) (entries : List (Key × Value))
    (sorted : entries.Pairwise fun a b => less a.1 b.1 = true) :
    findIn less key entries = some value ↔ (key, value) ∈ entries := by
  induction entries with
  | nil => simp [findIn]
  | cons head rest ih =>
      obtain ⟨first, old⟩ := head
      obtain ⟨headBelow, restSorted⟩ := List.pairwise_cons.mp sorted
      rcases compare_cases less first key with ⟨below, apart⟩ | ⟨notBelow, above, apart⟩ | ⟨notBelow, notAbove, rfl⟩
      · simp only [findIn, if_pos below, ih restSorted, List.mem_cons, Prod.mk.injEq]
        grind
      · have absent := below_first_absent less key first old rest above sorted
        simp only [findIn, notBelow, above, Bool.false_eq_true, if_false, if_true]
        refine ⟨fun impossible => (Option.some_ne_none value impossible.symm).elim, fun member => ?_⟩
        have self := absent (key, value) member
        simp [order.irrefl] at self
      · simp only [findIn, notBelow, Bool.false_eq_true, if_false, List.mem_cons, Prod.mk.injEq, Option.some.injEq, true_and]
        refine ⟨fun same => .inl same.symm, ?_⟩
        rintro (same | member)
        · exact same.symm
        · have self := headBelow (first, value) member
          simp [order.irrefl] at self

theorem assign_in_sorted (key : Key) (value : Value) (entries : List (Key × Value))
    (sorted : entries.Pairwise fun a b => less a.1 b.1 = true) :
    (assignIn less key value entries).Pairwise fun a b => less a.1 b.1 = true := by
  induction entries with
  | nil => simp [assignIn]
  | cons head rest ih =>
      obtain ⟨first, old⟩ := head
      obtain ⟨headBelow, restSorted⟩ := List.pairwise_cons.mp sorted
      rcases compare_cases less first key with ⟨below, apart⟩ | ⟨notBelow, above, apart⟩ | ⟨notBelow, notAbove, rfl⟩
      · rw [assignIn, if_pos below]
        refine List.pairwise_cons.mpr ⟨fun entry member => ?_, ih restSorted⟩
        rcases (mem_assign_in less key value rest restSorted entry).mp member with rfl | ⟨old, _⟩
        · exact below
        · exact headBelow entry old
      · simp only [assignIn, notBelow, above, Bool.false_eq_true, if_false, if_true]
        exact List.pairwise_cons.mpr ⟨below_first_absent less key first old rest above sorted, sorted⟩
      · simp only [assignIn, notBelow, Bool.false_eq_true, if_false]
        exact List.pairwise_cons.mpr ⟨headBelow, restSorted⟩

end Entries

variable {Key : Type u} {Value : Type v} {less : Key → Key → Bool}

def empty : OrderedMap less Value := ⟨[], List.Pairwise.nil⟩

def find (map : OrderedMap less Value) (key : Key) : Option Value := findIn less key map.entries

variable [order : StrictTotal less]

def assign (map : OrderedMap less Value) (key : Key) (value : Value) : OrderedMap less Value :=
  ⟨assignIn less key value map.entries, assign_in_sorted less key value map.entries map.sorted⟩

def erase (map : OrderedMap less Value) (key : Key) : OrderedMap less Value :=
  ⟨eraseIn less key map.entries, map.sorted.sublist (erase_in_sublist less key map.entries)⟩

theorem mem_assign (map : OrderedMap less Value) (key : Key) (value : Value) (entry : Key × Value) :
    entry ∈ (map.assign key value).entries ↔ entry = (key, value) ∨ (entry ∈ map.entries ∧ entry.1 ≠ key) :=
  mem_assign_in less key value map.entries map.sorted entry

theorem mem_erase (map : OrderedMap less Value) (key : Key) (entry : Key × Value) :
    entry ∈ (map.erase key).entries ↔ entry ∈ map.entries ∧ entry.1 ≠ key :=
  mem_erase_in less key map.entries map.sorted entry

theorem find_some (map : OrderedMap less Value) (key : Key) (value : Value) :
    map.find key = some value ↔ (key, value) ∈ map.entries :=
  find_in_some less key value map.entries map.sorted

theorem find_assign (map : OrderedMap less Value) (key other : Key) (value : Value) [DecidableEq Key] :
    (map.assign key value).find other = if other = key then some value else map.find other := by
  apply Option.ext
  intro found
  rw [find_some, mem_assign]
  by_cases same : other = key
  · subst same
    simp [eq_comm]
  · rw [if_neg same, find_some]
    simp [same]

theorem find_erase (map : OrderedMap less Value) (key other : Key) [DecidableEq Key] :
    (map.erase key).find other = if other = key then none else map.find other := by
  apply Option.ext
  intro found
  rw [find_some, mem_erase]
  by_cases same : other = key
  · simp [same]
  · rw [if_neg same, find_some]
    simp [same]

end OrderedMap
