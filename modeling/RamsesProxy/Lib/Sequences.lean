import Mathlib.Data.List.Basic
import Mathlib.Data.List.Infix
import Mathlib.Order.Basic
import Mathlib.Tactic.Common

set_option autoImplicit false

universe u v

namespace Sequences

variable {Item : Type u}

theorem erase_split (items : List Item) (index : Nat) (item : Item) (found : items[index]? = some item) :
    ∃ left right, items = left ++ item :: right ∧ items.eraseIdx index = left ++ right := by
  obtain ⟨within, rfl⟩ := List.getElem?_eq_some_iff.mp found
  refine ⟨items.take index, items.drop (index + 1), ?_, List.eraseIdx_eq_take_drop_succ items index⟩
  rw [List.getElem_cons_drop within, List.take_append_drop]

theorem filter_map_snoc {Other : Type v} (view : Item → Option Other) (items : List Item) (item : Item) :
    (items ++ [item]).filterMap view = items.filterMap view ++ (view item).toList := by
  rw [List.filterMap_append]
  cases seen : view item with
  | none => simp [seen]
  | some other => simp [seen]

theorem snoc_cases (items : List Item) (last item : Item) (index : Nat)
    (found : (items ++ [last])[index]? = some item) :
    items[index]? = some item ∨ (index = items.length ∧ item = last) := by
  by_cases inside : index < items.length
  · rw [List.getElem?_append_left inside] at found
    exact .inl found
  · have bound := (List.getElem?_eq_some_iff.mp found).1
    rw [List.length_append, List.length_singleton] at bound
    obtain rfl : index = items.length := by omega
    rw [List.getElem?_concat_length] at found
    exact .inr ⟨rfl, (Option.some.inj found).symm⟩

theorem set_cases (items : List Item) (index other : Nat) (old fresh item : Item) (present : items[index]? = some old)
    (found : (items.set index fresh)[other]? = some item) :
    (other = index ∧ item = fresh) ∨ (other ≠ index ∧ items[other]? = some item) := by
  by_cases same : index = other
  · subst same
    rw [List.getElem?_set_self (List.getElem?_eq_some_iff.mp present).1] at found
    exact .inl ⟨rfl, (Option.some.inj found).symm⟩
  · rw [List.getElem?_set_ne same] at found
    exact .inr ⟨Ne.symm same, found⟩

theorem greatest_last [Preorder Item] (items : List Item) (item : Item) (increasing : items.Pairwise (· < ·)) (member : item ∈ items)
    (greatest : ∀ other ∈ items, other ≤ item) : ∃ front, items = front ++ [item] ∧ item ∉ front := by
  obtain ⟨front, rest, rfl⟩ := List.append_of_mem member
  obtain ⟨_, sorted, below⟩ := List.pairwise_append.mp increasing
  have above := (List.pairwise_cons.mp sorted).1
  cases rest with
  | nil => exact ⟨front, rfl, fun inside => lt_irrefl item (below item inside item (by simp))⟩
  | cons next _ => exact absurd (above next (by simp)) (not_lt_of_ge (greatest next (by simp)))

theorem flat_map_grown {Other : Type v} (front : List Item) (last : Item) (before after : Item → List Other) (fresh : List Other)
    (apart : last ∉ front) (grown : after last = before last ++ fresh) (same : ∀ item, item ≠ last → after item = before item) :
    (front ++ [last]).flatMap after = (front ++ [last]).flatMap before ++ fresh := by
  have kept : front.flatMap after = front.flatMap before := by
    apply List.flatMap_congr
    intro item member
    exact same item (fun equal => apart (equal ▸ member))
  simp only [List.flatMap_append, List.flatMap_singleton, kept, grown, List.append_assoc]

theorem flatten_split (lists : List (List Item)) (index : Nat) (list : List Item) (found : lists[index]? = some list) :
    ∃ before after, lists.flatten = before ++ list ++ after ∧
      ∀ fresh, (lists.set index fresh).flatten = before ++ fresh ++ after := by
  obtain ⟨within, rfl⟩ := List.getElem?_eq_some_iff.mp found
  refine ⟨(lists.take index).flatten, (lists.drop (index + 1)).flatten, ?_, fun fresh => ?_⟩
  · have whole : lists = lists.take index ++ lists[index] :: lists.drop (index + 1) := by
      rw [List.getElem_cons_drop within, List.take_append_drop]
    exact (congrArg List.flatten whole).trans (by simp only [List.flatten_append, List.flatten_cons, List.append_assoc])
  · rw [List.set_eq_take_append_cons_drop, if_pos within]
    simp

section Occurrences

variable [DecidableEq Item]

def firstOccurrences (items : List Item) : List Item :=
  items.foldl (fun seen item => if item ∈ seen then seen else seen ++ [item]) []

theorem first_occurrences_snoc (items : List Item) (item : Item) :
    firstOccurrences (items ++ [item]) =
      if item ∈ firstOccurrences items then firstOccurrences items else firstOccurrences items ++ [item] := by
  rw [firstOccurrences, List.foldl_append]
  rfl

theorem first_occurrences_repeat (items : List Item) (item : Item) (seen : item ∈ firstOccurrences items) :
    firstOccurrences (items ++ [item]) = firstOccurrences items := by
  rw [first_occurrences_snoc, if_pos seen]

theorem first_occurrences_new (items : List Item) (item : Item) (unseen : item ∉ firstOccurrences items) :
    firstOccurrences (items ++ [item]) = firstOccurrences items ++ [item] := by
  rw [first_occurrences_snoc, if_neg unseen]

theorem mem_first_occurrences (items : List Item) (item : Item) (member : item ∈ items) : item ∈ firstOccurrences items := by
  induction items using List.reverseRecOn with
  | nil => simp at member
  | append_singleton front last ih =>
      by_cases seen : last ∈ firstOccurrences front
      · rw [first_occurrences_repeat front last seen]
        cases List.mem_append.mp member with
        | inl earlier => exact ih earlier
        | inr here => exact List.mem_singleton.mp here ▸ seen
      · rw [first_occurrences_new front last seen]
        cases List.mem_append.mp member with
        | inl earlier => exact List.mem_append_left _ (ih earlier)
        | inr here => exact List.mem_append_right _ here

end Occurrences

end Sequences
