import Mathlib.Data.List.Basic
import Mathlib.Data.List.Nodup

set_option autoImplicit false

-- Records that are reached through a handle. A handle is given once; what is freed
-- leaves a hole.
abbrev Pool (Item : Type) := List (Option Item)

namespace Pool

variable {Item : Type}

def read (pool : Pool Item) (handle : Nat) : Option Item := pool[handle]?.join

def write (pool : Pool Item) (handle : Nat) (item : Item) : Pool Item := pool.set handle (some item)

def free (handles : List Nat) (pool : Pool Item) : Pool Item := handles.foldl (fun pool handle => pool.set handle none) pool

-- The records are changed one after the other, up to the first change that fails. There
-- is no result when a handle has no record, or a change has none.
def visit (change : Nat → Item → Option (Item × Bool)) : List Nat → Pool Item → Option (Pool Item × Bool)
  | [], pool => some (pool, true)
  | handle :: rest, pool =>
      (pool.read handle).bind fun item =>
        (change handle item).bind fun changed =>
          if changed.2 = true then visit change rest (pool.write handle changed.1) else some (pool.write handle changed.1, false)

theorem read_bound (pool : Pool Item) (handle : Nat) (item : Item) (found : pool.read handle = some item) : handle < pool.length := by
  by_contra outside
  simp [read, List.getElem?_eq_none (Nat.le_of_not_lt outside)] at found

theorem read_write (pool : Pool Item) (handle other : Nat) (item old : Item) (found : pool.read handle = some old) :
    (pool.write handle item).read other = if other = handle then some item else pool.read other := by
  have bound := read_bound pool handle old found
  by_cases same : other = handle
  · subst same
    simp [read, write, bound]
  · rw [if_neg same, read, write, List.getElem?_set_ne (Ne.symm same), read]

theorem read_append (pool : Pool Item) (slot : Option Item) (other : Nat) :
    (pool ++ [slot]).read other = if other = pool.length then slot else pool.read other := by
  by_cases same : other = pool.length
  · subst same
    simp [read]
  · rw [if_neg same, read, read]
    by_cases inside : other < pool.length
    · rw [List.getElem?_append_left inside]
    · rw [List.getElem?_eq_none (Nat.le_of_not_lt inside), List.getElem?_eq_none]
      simp only [List.length_append, List.length_singleton]
      omega

theorem read_outside (pool : Pool Item) : pool.read pool.length = none := by
  simp [read]

theorem read_free (handles : List Nat) (pool : Pool Item) (other : Nat) :
    (free handles pool).read other = if other ∈ handles then none else pool.read other := by
  induction handles generalizing pool with
  | nil => simp [free]
  | cons handle rest ih =>
      have step : free (handle :: rest) pool = free rest (pool.set handle none) := rfl
      rw [step, ih]
      by_cases later : other ∈ rest
      · rw [if_pos later, if_pos (List.mem_cons_of_mem _ later)]
      · rw [if_neg later]
        by_cases same : other = handle
        · subst same
          rw [if_pos List.mem_cons_self, read, List.getElem?_set_self']
          cases pool[other]? with
          | none => rfl
          | some old => rfl
        · rw [if_neg (by simp [same, later]), read, List.getElem?_set_ne (Ne.symm same), read]

def readChanged (change : Nat → Item → Option (Item × Bool)) (handles : List Nat) (pool : Pool Item) (other : Nat) : Option Item :=
  if other ∈ handles then (pool.read other).bind fun item => (change other item).map Prod.fst else pool.read other

inductive Visited (change : Nat → Item → Option (Item × Bool)) (handles : List Nat) (pool after : Pool Item) : Bool → Prop where
  | done (succeeded : ∀ handle ∈ handles, ∃ item changed, pool.read handle = some item ∧ change handle item = some (changed, true))
      (changed : ∀ other, after.read other = readChanged change handles pool other) : Visited change handles pool after true
  | stopped (front rest : List Nat) (handle : Nat) (item broken : Item) (split : handles = front ++ handle :: rest)
      (succeeded : ∀ other ∈ front, ∃ item changed, pool.read other = some item ∧ change other item = some (changed, true))
      (found : pool.read handle = some item) (failed : change handle item = some (broken, false))
      (changed : ∀ other, after.read other = readChanged change (front ++ [handle]) pool other) :
      Visited change handles pool after false

section Visit

variable (change : Nat → Item → Option (Item × Bool)) (pool : Pool Item) (handle : Nat) (item fresh : Item) (done : Bool)
  (found : pool.read handle = some item) (changed : change handle item = some (fresh, done))
include found changed

theorem read_changed_write (visited : List Nat) (unseen : handle ∉ visited) (other : Nat) :
    readChanged change visited (pool.write handle fresh) other = readChanged change (handle :: visited) pool other := by
  have written := read_write pool handle other fresh item found
  unfold readChanged
  by_cases same : other = handle
  · subst same
    rw [if_neg unseen, if_pos List.mem_cons_self, written, if_pos rfl, found, Option.bind_some, changed, Option.map_some]
  · rw [if_neg same] at written
    rw [written]
    simp only [List.mem_cons, same, false_or]

end Visit

theorem visited_cons (change : Nat → Item → Option (Item × Bool)) (pool : Pool Item) (handle : Nat) (item fresh : Item)
    (found : pool.read handle = some item) (changed : change handle item = some (fresh, true)) (rest : List Nat)
    (unseen : handle ∉ rest) (after : Pool Item) (finished : Bool)
    (visited : Visited change rest (pool.write handle fresh) after finished) : Visited change (handle :: rest) pool after finished := by
  have same (other : Nat) (member : other ∈ rest) : (pool.write handle fresh).read other = pool.read other := by
    have different : other ≠ handle := fun here => unseen (here ▸ member)
    rw [read_write pool handle other _ item found, if_neg different]
  cases visited with
  | done succeeded changedRest =>
      refine .done ?_ fun other =>
        (changedRest other).trans (read_changed_write change pool handle item fresh true found changed rest unseen other)
      intro other member
      cases List.mem_cons.mp member with
      | inl here => exact ⟨item, fresh, here ▸ found, here ▸ changed⟩
      | inr later =>
          obtain ⟨old, next, present, stepped⟩ := succeeded other later
          exact ⟨old, next, (same other later).symm.trans present, stepped⟩
  | stopped front others failing old broken split succeeded present failed changedRest =>
      have inside : failing ∈ rest := by simp [split]
      have unseenFront : handle ∉ front ++ [failing] := fun member => unseen (by
        rw [split]
        simp only [List.mem_append, List.mem_cons] at member ⊢
        tauto)
      refine .stopped (handle :: front) others failing old broken (by rw [split]; rfl) ?_
        ((same failing inside).symm.trans present) failed ?_
      · intro other member
        cases List.mem_cons.mp member with
        | inl here => exact ⟨item, fresh, here ▸ found, here ▸ changed⟩
        | inr later =>
            obtain ⟨old, next, there, stepped⟩ := succeeded other later
            have listed : other ∈ rest := by simp [split, later]
            exact ⟨old, next, (same other listed).symm.trans there, stepped⟩
      · exact fun other =>
          (changedRest other).trans (read_changed_write change pool handle item fresh true found changed _ unseenFront other)

theorem visit_spec (change : Nat → Item → Option (Item × Bool)) (handles : List Nat) (pool after : Pool Item) (finished : Bool)
    (once : handles.Nodup) (ran : visit change handles pool = some (after, finished)) : Visited change handles pool after finished := by
  induction handles generalizing pool with
  | nil =>
      cases ran
      exact .done (by simp) (by simp [readChanged])
  | cons handle rest ih =>
      obtain ⟨unseen, restOnce⟩ := List.nodup_cons.mp once
      obtain ⟨item, found, ranChange⟩ := Option.bind_eq_some_iff.mp ran
      obtain ⟨⟨fresh, done⟩, changed, continued⟩ := Option.bind_eq_some_iff.mp ranChange
      cases done with
      | true =>
          rw [if_pos rfl] at continued
          exact visited_cons change pool handle item fresh found changed rest unseen after finished (ih _ restOnce continued)
      | false =>
          rw [if_neg Bool.false_ne_true] at continued
          cases continued
          refine .stopped [] rest handle item fresh rfl (by simp) found changed fun other => ?_
          rw [read_write pool handle other fresh item found, readChanged]
          by_cases here : other = handle
          · subst here
            simp [found, changed]
          · simp [here]

theorem read_changed_all (change : Nat → Item → Option (Item × Bool)) (handles : List Nat) (pool : Pool Item)
    (covered : ∀ handle item, pool.read handle = some item → handle ∈ handles) (other : Nat) :
    readChanged change handles pool other = (pool.read other).bind fun item => (change other item).map Prod.fst := by
  unfold readChanged
  by_cases member : other ∈ handles
  · rw [if_pos member]
  · rw [if_neg member]
    cases found : pool.read other with
    | none => rfl
    | some item => exact absurd (covered other item found) member

theorem visit_total (change : Nat → Item → Item) (handles : List Nat) (pool : Pool Item) (once : handles.Nodup)
    (live : ∀ handle ∈ handles, ∃ item, pool.read handle = some item) :
    ∃ after, visit (fun handle item => some (change handle item, true)) handles pool = some (after, true) := by
  induction handles generalizing pool with
  | nil => exact ⟨pool, rfl⟩
  | cons handle rest ih =>
      obtain ⟨unseen, restOnce⟩ := List.nodup_cons.mp once
      obtain ⟨item, found⟩ := live handle List.mem_cons_self
      obtain ⟨after, ran⟩ := ih (pool.write handle (change handle item)) restOnce fun other member => by
        have different : other ≠ handle := fun same => unseen (same ▸ member)
        rw [read_write pool handle other _ item found, if_neg different]
        exact live other (List.mem_cons_of_mem _ member)
      exact ⟨after, by rw [visit, found]; exact ran⟩

theorem visit_every (change : Nat → Item → Item) (handles : List Nat) (pool : Pool Item) (once : handles.Nodup)
    (listed : ∀ handle, handle ∈ handles ↔ ∃ item, pool.read handle = some item) :
    ∃ after, visit (fun handle item => some (change handle item, true)) handles pool = some (after, true) ∧
      ∀ other, after.read other = (pool.read other).map (change other) := by
  obtain ⟨after, ran⟩ := visit_total change handles pool once fun handle member => (listed handle).mp member
  refine ⟨after, ran, fun other => ?_⟩
  cases visit_spec _ handles pool after true once ran with
  | done _ changed =>
      rw [changed, read_changed_all _ handles pool (fun handle item found => (listed handle).mpr ⟨item, found⟩)]
      cases pool.read other with
      | none => rfl
      | some item => rfl

end Pool
