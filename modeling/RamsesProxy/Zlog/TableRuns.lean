import RamsesProxy.Zlog.HashTable

set_option autoImplicit false

namespace Zlog

inductive TableEvent (Key Value : Type) where
  | put (tabAllocated entryAllocated : Bool) (key : Key) (value : Value)
  | remove (key : Key)
  | clean

-- What a table is for: a value for some keys, any two equal keys being one.
inductive Change (Key Value : Type) where
  | set (key : Key) (value : Value)
  | unset (key : Key)
  | clear

def Change.apply {Key Value : Type} (keying : Keying Key) (map : Key → Option Value) : Change Key Value → Key → Option Value
  | .set key value => fun other => if keying.equal other key = true then some value else map other
  | .unset key => fun other => if keying.equal other key = true then none else map other
  | .clear => fun _ => none

def replay {Key Value : Type} (keying : Keying Key) (changes : List (Change Key Value)) : Key → Option Value :=
  changes.foldl (Change.apply keying) fun _ => none

namespace HashTable

variable {Key Value : Type} (keying : Keying Key)

def step (table : HashTable Key Value) : TableEvent Key Value → Option (HashTable Key Value)
  | .put tabAllocated entryAllocated key value => some (table.put keying tabAllocated entryAllocated key value).1
  | .remove key => some (table.remove keying key).1
  | .clean => some table.clean.1

-- A put that returns -1 changes nothing a reader can see.
def changes (table : HashTable Key Value) (event : TableEvent Key Value) (_next : HashTable Key Value) : List (Change Key Value) :=
  match event with
  | .put tabAllocated entryAllocated key value =>
      if (table.put keying tabAllocated entryAllocated key value).2.1 = true then [.set key value] else []
  | .remove key => [.unset key]
  | .clean => [.clear]

def accepts (table : HashTable Key Value) (event : TableEvent Key Value) (_next : HashTable Key Value) : List (Key × Value) :=
  match event with
  | .put tabAllocated entryAllocated key value =>
      if (table.put keying tabAllocated entryAllocated key value).2.1 = true then [(key, value)] else []
  | .remove _ | .clean => []

def pair (entry : HashEntry Key Value) : Key × Value := (entry.key, entry.value)

def disposes (table : HashTable Key Value) (event : TableEvent Key Value) (_next : HashTable Key Value) : List (Key × Value) :=
  match event with
  | .put tabAllocated entryAllocated key value => (table.put keying tabAllocated entryAllocated key value).2.2.map pair
  | .remove key => (table.remove keying key).2.map pair
  | .clean => table.clean.2.map pair

def del (table : HashTable Key Value) : List (Key × Value) := table.entries.map pair

section Lookup

variable (table : HashTable Key Value) (sound : Sound keying table)
include sound

theorem get_some (key : Key) (value : Value) :
    table.get keying key = some value ↔ ∃ entry ∈ table.entries, keying.equal key entry.key = true ∧ entry.value = value := by
  rw [get, Option.map_eq_some_iff]
  constructor
  · intro found
    obtain ⟨entry, same, value⟩ := found
    obtain ⟨member, equal⟩ := (get_entry_some keying table sound key entry).mp same
    exact ⟨entry, member, equal, value⟩
  · intro found
    obtain ⟨entry, member, equal, value⟩ := found
    exact ⟨entry, (get_entry_some keying table sound key entry).mpr ⟨member, equal⟩, value⟩

theorem get_perm (other : HashTable Key Value) (otherSound : Sound keying other) (perm : other.entries.Perm table.entries) (key : Key) :
    other.get keying key = table.get keying key := by
  apply Option.ext
  intro value
  rw [get_some keying other otherSound, get_some keying table sound]
  constructor
  · intro found
    obtain ⟨entry, member, rest⟩ := found
    exact ⟨entry, perm.mem_iff.mp member, rest⟩
  · intro found
    obtain ⟨entry, member, rest⟩ := found
    exact ⟨entry, perm.mem_iff.mpr member, rest⟩

theorem get_find (key : Key) :
    table.get keying key = (table.entries.find? fun entry => keying.equal key entry.key).map HashEntry.value := by
  apply Option.ext
  intro value
  rw [get_some keying table sound, Option.map_eq_some_iff]
  constructor
  · intro found
    obtain ⟨entry, member, equal, rfl⟩ := found
    cases first : table.entries.find? fun other => keying.equal key other.key with
    | none => exact absurd equal (List.find?_eq_none.mp first entry member)
    | some hit =>
        have hitEqual : keying.equal key hit.key = true := by simpa using List.find?_some first
        have same := equal_unique keying table sound hit entry (List.mem_of_find?_eq_some first) member
          (keying.equivalence.trans (keying.equivalence.symm hitEqual) equal)
        exact ⟨hit, rfl, by rw [same]⟩
  · intro found
    obtain ⟨entry, first, same⟩ := found
    exact ⟨entry, List.mem_of_find?_eq_some first, by simpa using List.find?_some first, same⟩

theorem get_added (after : HashTable Key Value) (afterSound : Sound keying after) (key : Key) (value : Value)
    (absent : ∀ entry ∈ table.entries, keying.equal key entry.key = false)
    (perm : after.entries.Perm (⟨keying.hash key, key, value⟩ :: table.entries)) (other : Key) :
    after.get keying other = if keying.equal other key = true then some value else table.get keying other := by
  apply Option.ext
  intro found
  rw [get_some keying after afterSound]
  by_cases equal : keying.equal other key = true
  · rw [if_pos equal, Option.some.injEq]
    constructor
    · intro given
      obtain ⟨entry, member, otherEqual, rfl⟩ := given
      cases List.mem_cons.mp (perm.mem_iff.mp member) with
      | inl fresh => rw [fresh]
      | inr old =>
          have same := keying.equivalence.trans (keying.equivalence.symm equal) otherEqual
          exact absurd (same.symm.trans (absent entry old)) (by simp)
    · intro same
      exact ⟨_, perm.mem_iff.mpr List.mem_cons_self, equal, same⟩
  · rw [if_neg equal, get_some keying table sound]
    constructor
    · intro given
      obtain ⟨entry, member, otherEqual, same⟩ := given
      cases List.mem_cons.mp (perm.mem_iff.mp member) with
      | inl fresh =>
          rw [fresh] at otherEqual
          exact absurd otherEqual equal
      | inr old => exact ⟨entry, old, otherEqual, same⟩
    · intro given
      obtain ⟨entry, member, rest⟩ := given
      exact ⟨entry, perm.mem_iff.mpr (List.mem_cons_of_mem _ member), rest⟩

theorem get_other (after : HashTable Key Value) (afterSound : Sound keying after) (left middle rest : List (HashEntry Key Value))
    (entry : HashEntry Key Value) (whole : table.entries = left ++ entry :: rest) (changed : after.entries = left ++ middle ++ rest)
    (other : Key) (unequal : keying.equal other entry.key = false)
    (untouched : ∀ fresh ∈ middle, keying.equal other fresh.key = false) :
    after.get keying other = table.get keying other := by
  have none : (middle.find? fun fresh => keying.equal other fresh.key) = none := by
    apply List.find?_eq_none.mpr
    intro fresh member
    simp [untouched fresh member]
  rw [get_find keying after afterSound, get_find keying table sound, whole, changed]
  simp [List.find?_append, none, unequal]

theorem get_replaced (after : HashTable Key Value) (afterSound : Sound keying after) (left rest : List (HashEntry Key Value))
    (entry : HashEntry Key Value) (key : Key) (value : Value) (whole : table.entries = left ++ entry :: rest)
    (equal : keying.equal key entry.key = true) (changed : after.entries = left ++ { entry with key := key, value := value } :: rest)
    (other : Key) : after.get keying other = if keying.equal other key = true then some value else table.get keying other := by
  by_cases same : keying.equal other key = true
  · rw [if_pos same, get_some keying after afterSound]
    exact ⟨{ entry with key := key, value := value }, by simp [changed], same, rfl⟩
  · rw [if_neg same]
    apply get_other keying table sound after afterSound left [{ entry with key := key, value := value }] rest entry whole
      (by simpa using changed)
    · by_contra touched
      exact same (keying.equivalence.trans ((Bool.not_eq_false _).mp touched) (keying.equivalence.symm equal))
    · simpa using same

theorem others_apart (left rest : List (HashEntry Key Value)) (entry : HashEntry Key Value)
    (whole : table.entries = left ++ entry :: rest) (other : HashEntry Key Value) (member : other ∈ left ++ rest) :
    keying.equal entry.key other.key = false := by
  have distinct := sound.distinct
  rw [whole] at distinct
  have first := distinct.perm List.perm_middle ((apart_symm keying).symm _ _)
  exact (List.pairwise_cons.mp first).1 other member

theorem get_removed (after : HashTable Key Value) (afterSound : Sound keying after) (left rest : List (HashEntry Key Value))
    (entry : HashEntry Key Value) (key : Key) (whole : table.entries = left ++ entry :: rest)
    (equal : keying.equal key entry.key = true) (changed : after.entries = left ++ rest) (other : Key) :
    after.get keying other = if keying.equal other key = true then none else table.get keying other := by
  by_cases same : keying.equal other key = true
  · rw [if_pos same]
    by_contra present
    obtain ⟨value, found⟩ := Option.ne_none_iff_exists'.mp present
    obtain ⟨kept, member, keptEqual, _⟩ := (get_some keying after afterSound other value).mp found
    have apart := others_apart keying table sound left rest entry whole kept (changed ▸ member)
    have entryEqual := keying.equivalence.trans (keying.equivalence.symm equal) (keying.equivalence.symm same)
    exact absurd (apart.symm.trans (keying.equivalence.trans entryEqual keptEqual)) (by simp)
  · rw [if_neg same]
    apply get_other keying table sound after afterSound left [] rest entry whole (by simpa using changed)
    · by_contra touched
      exact same (keying.equivalence.trans ((Bool.not_eq_false _).mp touched) (keying.equivalence.symm equal))
    · simp

end Lookup

section Runs

variable (table : HashTable Key Value)

theorem sound_step (next : HashTable Key Value) (event : TableEvent Key Value) (sound : Sound keying table)
    (stepped : table.step keying event = some next) : Sound keying next := by
  cases event with
  | put tabAllocated entryAllocated key value =>
      cases stepped
      exact (put_spec keying table sound key tabAllocated entryAllocated value).1
  | remove key =>
      cases stepped
      unfold remove
      cases found : table.getEntry keying key with
      | none => exact sound
      | some entry => exact sound_removed keying table sound key entry found
  | clean =>
      cases stepped
      exact sound_clean keying table sound

theorem get_step (next : HashTable Key Value) (event : TableEvent Key Value) (sound : Sound keying table)
    (stepped : table.step keying event = some next) (key : Key) :
    next.get keying key = (changes keying table event next).foldl (Change.apply keying) (fun other => table.get keying other) key := by
  have nextSound := sound_step keying table next event sound stepped
  cases event with
  | put tabAllocated entryAllocated fresh value =>
      cases stepped
      have spec := (put_spec keying table sound fresh tabAllocated entryAllocated value).2
      simp only [changes]
      generalize table.put keying tabAllocated entryAllocated fresh value = result at spec nextSound ⊢
      cases spec with
      | replaced after left rest entry whole equal changed =>
          exact get_replaced keying table sound after nextSound left rest entry fresh value whole equal changed key
      | added after absent perm => exact get_added keying table sound after nextSound fresh value absent perm key
      | refused after perm => exact get_perm keying table sound after nextSound perm key
  | remove gone =>
      cases stepped
      have absentNow : table.getEntry keying gone = none → ∀ other, keying.equal other gone = true → table.get keying other = none := by
        intro absent other equal
        by_contra present
        obtain ⟨value, found⟩ := Option.ne_none_iff_exists'.mp present
        obtain ⟨entry, member, otherEqual, _⟩ := (get_some keying table sound other value).mp found
        have unequal := (get_entry_none keying table sound gone).mp absent entry member
        exact absurd (unequal.symm.trans (keying.equivalence.trans (keying.equivalence.symm equal) otherEqual)) (by simp)
      simp only [changes, List.foldl_cons, List.foldl_nil, Change.apply]
      unfold remove at nextSound ⊢
      cases found : table.getEntry keying gone with
      | none =>
          by_cases equal : keying.equal key gone = true
          · rw [if_pos equal]
            exact absentNow found key equal
          · rw [if_neg equal]
      | some entry =>
          rw [found] at nextSound
          obtain ⟨left, rest, whole, changed⟩ := remove_spec keying table sound gone entry found
          have equal := ((get_entry_some keying table sound gone entry).mp found).2
          exact get_removed keying table sound _ nextSound left rest entry gone whole equal changed key
  | clean =>
      cases stepped
      simp only [changes, List.foldl_cons, List.foldl_nil, Change.apply]
      rw [get_find keying table.clean.1 nextSound]
      simp [clean, entries]

theorem disposed_step (next : HashTable Key Value) (event : TableEvent Key Value) (sound : Sound keying table)
    (stepped : table.step keying event = some next) :
    (accepts keying table event next ++ table.del).Perm (disposes keying table event next ++ next.del) := by
  cases event with
  | put tabAllocated entryAllocated key value =>
      cases stepped
      have spec := (put_spec keying table sound key tabAllocated entryAllocated value).2
      simp only [accepts, disposes]
      generalize table.put keying tabAllocated entryAllocated key value = result at spec ⊢
      cases spec with
      | replaced after left rest entry whole equal changed =>
          rw [del, del, whole, changed]
          simp only [if_true, List.map_append, List.map_cons, List.map_nil, List.cons_append, List.nil_append]
          have taken : ((key, value) :: (left.map pair ++ pair entry :: rest.map pair)).Perm
              ((key, value) :: pair entry :: (left.map pair ++ rest.map pair)) := List.perm_middle.cons _
          have held : (pair entry :: (left.map pair ++ (key, value) :: rest.map pair)).Perm
              (pair entry :: (key, value) :: (left.map pair ++ rest.map pair)) := List.perm_middle.cons _
          exact taken.trans ((List.Perm.swap _ _ _).trans held.symm)
      | added after absent perm => exact (perm.map pair).symm
      | refused after perm => exact (perm.map pair).symm
  | remove key =>
      cases stepped
      simp only [accepts, disposes, List.nil_append]
      unfold remove
      cases found : table.getEntry keying key with
      | none => exact List.Perm.refl _
      | some entry =>
          obtain ⟨left, rest, whole, changed⟩ := remove_spec keying table sound key entry found
          simp only [del, entries, changed] at whole ⊢
          rw [whole]
          simp only [List.map_append, List.map_cons, List.map_nil, List.cons_append, List.nil_append]
          exact List.perm_middle
  | clean =>
      cases stepped
      simp [accepts, disposes, clean, del, entries]

theorem step_total (event : TableEvent Key Value) : ∃ next, table.step keying event = some next := by
  cases event with
  | put _ _ _ _ | remove _ | clean => exact ⟨_, rfl⟩

theorem sound_run (size : Nat) (positive : 0 < size) (events : List (TableEvent Key Value)) (final : HashTable Key Value)
    (ran : Machine.run (step keying) (new size) events = some final) : Sound keying final :=
  Machine.run_invariant (Sound keying) (fun table event next sound stepped => sound_step keying table next event sound stepped)
    (new size) final events (sound_new keying size positive) ran

theorem foreach_get (sound : Sound keying table) (rounds : Nat) (enough : table.nelem ≤ rounds) :
    (table.foreach rounds table.begin).length = table.nelem ∧
      (table.foreach rounds table.begin).Pairwise (Apart keying) ∧
      ∀ key value, table.get keying key = some value ↔
        ∃ entry ∈ table.foreach rounds table.begin, keying.equal key entry.key = true ∧ entry.value = value := by
  rw [foreach_entries table sound.placed rounds (sound.counted ▸ enough)]
  exact ⟨sound.counted.symm, sound.distinct, get_some keying table sound⟩

-- After any calls, failed ones among them, the table is the map that the calls that
-- succeeded describe, and the foreach loop ends and shows every key once.
theorem table_refines_map (size : Nat) (positive : 0 < size) (events : List (TableEvent Key Value)) :
    ∃ table, Machine.run (step keying) (new size) events = some table ∧
      (∀ key, table.get keying key = replay keying (Machine.outputs (step keying) (changes keying) (new size) events) key) ∧
      ∀ rounds, table.nelem ≤ rounds →
        (table.foreach rounds table.begin).length = table.nelem ∧
          (table.foreach rounds table.begin).Pairwise (Apart keying) ∧
          ∀ key value, table.get keying key = some value ↔
            ∃ entry ∈ table.foreach rounds table.begin, keying.equal key entry.key = true ∧ entry.value = value := by
  obtain ⟨table, ran⟩ := Machine.run_total (step_total keying) (new size) events
  have sound := sound_run keying size positive events table ran
  refine ⟨table, ran, ?_, foreach_get keying table sound⟩
  apply Machine.run_history (fun events table =>
    ∀ key, table.get keying key = replay keying (Machine.outputs (step keying) (changes keying) (new size) events) key)
    (new size) _ _ events table ran
  · intro key
    rw [get_find keying _ (sound_new keying size positive)]
    simp [entries, new, Machine.outputs, replay]
  · intro before middle event next ranBefore same stepped key
    have middleSound := sound_run keying size positive before middle ranBefore
    rw [get_step keying middle next event middleSound stepped key, Machine.outputs_snoc _ _ _ _ _ _ ranBefore stepped,
      replay, List.foldl_append, funext same]
    rfl

def someCalls : List (TableEvent Bytes Nat) :=
  [.put true true [97] 1, .put true true [98] 2, .put true true [97, 0, 99] 3, .remove [99], .put false true [100] 4,
    .put true true [100] 5, .remove [98]]

theorem table_refines_map_grown :
    0 < 1 ∧ ∃ table, Machine.run (step strKeying) (new 1) someCalls = some table ∧ table.nelem = 2 ∧
      table.get strKeying [97] = some 3 ∧ table.get strKeying [98] = none ∧
      table.get strKeying [100] =
        replay strKeying (Machine.outputs (step strKeying) (changes strKeying) (new 1) someCalls) [100] := by
  obtain ⟨table, ran, same, _⟩ := table_refines_map strKeying 1 (by decide) someCalls
  cases ran
  exact ⟨by decide, _, rfl, by decide, by decide, by decide, same [100]⟩

-- Every key and value that a put took is given to key_del and value_del once: when its
-- entry goes, or when the table does.
theorem table_disposes_once (size : Nat) (positive : 0 < size) (events : List (TableEvent Key Value)) (final : HashTable Key Value)
    (ran : Machine.run (step keying) (new size) events = some final) :
    (Machine.outputs (step keying) (accepts keying) (new size) events).Perm
      (Machine.outputs (step keying) (disposes keying) (new size) events ++ final.del) := by
  have balanced := Machine.outputs_balance (accepts keying) (disposes keying) del (Sound keying)
    (fun table event next sound stepped => sound_step keying table next event sound stepped)
    (fun table event next sound stepped => disposed_step keying table next event sound stepped)
    (new size) final events (sound_new keying size positive) ran
  have empty : del (new size : HashTable Key Value) = [] := by simp [del, entries, new]
  rwa [empty, List.append_nil] at balanced

theorem table_disposes_once_grown :
    0 < 1 ∧ ∃ table, Machine.run (step strKeying) (new 1) someCalls = some table ∧
      Machine.outputs (step strKeying) (disposes strKeying) (new 1) someCalls = [([97], 1), ([98], 2)] ∧
      (Machine.outputs (step strKeying) (accepts strKeying) (new 1) someCalls).Perm
        (Machine.outputs (step strKeying) (disposes strKeying) (new 1) someCalls ++ table.del) := by
  obtain ⟨table, ran⟩ := Machine.run_total (step_total strKeying) (new 1) someCalls
  have once := table_disposes_once strKeying 1 (by decide) someCalls table ran
  exact ⟨by decide, table, ran, by decide, once⟩

end Runs

end HashTable

end Zlog
