import Mathlib.Data.List.Pairwise
import Mathlib.Data.List.Perm.Basic
import RamsesProxy.Lib.CText
import RamsesProxy.Lib.Machine
import RamsesProxy.Lib.Sequences

set_option autoImplicit false

namespace Zlog

-- The two functions a table is made with. Keys that are equal must have one hash.
structure Keying (Key : Type) where
  hash : Key → UInt32
  equal : Key → Key → Bool
  equivalence : Equivalence fun left right => equal left right = true
  hashed : ∀ left right, equal left right = true → hash left = hash right

-- A char is signed where the program runs.
def strHash (str : Bytes) : UInt32 :=
  (CText.cstr str).foldl (fun h byte => (h <<< 5) + h + byte.toInt8.toInt32.toUInt32) 5381

def strEqual (key1 key2 : Bytes) : Bool := CText.cstr key1 == CText.cstr key2

def strKeying : Keying Bytes where
  hash := strHash
  equal := strEqual
  equivalence := {
    refl := by simp [strEqual]
    symm := by
      intro left right same
      simp only [strEqual, beq_iff_eq] at same ⊢
      exact same.symm
    trans := by
      intro left middle right first second
      simp only [strEqual, beq_iff_eq] at first second ⊢
      exact first.trans second }
  hashed := by
    intro left right same
    simp only [strEqual, beq_iff_eq] at same
    simp only [strHash, same]

structure HashEntry (Key Value : Type) where
  hashKey : UInt32
  key : Key
  value : Value

-- tab holds the chain of every slot, the entry the slot points to first.
structure HashTable (Key Value : Type) where
  nelem : Nat
  tab : List (List (HashEntry Key Value))

namespace HashTable

variable {Key Value : Type}

def new (size : Nat) : HashTable Key Value := ⟨0, List.replicate size []⟩

def slot (hashKey : UInt32) (size : Nat) : Nat := hashKey.toNat % size

def chain (index : Nat) (table : HashTable Key Value) : List (HashEntry Key Value) := table.tab[index]?.getD []

def link (entry : HashEntry Key Value) (tab : List (List (HashEntry Key Value))) : List (List (HashEntry Key Value)) :=
  tab.modify (slot entry.hashKey tab.length) (entry :: ·)

def rehash (table : HashTable Key Value) : HashTable Key Value :=
  { table with
    tab := table.tab.foldl (fun tab chain => chain.foldl (fun tab entry => link entry tab) tab)
      (List.replicate (2 * table.tab.length) []) }

section Operations

variable (keying : Keying Key)

def getEntry (key : Key) (table : HashTable Key Value) : Option (HashEntry Key Value) :=
  (table.chain (slot (keying.hash key) table.tab.length)).find? fun entry => keying.equal key entry.key

def get (key : Key) (table : HashTable Key Value) : Option Value := (table.getEntry keying key).map HashEntry.value

def replaceFirst (matching : HashEntry Key Value → Bool) (key : Key) (value : Value) :
    List (HashEntry Key Value) → List (HashEntry Key Value)
  | [] => []
  | entry :: rest =>
      if matching entry = true then { entry with key := key, value := value } :: rest
      else entry :: replaceFirst matching key value rest

-- Whether the two callocs succeed is given. The result says whether the pair was taken
-- and which entries key_del and value_del were called for. The comparison with 1.3 is one
-- of doubles in the source, and exact for every size a table can have.
def put (tabAllocated entryAllocated : Bool) (key : Key) (value : Value) (table : HashTable Key Value) :
    HashTable Key Value × Bool × List (HashEntry Key Value) :=
  match table.getEntry keying key with
  | some entry =>
      ({ table with
        tab := table.tab.modify (slot (keying.hash key) table.tab.length)
          (replaceFirst (fun entry => keying.equal key entry.key) key value) }, true, [entry])
  | none =>
      let full : Bool := decide (13 * table.tab.length < 10 * table.nelem)
      if full = true ∧ tabAllocated = false then (table, false, [])
      else
        let roomy := if full = true then table.rehash else table
        if entryAllocated = false then (roomy, false, [])
        else ({ nelem := roomy.nelem + 1, tab := link ⟨keying.hash key, key, value⟩ roomy.tab }, true, [])

def remove (key : Key) (table : HashTable Key Value) : HashTable Key Value × List (HashEntry Key Value) :=
  match table.getEntry keying key with
  | none => (table, [])
  | some entry =>
      ({ nelem := table.nelem - 1
         tab := table.tab.modify (slot (keying.hash key) table.tab.length)
          (List.eraseP fun entry => keying.equal key entry.key) }, [entry])

end Operations

def clean (table : HashTable Key Value) : HashTable Key Value × List (HashEntry Key Value) :=
  (⟨0, table.tab.map fun _ => []⟩, table.tab.flatten)

-- A pointer to an entry, as the entry with what its next pointers lead to.
abbrev Cursor (Key Value : Type) := HashEntry Key Value × List (HashEntry Key Value)

def firstOf : List (List (HashEntry Key Value)) → Option (Cursor Key Value)
  | [] => none
  | [] :: rest => firstOf rest
  | (entry :: chain) :: _ => some (entry, chain)

def begin (table : HashTable Key Value) : Option (Cursor Key Value) := firstOf table.tab

def next (cursor : Cursor Key Value) (table : HashTable Key Value) : Option (Cursor Key Value) :=
  match cursor.2 with
  | entry :: chain => some (entry, chain)
  | [] => firstOf (table.tab.drop (slot cursor.1.hashKey table.tab.length + 1))

-- zc_hashtable_foreach, with a bound on its rounds.
def foreach (table : HashTable Key Value) : Nat → Option (Cursor Key Value) → List (HashEntry Key Value)
  | 0, _ => []
  | _, none => []
  | rounds + 1, some cursor => cursor.1 :: foreach table rounds (table.next cursor)

def entries (table : HashTable Key Value) : List (HashEntry Key Value) := table.tab.flatten

section Placed

def Placed (tab : List (List (HashEntry Key Value))) : Prop :=
  ∀ (index : Nat) chain, tab[index]? = some chain → ∀ entry ∈ chain, slot entry.hashKey tab.length = index

theorem slot_lt (hashKey : UInt32) (size : Nat) (positive : 0 < size) : slot hashKey size < size := Nat.mod_lt _ positive

theorem placed_empty (size : Nat) : Placed (List.replicate size ([] : List (HashEntry Key Value))) := by
  intro index chain found entry member
  obtain rfl := List.eq_of_mem_replicate (List.mem_of_getElem? found)
  simp at member

theorem placed_modify (tab : List (List (HashEntry Key Value))) (index : Nat)
    (change : List (HashEntry Key Value) → List (HashEntry Key Value)) (placed : Placed tab)
    (fits : ∀ chain, tab[index]? = some chain → ∀ entry ∈ change chain, slot entry.hashKey tab.length = index) :
    Placed (tab.modify index change) := by
  intro other chain found entry member
  rw [List.length_modify]
  rw [List.getElem?_modify] at found
  by_cases same : index = other
  · subst same
    simp only [if_true] at found
    obtain ⟨old, oldFound, rfl⟩ := Option.map_eq_some_iff.mp found
    exact fits old oldFound entry member
  · simp only [if_neg same, id_map'] at found
    exact placed other chain found entry member

theorem placed_link (entry : HashEntry Key Value) (tab : List (List (HashEntry Key Value))) (placed : Placed tab) :
    Placed (link entry tab) := by
  apply placed_modify tab _ _ placed
  intro chain found other member
  cases List.mem_cons.mp member with
  | inl here => rw [here]
  | inr old => exact placed _ chain found other old

theorem link_perm (entry : HashEntry Key Value) (tab : List (List (HashEntry Key Value))) (positive : 0 < tab.length) :
    (link entry tab).flatten.Perm (entry :: tab.flatten) := by
  have bound := slot_lt entry.hashKey tab.length positive
  obtain ⟨before, after, whole, changed⟩ :=
    Sequences.flatten_split tab _ _ (List.getElem?_eq_getElem bound)
  rw [link, List.modify_eq_set_get _ bound, changed, whole]
  simp

theorem fold_link (fresh : List (HashEntry Key Value)) (tab : List (List (HashEntry Key Value))) (positive : 0 < tab.length)
    (placed : Placed tab) :
    (fresh.foldl (fun tab entry => link entry tab) tab).length = tab.length ∧
      Placed (fresh.foldl (fun tab entry => link entry tab) tab) ∧
      (fresh.foldl (fun tab entry => link entry tab) tab).flatten.Perm (fresh ++ tab.flatten) := by
  induction fresh generalizing tab with
  | nil => exact ⟨rfl, placed, List.Perm.refl _⟩
  | cons entry rest ih =>
      have length : (link entry tab).length = tab.length := by simp [link]
      obtain ⟨sameLength, stillPlaced, perm⟩ := ih (link entry tab) (by omega) (placed_link entry tab placed)
      refine ⟨sameLength.trans length, stillPlaced, perm.trans ?_⟩
      exact ((link_perm entry tab positive).append_left rest).trans List.perm_middle

theorem rehash_spec (table : HashTable Key Value) (positive : 0 < table.tab.length) :
    table.rehash.tab.length = 2 * table.tab.length ∧ Placed table.rehash.tab ∧ table.rehash.entries.Perm table.entries := by
  have empty : (List.replicate (2 * table.tab.length) ([] : List (HashEntry Key Value))).flatten = [] := by simp
  obtain ⟨length, placed, perm⟩ := fold_link table.tab.flatten (List.replicate (2 * table.tab.length) []) (by simpa using positive)
    (placed_empty _)
  rw [empty, List.append_nil] at perm
  simp only [rehash, entries, ← List.foldl_flatten]
  exact ⟨by simpa using length, placed, perm⟩

end Placed

section Sound

variable (keying : Keying Key)

def Apart (left right : HashEntry Key Value) : Prop := keying.equal left.key right.key = false

instance apart_symm : Std.Symm (Apart keying : HashEntry Key Value → HashEntry Key Value → Prop) where
  symm left right apart := by
    by_contra equal
    have symm := keying.equivalence.symm ((Bool.not_eq_false _).mp equal)
    exact absurd (apart.symm.trans symm) (by simp)

structure Sound (table : HashTable Key Value) : Prop where
  positive : 0 < table.tab.length
  placed : Placed table.tab
  hashed : ∀ entry ∈ table.entries, entry.hashKey = keying.hash entry.key
  counted : table.nelem = table.entries.length
  distinct : table.entries.Pairwise (Apart keying)

theorem sound_new (size : Nat) (positive : 0 < size) : Sound keying (new size : HashTable Key Value) where
  positive := by simpa [new] using positive
  placed := placed_empty size
  hashed := by simp [entries, new]
  counted := by simp [entries, new]
  distinct := by simp [entries, new]

variable (table : HashTable Key Value) (sound : Sound keying table) (key : Key)
include sound

theorem chain_found : table.tab[slot (keying.hash key) table.tab.length]? =
    some (table.chain (slot (keying.hash key) table.tab.length)) := by
  have bound := slot_lt (keying.hash key) table.tab.length sound.positive
  simp [chain, bound]

theorem chain_mem (entry : HashEntry Key Value) (member : entry ∈ table.chain (slot (keying.hash key) table.tab.length)) :
    entry ∈ table.entries :=
  List.mem_flatten.mpr ⟨_, List.mem_of_getElem? (chain_found keying table sound key), member⟩

theorem equal_mem_chain (entry : HashEntry Key Value) (member : entry ∈ table.entries) (equal : keying.equal key entry.key = true) :
    entry ∈ table.chain (slot (keying.hash key) table.tab.length) := by
  obtain ⟨chain, chainMember, inside⟩ := List.mem_flatten.mp member
  obtain ⟨index, found⟩ := List.mem_iff_getElem?.mp chainMember
  have here := sound.placed index chain found entry inside
  rw [sound.hashed entry member, ← keying.hashed key entry.key equal] at here
  subst here
  rw [chain_found keying table sound key] at found
  exact Option.some.inj found ▸ inside

theorem equal_unique (left right : HashEntry Key Value) (leftMember : left ∈ table.entries) (rightMember : right ∈ table.entries)
    (equal : keying.equal left.key right.key = true) : left = right := by
  by_contra different
  have apart := sound.distinct.forall leftMember rightMember different
  simp [Apart, equal] at apart

theorem get_entry_some (entry : HashEntry Key Value) :
    table.getEntry keying key = some entry ↔ entry ∈ table.entries ∧ keying.equal key entry.key = true := by
  constructor
  · intro found
    exact ⟨chain_mem keying table sound key entry (List.mem_of_find?_eq_some found), by simpa using List.find?_some found⟩
  · intro given
    have inside := equal_mem_chain keying table sound key entry given.1 given.2
    cases found : table.getEntry keying key with
    | none =>
        have unequal := List.find?_eq_none.mp found entry inside
        exact absurd given.2 unequal
    | some other =>
        have otherMember := chain_mem keying table sound key other (List.mem_of_find?_eq_some found)
        have otherEqual : keying.equal key other.key = true := by simpa using List.find?_some found
        have equal := keying.equivalence.trans (keying.equivalence.symm otherEqual) given.2
        rw [equal_unique keying table sound other entry otherMember given.1 equal]

theorem get_entry_none : table.getEntry keying key = none ↔ ∀ entry ∈ table.entries, keying.equal key entry.key = false := by
  constructor
  · intro absent entry member
    by_contra equal
    have found := (get_entry_some keying table sound key entry).mpr ⟨member, (Bool.not_eq_false _).mp equal⟩
    simp [absent] at found
  · intro unequal
    apply List.find?_eq_none.mpr
    intro entry member
    simp [unequal entry (chain_mem keying table sound key entry member)]

theorem sound_rehash : Sound keying table.rehash := by
  obtain ⟨length, placed, perm⟩ := rehash_spec table sound.positive
  have positive := sound.positive
  refine ⟨by omega, placed, ?_, ?_, ?_⟩
  · intro entry member
    exact sound.hashed entry (perm.mem_iff.mp member)
  · rw [perm.length_eq]
    exact sound.counted
  · exact sound.distinct.perm perm.symm ((apart_symm keying).symm _ _)

theorem sound_link (value : Value) (absent : ∀ entry ∈ table.entries, keying.equal key entry.key = false) :
    Sound keying (⟨table.nelem + 1, link ⟨keying.hash key, key, value⟩ table.tab⟩ : HashTable Key Value) := by
  have perm := link_perm ⟨keying.hash key, key, value⟩ table.tab sound.positive
  refine ⟨by simpa [link] using sound.positive, placed_link _ table.tab sound.placed, ?_, ?_, ?_⟩
  · intro entry member
    cases List.mem_cons.mp (perm.mem_iff.mp member) with
    | inl fresh => rw [fresh]
    | inr old => exact sound.hashed entry old
  · rw [sound.counted]
    exact perm.length_eq.symm
  · exact (List.pairwise_cons.mpr ⟨absent, sound.distinct⟩).perm perm.symm ((apart_symm keying).symm _ _)

theorem chain_split (change : List (HashEntry Key Value) → List (HashEntry Key Value)) :
    ∃ before after,
      table.entries = before ++ table.chain (slot (keying.hash key) table.tab.length) ++ after ∧
      (table.tab.modify (slot (keying.hash key) table.tab.length) change).flatten =
        before ++ change (table.chain (slot (keying.hash key) table.tab.length)) ++ after := by
  have bound := slot_lt (keying.hash key) table.tab.length sound.positive
  obtain ⟨before, after, whole, changed⟩ := Sequences.flatten_split table.tab _ _ (chain_found keying table sound key)
  refine ⟨before, after, whole, ?_⟩
  rw [List.modify_eq_set_get _ bound, changed]
  simp [chain, bound]

omit sound in
theorem replace_first_split (matching : HashEntry Key Value → Bool) (value : Value) (left right : List (HashEntry Key Value))
    (entry : HashEntry Key Value) (skipped : ∀ other ∈ left, matching other = false) (matched : matching entry = true) :
    replaceFirst matching key value (left ++ entry :: right) = left ++ { entry with key := key, value := value } :: right := by
  induction left with
  | nil => simp [replaceFirst, matched]
  | cons first rest ih =>
      have unmatched := skipped first (by simp)
      simp only [List.cons_append, replaceFirst, unmatched, Bool.false_eq_true, if_false]
      rw [ih fun other member => skipped other (by simp [member])]

omit sound in
theorem replace_first_hash (matching : HashEntry Key Value → Bool) (value : Value) (chain : List (HashEntry Key Value))
    (entry : HashEntry Key Value) (member : entry ∈ replaceFirst matching key value chain) :
    ∃ old ∈ chain, old.hashKey = entry.hashKey := by
  induction chain with
  | nil => simp [replaceFirst] at member
  | cons first rest ih =>
      by_cases matched : matching first = true
      · rw [replaceFirst, if_pos matched] at member
        cases List.mem_cons.mp member with
        | inl here => exact ⟨first, by simp, by rw [here]⟩
        | inr later => exact ⟨entry, by simp [later], rfl⟩
      · rw [replaceFirst, if_neg matched] at member
        cases List.mem_cons.mp member with
        | inl here => exact ⟨first, by simp, by rw [here]⟩
        | inr later =>
            obtain ⟨old, oldMember, same⟩ := ih later
            exact ⟨old, by simp [oldMember], same⟩

theorem replace_spec (value : Value) (entry : HashEntry Key Value) (found : table.getEntry keying key = some entry) :
    ∃ left right, table.entries = left ++ entry :: right ∧
      (table.tab.modify (slot (keying.hash key) table.tab.length)
        (replaceFirst (fun entry => keying.equal key entry.key) key value)).flatten =
          left ++ { entry with key := key, value := value } :: right := by
  obtain ⟨before, after, whole, changed⟩ :=
    chain_split keying table sound key (replaceFirst (fun entry => keying.equal key entry.key) key value)
  obtain ⟨matched, left, right, chain, skipped⟩ := List.find?_eq_some_iff_append.mp found
  refine ⟨before ++ left, right ++ after, ?_, ?_⟩
  · rw [whole, chain]
    simp
  · rw [changed, chain, replace_first_split key _ value left right entry (by simpa using skipped) matched]
    simp

theorem remove_spec (entry : HashEntry Key Value) (found : table.getEntry keying key = some entry) :
    ∃ left right, table.entries = left ++ entry :: right ∧
      (table.tab.modify (slot (keying.hash key) table.tab.length)
        (List.eraseP fun entry => keying.equal key entry.key)).flatten = left ++ right := by
  obtain ⟨before, after, whole, changed⟩ :=
    chain_split keying table sound key (List.eraseP fun entry => keying.equal key entry.key)
  obtain ⟨matched, left, right, chain, skipped⟩ := List.find?_eq_some_iff_append.mp found
  refine ⟨before ++ left, right ++ after, ?_, ?_⟩
  · rw [whole, chain]
    simp
  · rw [changed, chain, List.eraseP_append_right _ (by simpa using skipped), List.eraseP_cons_of_pos (by simpa using matched)]
    simp

theorem sound_replaced (value : Value) (entry : HashEntry Key Value) (found : table.getEntry keying key = some entry) :
    Sound keying { table with
      tab := table.tab.modify (slot (keying.hash key) table.tab.length)
        (replaceFirst (fun entry => keying.equal key entry.key) key value) } := by
  obtain ⟨left, right, whole, changed⟩ := replace_spec keying table sound key value entry found
  have equal := ((get_entry_some keying table sound key entry).mp found).2
  have positive := sound.positive
  have distinct := sound.distinct
  rw [whole] at distinct
  obtain ⟨leftDistinct, rightDistinct, across⟩ := List.pairwise_append.mp distinct
  obtain ⟨entryApart, restDistinct⟩ := List.pairwise_cons.mp rightDistinct
  have moved : ∀ other : Key, keying.equal other entry.key = false → keying.equal other key = false := by
    intro other apart
    by_contra same
    have whole := keying.equivalence.trans ((Bool.not_eq_false _).mp same) equal
    exact absurd (apart.symm.trans whole) (by simp)
  refine ⟨by simpa using positive, ?_, ?_, ?_, ?_⟩
  · apply placed_modify _ _ _ sound.placed
    intro chain chainFound other member
    obtain ⟨old, oldMember, same⟩ := replace_first_hash key _ value chain other member
    rw [← same]
    exact sound.placed _ chain chainFound old oldMember
  · intro other member
    have inside : other ∈ left ++ { entry with key := key, value := value } :: right := changed ▸ member
    cases List.mem_append.mp inside with
    | inl before => exact sound.hashed other (by simp [whole, before])
    | inr rest =>
        cases List.mem_cons.mp rest with
        | inl here =>
            have hashed := sound.hashed entry (by simp [whole])
            rw [here, hashed, keying.hashed key entry.key equal]
        | inr after => exact sound.hashed other (by simp [whole, after])
  · have length := congrArg List.length changed
    rw [sound.counted, whole]
    simpa [entries] using length.symm
  · have pairwise : (left ++ { entry with key := key, value := value } :: right).Pairwise (Apart keying) := by
      refine List.pairwise_append.mpr ⟨leftDistinct, List.pairwise_cons.mpr ⟨?_, restDistinct⟩, ?_⟩
      · intro other member
        exact (apart_symm keying).symm _ _ (moved other.key ((apart_symm keying).symm _ _ (entryApart other member)))
      · intro first firstMember second secondMember
        cases List.mem_cons.mp secondMember with
        | inl here =>
            rw [here]
            exact moved first.key (across first firstMember entry (by simp))
        | inr after => exact across first firstMember second (by simp [after])
    simp only [entries, changed]
    exact pairwise

theorem sound_removed (entry : HashEntry Key Value) (found : table.getEntry keying key = some entry) :
    Sound keying
      { nelem := table.nelem - 1
        tab := table.tab.modify (slot (keying.hash key) table.tab.length)
          (List.eraseP fun entry => keying.equal key entry.key) } := by
  obtain ⟨left, right, whole, changed⟩ := remove_spec keying table sound key entry found
  have kept : (left ++ right).Sublist table.entries := by
    rw [whole]
    exact (List.Sublist.refl left).append (List.sublist_cons_self entry right)
  refine ⟨by simpa using sound.positive, ?_, ?_, ?_, ?_⟩
  · apply placed_modify _ _ _ sound.placed
    intro chain chainFound other member
    exact sound.placed _ chain chainFound other (List.mem_of_mem_eraseP member)
  · intro other member
    simp only [entries, changed] at member
    exact sound.hashed other (kept.mem member)
  · have length := congrArg List.length whole
    have counted := sound.counted
    simp only [entries, changed, List.length_append, List.length_cons] at length counted ⊢
    omega
  · simp only [entries, changed]
    exact sound.distinct.sublist kept

theorem sound_clean : Sound keying table.clean.1 := by
  have empty : table.tab.map (fun _ => ([] : List (HashEntry Key Value))) = List.replicate table.tab.length [] :=
    List.map_const' ..
  have fresh : Sound keying (new table.tab.length : HashTable Key Value) := sound_new keying table.tab.length sound.positive
  rw [clean, empty]
  exact fresh

inductive Put (value : Value) : HashTable Key Value × Bool × List (HashEntry Key Value) → Prop where
  | replaced (after : HashTable Key Value) (left right : List (HashEntry Key Value)) (entry : HashEntry Key Value)
      (whole : table.entries = left ++ entry :: right) (equal : keying.equal key entry.key = true)
      (changed : after.entries = left ++ { entry with key := key, value := value } :: right) : Put value (after, true, [entry])
  | added (after : HashTable Key Value) (absent : ∀ entry ∈ table.entries, keying.equal key entry.key = false)
      (perm : after.entries.Perm (⟨keying.hash key, key, value⟩ :: table.entries)) : Put value (after, true, [])
  | refused (after : HashTable Key Value) (perm : after.entries.Perm table.entries) : Put value (after, false, [])

theorem put_spec (tabAllocated entryAllocated : Bool) (value : Value) :
    Sound keying (table.put keying tabAllocated entryAllocated key value).1 ∧
      Put keying table key value (table.put keying tabAllocated entryAllocated key value) := by
  unfold put
  cases found : table.getEntry keying key with
  | some entry =>
      obtain ⟨left, right, whole, changed⟩ := replace_spec keying table sound key value entry found
      have equal := ((get_entry_some keying table sound key entry).mp found).2
      exact ⟨sound_replaced keying table sound key value entry found, .replaced _ left right entry whole equal changed⟩
  | none =>
      have absent := (get_entry_none keying table sound key).mp found
      dsimp only
      by_cases stopped : decide (13 * table.tab.length < 10 * table.nelem) = true ∧ tabAllocated = false
      · rw [if_pos stopped]
        exact ⟨sound, .refused table (List.Perm.refl _)⟩
      · rw [if_neg stopped]
        generalize chosen : (if decide (13 * table.tab.length < 10 * table.nelem) = true then table.rehash else table) = larger
        have roomy : Sound keying larger ∧ larger.entries.Perm table.entries := by
          by_cases full : decide (13 * table.tab.length < 10 * table.nelem) = true
          · rw [if_pos full] at chosen
            subst chosen
            exact ⟨sound_rehash keying table sound, (rehash_spec table sound.positive).2.2⟩
          · rw [if_neg full] at chosen
            subst chosen
            exact ⟨sound, List.Perm.refl _⟩
        cases entryAllocated with
        | false => exact ⟨roomy.1, .refused _ roomy.2⟩
        | true =>
            have stillAbsent : ∀ entry ∈ larger.entries, keying.equal key entry.key = false := fun entry member =>
              absent entry (roomy.2.mem_iff.mp member)
            refine ⟨sound_link keying larger roomy.1 key value stillAbsent, .added _ absent ?_⟩
            exact (link_perm _ _ roomy.1.positive).trans (roomy.2.cons _)

end Sound

section Foreach

theorem first_of_none (lists : List (List (HashEntry Key Value))) (none : firstOf lists = none) : lists.flatten = [] := by
  induction lists with
  | nil => rfl
  | cons list rest ih =>
      cases list with
      | nil => exact ih none
      | cons entry chain => cases none

theorem first_of_some (lists : List (List (HashEntry Key Value))) (entry : HashEntry Key Value) (chain : List (HashEntry Key Value))
    (found : firstOf lists = some (entry, chain)) :
    ∃ skipped rest, lists = skipped ++ (entry :: chain) :: rest ∧ skipped.flatten = [] := by
  induction lists with
  | nil => cases found
  | cons list rest ih =>
      cases list with
      | nil =>
          obtain ⟨skipped, others, whole, empty⟩ := ih found
          exact ⟨[] :: skipped, others, by rw [whole]; rfl, by simpa using empty⟩
      | cons other others =>
          cases found
          exact ⟨[], rest, rfl, rfl⟩

variable (table : HashTable Key Value) (placed : Placed table.tab)
include placed

theorem foreach_cursor (rounds : Nat) (passed rest : List (List (HashEntry Key Value))) (front chain : List (HashEntry Key Value))
    (entry : HashEntry Key Value) (whole : table.tab = passed ++ (front ++ entry :: chain) :: rest)
    (enough : (entry :: chain ++ rest.flatten).length ≤ rounds) :
    foreach table rounds (some (entry, chain)) = entry :: chain ++ rest.flatten := by
  induction rounds generalizing passed rest front chain entry with
  | zero => simp at enough
  | succ rounds ih =>
      rw [foreach]
      cases chain with
      | cons second others =>
          have moved : table.tab = passed ++ ((front ++ [entry]) ++ second :: others) :: rest := by simpa using whole
          have later := ih passed rest (front ++ [entry]) others second moved (by simpa using enough)
          rw [next, later]
          rfl
      | nil =>
          have here : slot entry.hashKey table.tab.length = passed.length := by
            apply placed passed.length (front ++ [entry])
            · rw [whole]
              simp
            · simp
          have left : table.tab.drop (slot entry.hashKey table.tab.length + 1) = rest := by
            rw [here, whole]
            simp
          rw [next, left]
          cases found : firstOf rest with
          | none =>
              have empty := first_of_none rest found
              cases rounds with
              | zero => simp [foreach, empty]
              | succ _ => simp [foreach, empty]
          | some cursor =>
              obtain ⟨second, others⟩ := cursor
              obtain ⟨skipped, further, split, empty⟩ := first_of_some rest second others found
              have flat : rest.flatten = second :: others ++ further.flatten := by simp [split, empty]
              have moved : table.tab = (passed ++ (front ++ [entry]) :: skipped) ++ ([] ++ second :: others) :: further := by
                rw [whole, split]
                simp
              rw [flat] at enough ⊢
              have later := ih _ further [] others second moved (by simpa using enough)
              simp only [later]
              rfl

theorem foreach_entries (rounds : Nat) (enough : table.entries.length ≤ rounds) :
    foreach table rounds table.begin = table.entries := by
  cases found : firstOf table.tab with
  | none =>
      have empty := first_of_none table.tab found
      rw [begin, found, entries, empty]
      cases rounds with
      | zero => rfl
      | succ _ => rfl
  | some cursor =>
      obtain ⟨entry, chain⟩ := cursor
      obtain ⟨skipped, rest, whole, empty⟩ := first_of_some table.tab entry chain found
      have flat : table.entries = entry :: chain ++ rest.flatten := by simp [entries, whole, empty]
      rw [begin, found, flat]
      exact foreach_cursor table placed rounds skipped rest [] chain entry (by simpa using whole) (flat ▸ enough)

end Foreach

end HashTable

end Zlog
