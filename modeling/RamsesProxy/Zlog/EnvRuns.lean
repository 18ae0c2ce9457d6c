import RamsesProxy.Zlog.Env

set_option autoImplicit false

namespace Zlog

open CText

namespace Env

variable {Action : Type}

structure Served (rules : List (Rule Action)) (table : HashTable Bytes Nat) (pool : Pool (Category Action)) : Prop where
  sound : HashTable.Sound strKeying table
  named : ∀ entry ∈ table.entries, cstr entry.key = entry.key ∧
    ∃ category, pool.read entry.value = some category ∧ category.name = entry.key ∧ category.Follows rules
  listed : ∀ handle category, pool.read handle = some category → ∃ entry ∈ table.entries, entry.value = handle

structure Consistent (env : Env Action) : Prop where
  live : env.isInit = true →
    ∃ conf table, env.conf = some conf ∧ env.categories = some table ∧ Served conf.rules table env.pool
  dead : env.isInit = false → ∀ handle, env.pool.read handle = none
  default : ∀ handle, env.defaultCategory = some handle → ∃ category, env.pool.read handle = some category

section Served

variable (rules : List (Rule Action)) (table : HashTable Bytes Nat) (pool : Pool (Category Action))

theorem served_new (holes : ∀ handle, pool.read handle = none) : Served rules (HashTable.new 20) pool where
  sound := HashTable.sound_new strKeying 20 (by decide)
  named := by simp [HashTable.entries, HashTable.new]
  listed := by
    intro handle category found
    simp [holes] at found

variable (served : Served rules table pool)
include served

theorem served_once : (handles table).Nodup := by
  apply List.pairwise_map.mpr
  apply served.sound.distinct.imp_of_mem
  intro left right leftMember rightMember apart same
  obtain ⟨_, category, found, leftNamed, _⟩ := served.named left leftMember
  obtain ⟨_, other, otherFound, rightNamed, _⟩ := served.named right rightMember
  rw [same, otherFound] at found
  cases found
  have equal : strKeying.equal left.key right.key = true := by
    rw [← leftNamed, ← rightNamed]
    exact strKeying.equivalence.refl _
  exact absurd (equal.symm.trans apart) (by simp)

theorem served_visited : (table.foreach table.nelem table.begin).map HashEntry.value = handles table := by
  rw [HashTable.foreach_entries table served.sound.placed table.nelem (by rw [served.sound.counted]), handles]

theorem served_get (name : Bytes) (handle : Nat) (found : table.get strKeying name = some handle) :
    ∃ category, pool.read handle = some category ∧ category.name = cstr name ∧ category.Follows rules := by
  obtain ⟨entry, member, equal, rfl⟩ := (HashTable.get_some strKeying table served.sound name handle).mp found
  obtain ⟨clean, category, present, named, follows⟩ := served.named entry member
  have same : cstr name = cstr entry.key := by simpa [strKeying, strEqual] using equal
  exact ⟨category, present, by rw [named, same, clean], follows⟩

theorem served_live (handle : Nat) (category : Category Action) (found : pool.read handle = some category) :
    category.Follows rules ∧ table.get strKeying category.name = some handle := by
  obtain ⟨entry, member, rfl⟩ := served.listed handle category found
  obtain ⟨_, other, present, named, follows⟩ := served.named entry member
  cases found.symm.trans present
  refine ⟨follows, (HashTable.get_some strKeying table served.sound category.name entry.value).mpr ⟨entry, member, ?_, rfl⟩⟩
  rw [named]
  exact strKeying.equivalence.refl _

theorem served_added (after : HashTable Bytes Nat) (sound : HashTable.Sound strKeying after) (category : Category Action)
    (clean : cstr category.name = category.name) (follows : category.Follows rules)
    (perm : after.entries.Perm (⟨strKeying.hash category.name, category.name, pool.length⟩ :: table.entries)) :
    Served rules after (pool ++ [some category]) where
  sound := sound
  named := by
    intro entry member
    cases List.mem_cons.mp (perm.mem_iff.mp member) with
    | inl fresh =>
        subst fresh
        exact ⟨clean, category, by rw [Pool.read_append, if_pos rfl], rfl, follows⟩
    | inr old =>
        obtain ⟨oldClean, other, found, rest⟩ := served.named entry old
        have bound := Pool.read_bound pool entry.value other found
        exact ⟨oldClean, other, by rw [Pool.read_append, if_neg (by omega), found], rest⟩
  listed := by
    intro handle other found
    rw [Pool.read_append] at found
    by_cases last : handle = pool.length
    · exact ⟨_, perm.mem_iff.mpr List.mem_cons_self, last.symm⟩
    · rw [if_neg last] at found
      obtain ⟨entry, member, same⟩ := served.listed handle other found
      exact ⟨entry, perm.mem_iff.mpr (List.mem_cons_of_mem _ member), same⟩

theorem served_moved (after : HashTable Bytes Nat) (sound : HashTable.Sound strKeying after) (other : Pool (Category Action))
    (same : ∀ handle, other.read handle = pool.read handle) (perm : after.entries.Perm table.entries) :
    Served rules after other where
  sound := sound
  named := by
    intro entry member
    rw [same]
    exact served.named entry (perm.mem_iff.mp member)
  listed := by
    intro handle category found
    rw [same] at found
    obtain ⟨entry, member, value⟩ := served.listed handle category found
    exact ⟨entry, perm.mem_iff.mpr member, value⟩

end Served

section Fetch

variable (env : Env Action) (memory : FetchMemory) (cname : Bytes)

structure Fetched (rules : List (Rule Action)) (after : Env Action) (handle : Option Nat) : Prop where
  isInit : after.isInit = env.isInit
  conf : after.conf = env.conf
  default : after.defaultCategory = env.defaultCategory
  served : ∃ table, after.categories = some table ∧ Served rules table after.pool
  kept : ∀ other category, env.pool.read other = some category → after.pool.read other = some category
  found : ∀ given, handle = some given → ∃ category, after.pool.read given = some category ∧ category.name = cstr cname
  missed : handle = none → ∀ other, after.pool.read other = env.pool.read other

theorem fetched (conf : Conf Action) (table : HashTable Bytes Nat) (hasConf : env.conf = some conf)
    (hasTable : env.categories = some table) (served : Served conf.rules table env.pool) (after : Env Action) (handle : Option Nat)
    (ran : env.fetchCategory memory cname = some (after, handle)) : Fetched env cname conf.rules after handle := by
  have itself : Fetched env cname conf.rules env none :=
    ⟨rfl, rfl, rfl, ⟨table, hasTable, served⟩, fun _ _ found => found, by simp, fun _ _ => rfl⟩
  unfold fetchCategory at ran
  simp only [hasConf, hasTable] at ran
  cases present : table.get strKeying (cstr cname) with
  | some found =>
      simp only [present] at ran
      cases ran
      obtain ⟨category, read, named, _⟩ := served_get conf.rules table env.pool served (cstr cname) found present
      refine { itself with found := ?_, missed := by simp }
      intro given same
      cases same
      exact ⟨category, read, named.trans (cstr_cstr cname)⟩
  | none =>
      simp only [present] at ran
      obtain ⟨made, new, same⟩ := Option.map_eq_some_iff.mp ran
      cases made with
      | none =>
          cases same
          exact itself
      | some category =>
          obtain ⟨named, follows⟩ := Category.follows_new conf.rules category memory.categoryAllocated memory.rules (cstr cname) new
          have clean : cstr category.name = category.name := by rw [named, cstr_cstr]
          have absent := (HashTable.get_entry_none strKeying table served.sound category.name).mp
            (Option.map_eq_none_iff.mp (named ▸ present))
          obtain ⟨sound, spec⟩ := HashTable.put_spec strKeying table served.sound category.name memory.tabAllocated
            memory.entryAllocated env.pool.length
          dsimp only at same
          generalize table.put strKeying memory.tabAllocated memory.entryAllocated category.name env.pool.length = put at sound spec same
          cases spec with
          | replaced after left right entry whole equal changed =>
              have unequal := absent entry (by simp [whole])
              exact absurd (equal.symm.trans unequal) (by simp)
          | added after _ perm =>
              cases same
              refine ⟨rfl, hasConf.symm ▸ rfl, rfl, ⟨after, rfl, ?_⟩, ?_, ?_, by simp⟩
              · exact served_added conf.rules table env.pool served after sound category clean follows perm
              · intro other old found
                have bound := Pool.read_bound env.pool other old found
                exact (Pool.read_append env.pool (some category) other).trans (by rw [if_neg (by omega), found])
              · intro given same
                cases same
                exact ⟨category, (Pool.read_append env.pool (some category) _).trans (if_pos rfl), named⟩
          | refused after perm =>
              cases same
              have same (handle : Nat) : Pool.read (env.pool ++ [none]) handle = env.pool.read handle := by
                rw [Pool.read_append]
                by_cases last : handle = env.pool.length
                · rw [if_pos last, last, Pool.read_outside]
                · rw [if_neg last]
              refine ⟨rfl, hasConf.symm ▸ rfl, rfl, ⟨after, rfl, ?_⟩, ?_, by simp, fun _ => same⟩
              · exact served_moved conf.rules table env.pool served after sound _ same perm
              · intro other old found
                exact (same other).trans found

end Fetch

def Renewed (memory : Nat → Memory) (newRules : List (Rule Action)) (pool committed : Pool (Category Action)) : Prop :=
  ∀ handle category, pool.read handle = some category →
    ∃ fresh, category.updateRules (memory handle) newRules = some (fresh, true) ∧ committed.read handle = some fresh.commitRules

section Reload

variable (rules : List (Rule Action)) (table : HashTable Bytes Nat) (pool : Pool (Category Action)) (served : Served rules table pool)
include served

theorem served_handles (handle : Nat) : handle ∈ handles table ↔ ∃ category, pool.read handle = some category := by
  constructor
  · intro member
    obtain ⟨entry, inside, rfl⟩ := List.mem_map.mp member
    obtain ⟨_, category, found, _⟩ := served.named entry inside
    exact ⟨category, found⟩
  · intro found
    obtain ⟨category, found⟩ := found
    obtain ⟨entry, inside, same⟩ := served.listed handle category found
    exact List.mem_map.mpr ⟨entry, inside, same⟩

variable (memory : Nat → Memory) (newRules : List (Rule Action))

theorem updated_all (updated : Pool (Category Action)) (finished : Bool)
    (ran : updateAll memory newRules table pool = some (updated, finished)) :
    Pool.Visited (fun handle category => category.updateRules (memory handle) newRules) (handles table) pool updated finished := by
  rw [updateAll, served_visited rules table pool served] at ran
  exact Pool.visit_spec _ (handles table) pool updated finished (served_once rules table pool served) ran

theorem committed_all (updated : Pool (Category Action))
    (same : ∀ handle, (∃ category, updated.read handle = some category) ↔ ∃ category, pool.read handle = some category) :
    ∃ committed, commitAll table updated = some (committed, true) ∧
      ∀ handle, committed.read handle = (updated.read handle).map Category.commitRules := by
  have listed (handle : Nat) : handle ∈ handles table ↔ ∃ category, updated.read handle = some category :=
    (served_handles rules table pool served handle).trans (same handle).symm
  rw [commitAll, served_visited rules table pool served]
  exact Pool.visit_every (fun _ category => category.commitRules) (handles table) updated
    (served_once rules table pool served) listed

theorem rolled_all (updated : Pool (Category Action))
    (same : ∀ handle, (∃ category, updated.read handle = some category) ↔ ∃ category, pool.read handle = some category) :
    ∃ restored, rollbackAll table updated = some (restored, true) ∧
      ∀ handle, restored.read handle = (updated.read handle).map Category.rollbackRules := by
  have listed (handle : Nat) : handle ∈ handles table ↔ ∃ category, updated.read handle = some category :=
    (served_handles rules table pool served handle).trans (same handle).symm
  rw [rollbackAll, served_visited rules table pool served]
  exact Pool.visit_every (fun _ category => category.rollbackRules) (handles table) updated
    (served_once rules table pool served) listed

theorem updated_every (updated : Pool (Category Action))
    (visited : Pool.Visited (fun handle category => category.updateRules (memory handle) newRules) (handles table) pool updated true)
    (handle : Nat) (category : Category Action) (found : pool.read handle = some category) :
    ∃ fresh, category.updateRules (memory handle) newRules = some (fresh, true) ∧ updated.read handle = some fresh := by
  cases visited with
  | done succeeded changed =>
      have member := (served_handles rules table pool served handle).mpr ⟨category, found⟩
      obtain ⟨item, fresh, present, stepped⟩ := succeeded handle member
      cases found.symm.trans present
      refine ⟨fresh, stepped, ?_⟩
      rw [changed, Pool.readChanged, if_pos member, found, Option.bind_some, stepped]
      rfl

theorem updated_live (updated : Pool (Category Action))
    (visited : Pool.Visited (fun handle category => category.updateRules (memory handle) newRules) (handles table) pool updated true)
    (handle : Nat) : (∃ category, updated.read handle = some category) ↔ ∃ category, pool.read handle = some category := by
  have every := updated_every rules table pool served memory newRules updated visited handle
  constructor
  · intro live
    obtain ⟨category, present⟩ := live
    cases visited with
    | done succeeded changed =>
        rw [changed, Pool.readChanged] at present
        by_cases member : handle ∈ handles table
        · exact (served_handles rules table pool served handle).mp member
        · rw [if_neg member] at present
          exact ⟨category, present⟩
  · intro live
    obtain ⟨category, found⟩ := live
    obtain ⟨fresh, _, present⟩ := every category found
    exact ⟨fresh, present⟩

theorem served_committed (committed : Pool (Category Action)) (every : Renewed memory newRules pool committed)
    (live : ∀ handle category, committed.read handle = some category → ∃ old, pool.read handle = some old) :
    Served newRules table committed where
  sound := served.sound
  named := by
    intro entry member
    obtain ⟨clean, category, found, named, follows⟩ := served.named entry member
    obtain ⟨fresh, updated, present⟩ := every entry.value category found
    refine ⟨clean, _, present, ?_, ?_⟩
    · rw [Category.commit_update_name newRules category (memory entry.value) fresh true updated, named]
    · exact Category.follows_commit newRules category (memory entry.value) rules fresh true updated follows rfl
  listed := by
    intro handle category found
    obtain ⟨old, present⟩ := live handle category found
    exact served.listed handle old present

end Reload

theorem not_broken (memory : Nat → Memory) (ample : ∀ handle, (memory handle).Ample) (rules : List (Rule Action))
    (table : HashTable Bytes Nat) (pool after : Pool (Category Action)) :
    ¬ Pool.Visited (fun handle category => category.updateRules (memory handle) rules) (handles table) pool after false := by
  intro visited
  cases visited with
  | stopped front rest handle category broken split succeeded found failed changed =>
      cases Category.obtain_cases (memory handle) rules _ broken false failed with
      | inl done => cases done.1
      | inr missing => exact absurd ((ample handle).1.symm.trans missing.2.1) (by simp)

section Step

variable (env : Env Action) (consistent : Consistent env)

inductive Reloaded (built : Option (Conf Action)) (memory : Nat → Memory) : Env Action → Int → Prop where
  | quit : Reloaded built memory env 0
  | unread (isInit : env.isInit = true) (missing : built = none) : Reloaded built memory { env with reloadConfCount := 0 } (-1)
  | reloaded (table : HashTable Bytes Nat) (newConf : Conf Action) (pool : Pool (Category Action)) (isInit : env.isInit = true)
      (hasTable : env.categories = some table) (given : built = some newConf) (served : Served newConf.rules table pool)
      (renewed : Renewed memory newConf.rules env.pool pool) :
      Reloaded built memory { env with reloadConfCount := 0, conf := some newConf, pool := pool } 0
  | broken (conf newConf : Conf Action) (table : HashTable Bytes Nat) (pool : Pool (Category Action)) (isInit : env.isInit = true)
      (hasConf : env.conf = some conf) (hasTable : env.categories = some table) (served : Served conf.rules table env.pool)
      (given : built = some newConf)
      (visited : Pool.Visited (fun handle category => category.updateRules (memory handle) newConf.rules) (handles table)
        env.pool pool false) : Reloaded built memory { env with reloadConfCount := 0, pool := pool } (-1)

include consistent

theorem reload_ends (periodic : Bool) (built : Option (Conf Action)) (memory : Nat → Memory) (after : Env Action) (code : Int)
    (ran : env.reload periodic built memory = some (after, code)) : Reloaded env built memory after code := by
  unfold reload at ran
  by_cases off : env.isInit = false
  · rw [if_pos off] at ran
    cases ran
    exact .quit
  · rw [if_neg off] at ran
    have on : env.isInit = true := (Bool.not_eq_false _).mp off
    obtain ⟨conf, table, hasConf, hasTable, served⟩ := consistent.live on
    simp only [hasConf, hasTable] at ran
    by_cases early : periodic = true ∧ env.reloadConfCount ≤ conf.reloadConfPeriod
    · rw [if_pos early] at ran
      cases ran
      exact .quit
    · rw [if_neg early] at ran
      cases built with
      | none =>
          cases ran
          rw [← hasConf, ← hasTable]
          exact .unread on rfl
      | some newConf =>
          obtain ⟨⟨updated, finished⟩, update, rest⟩ := Option.bind_eq_some_iff.mp ran
          have visited := updated_all conf.rules table env.pool served memory newConf.rules updated finished update
          cases finished with
          | true =>
              have every := updated_every conf.rules table env.pool served memory newConf.rules updated visited
              have live := updated_live conf.rules table env.pool served memory newConf.rules updated visited
              obtain ⟨committed, done, changed⟩ := committed_all conf.rules table env.pool served updated live
              have renewed : Renewed memory newConf.rules env.pool committed := by
                intro handle category found
                obtain ⟨fresh, stepped, present⟩ := every handle category found
                exact ⟨fresh, stepped, by rw [changed, present, Option.map_some]⟩
              have newServed := served_committed conf.rules table env.pool served memory newConf.rules committed renewed
                fun handle category found => by
                  obtain ⟨fresh, present, _⟩ := Option.map_eq_some_iff.mp ((changed handle).symm.trans found)
                  exact (live handle).mp ⟨fresh, present⟩
              simp only [if_true, done, Option.bind_eq_bind, Option.bind_some] at rest
              cases rest
              rw [← hasTable]
              exact .reloaded table newConf committed on hasTable rfl newServed renewed
          | false =>
              cases rest
              rw [← hasConf, ← hasTable]
              exact .broken conf newConf table updated on hasConf hasTable served rfl visited

theorem consistent_fini : Consistent env.fini := by
  unfold fini
  by_cases on : env.isInit = true
  · rw [if_pos on]
    obtain ⟨conf, table, hasConf, hasTable, served⟩ := consistent.live on
    refine ⟨by simp, ?_, by simp [finiInner]⟩
    intro _ handle
    simp only [finiInner, hasTable, Pool.read_free]
    by_cases member : handle ∈ handles table
    · rw [if_pos member]
    · rw [if_neg member]
      by_contra present
      obtain ⟨category, found⟩ := Option.ne_none_iff_exists'.mp present
      exact member ((served_handles conf.rules table env.pool served handle).mpr ⟨category, found⟩)
  · rw [if_neg on]
    exact consistent

theorem inner_holes (off : env.isInit = false) (built : Option (Conf Action)) (handle : Nat) :
    (env.initInner built).1.pool.read handle = none := by
  have holes := consistent.dead off
  cases built with
  | some conf => exact holes handle
  | none =>
      simp only [initInner, finiInner]
      cases env.categories with
      | none => exact holes handle
      | some table =>
          simp only [Pool.read_free, holes, ite_self]

theorem consistent_init (built : Option (Conf Action)) : Consistent (env.init built) := by
  unfold init
  by_cases on : env.isInit = true
  · rw [if_pos on]
    exact consistent
  · rw [if_neg on]
    have off : env.isInit = false := (Bool.not_eq_true _).mp on
    have holes := inner_holes env consistent off built
    have noDefault (handle : Nat) : env.defaultCategory ≠ some handle := by
      intro given
      obtain ⟨category, found⟩ := consistent.default handle given
      simp [consistent.dead off handle] at found
    cases built with
    | none => exact ⟨by simp [initInner], fun _ => holes, by simp [initInner, finiInner]⟩
    | some conf =>
        refine ⟨fun _ => ⟨conf, _, rfl, rfl, served_new conf.rules _ holes⟩, by simp [initInner], ?_⟩
        intro handle given
        exact absurd given (noDefault handle)

theorem consistent_fetched (on : env.isInit = true) (memory : FetchMemory) (cname : Bytes) (after : Env Action) (handle : Option Nat)
    (ran : env.fetchCategory memory cname = some (after, handle)) :
    ∃ conf, env.conf = some conf ∧ Fetched env cname conf.rules after handle := by
  obtain ⟨conf, table, hasConf, hasTable, served⟩ := consistent.live on
  exact ⟨conf, hasConf, fetched env memory cname conf table hasConf hasTable served after handle ran⟩

theorem consistent_get (memory : FetchMemory) (cname : Bytes) (after : Env Action) (handle : Option Nat)
    (ran : env.getCategory memory cname = some (after, handle)) : Consistent after := by
  unfold getCategory at ran
  by_cases on : env.isInit = true
  · rw [if_pos on] at ran
    obtain ⟨conf, hasConf, fetched⟩ := consistent_fetched env consistent on memory cname after handle ran
    obtain ⟨table, hasTable, served⟩ := fetched.served
    refine ⟨fun _ => ⟨conf, table, fetched.conf.trans hasConf, hasTable, served⟩, ?_, ?_⟩
    · intro off
      rw [fetched.isInit, on] at off
      cases off
    · intro handle given
      rw [fetched.default] at given
      obtain ⟨category, found⟩ := consistent.default handle given
      exact ⟨category, fetched.kept handle category found⟩
  · rw [if_neg on] at ran
    cases ran
    exact consistent

theorem consistent_set (memory : FetchMemory) (cname : Bytes) (next : Env Action)
    (ran : env.setCategory memory cname = some next) : Consistent next := by
  unfold setCategory at ran
  by_cases on : env.isInit = true
  · rw [if_pos on] at ran
    obtain ⟨⟨after, handle⟩, fetch, rfl⟩ := Option.map_eq_some_iff.mp ran
    obtain ⟨conf, hasConf, fetched⟩ := consistent_fetched env consistent on memory cname after handle fetch
    obtain ⟨table, hasTable, served⟩ := fetched.served
    refine ⟨fun _ => ⟨conf, table, fetched.conf.trans hasConf, hasTable, served⟩, ?_, ?_⟩
    · intro off
      have still : after.isInit = false := off
      rw [fetched.isInit, on] at still
      cases still
    · intro given isDefault
      obtain ⟨category, found, _⟩ := fetched.found given isDefault
      exact ⟨category, found⟩
  · rw [if_neg on] at ran
    cases ran
    exact consistent

theorem consistent_dzlog_init (built : Option (Conf Action)) (memory : FetchMemory) (cname : Bytes) (next : Env Action)
    (ran : env.dzlogInit built memory cname = some next) : Consistent next := by
  unfold dzlogInit at ran
  by_cases on : env.isInit = true
  · rw [if_pos on] at ran
    cases ran
    exact consistent
  · rw [if_neg on] at ran
    have off : env.isInit = false := (Bool.not_eq_true _).mp on
    have holes := inner_holes env consistent off built
    cases built with
    | none =>
        cases ran
        exact ⟨by simp [initInner, finiInner, off], fun _ => holes, by simp [initInner, finiInner]⟩
    | some conf =>
        obtain ⟨⟨after, handle⟩, fetch, rfl⟩ := Option.map_eq_some_iff.mp ran
        have fetched := fetched (env.initInner (some conf)).1 memory cname conf (HashTable.new 20) rfl rfl
          (served_new conf.rules _ holes) after handle fetch
        obtain ⟨table, hasTable, served⟩ := fetched.served
        refine ⟨fun _ => ⟨conf, table, fetched.conf, hasTable, served⟩, ?_, ?_⟩
        · intro failed other
          have missing : handle = none := by simpa using failed
          exact (fetched.missed missing other).trans (holes other)
        · intro given isDefault
          obtain ⟨category, found, _⟩ := fetched.found given isDefault
          exact ⟨category, found⟩

theorem log_asked (handle level : Nat) (category : Category Action) (found : env.pool.read handle = some category)
    (small : level < 256) (threadFetched : Bool) (outcome : Action → Int) :
    ∃ conf after, env.conf = some conf ∧ (after = env ∨ after = { env with reloadConfCount := env.reloadConfCount + 1 }) ∧
      (category.needlessLevel level = true ↔ Category.asked conf.rules category.name level = []) ∧
      env.vzlog handle level threadFetched outcome =
        some (after, if threadFetched = true then Category.asked conf.rules category.name level else []) := by
  have on : env.isInit = true := by
    by_contra off
    simp [consistent.dead ((Bool.not_eq_true _).mp off) handle] at found
  obtain ⟨conf, table, hasConf, hasTable, served⟩ := consistent.live on
  obtain ⟨follows, _⟩ := served_live conf.rules table env.pool served handle category found
  have needless := Category.needless_asked conf.rules category follows level small
  obtain ⟨result, written⟩ := Category.output_asked conf.rules category follows outcome level
  have inside : ¬ 256 ≤ level := by omega
  simp only [vzlog, found, Option.bind_eq_bind, Option.bind_some, if_neg inside]
  by_cases silent : category.needlessLevel level = true
  · have nothing := needless.mp silent
    refine ⟨conf, env, hasConf, .inl rfl, needless, ?_⟩
    rw [if_pos silent, nothing, ite_self]
  · rw [if_neg silent]
    cases threadFetched with
    | false =>
        refine ⟨conf, env, hasConf, .inl rfl, needless, ?_⟩
        rw [if_pos (.inr rfl), if_neg Bool.false_ne_true]
    | true =>
        rw [if_neg (by simp [on]), written, hasConf]
        simp only [Option.bind_some, if_true]
        by_cases uncounted : result ≠ 0 ∨ conf.reloadConfPeriod = 0
        · refine ⟨conf, env, rfl, .inl rfl, needless, ?_⟩
          rw [if_pos uncounted]
        · refine ⟨conf, _, rfl, .inr rfl, needless, ?_⟩
          rw [if_neg uncounted]

omit consistent in
theorem vzlog_read (handle level : Nat) (threadFetched : Bool) (outcome : Action → Int) (result : Env Action × List Action)
    (ran : env.vzlog handle level threadFetched outcome = some result) :
    level < 256 ∧ ∃ category, env.pool.read handle = some category := by
  unfold vzlog at ran
  obtain ⟨category, found, rest⟩ := Option.bind_eq_some_iff.mp ran
  by_cases outside : 256 ≤ level
  · rw [if_pos outside] at rest
    cases rest
  · exact ⟨by omega, category, found⟩

theorem consistent_vzlog (handle level : Nat) (threadFetched : Bool) (outcome : Action → Int) (result : Env Action × List Action)
    (ran : env.vzlog handle level threadFetched outcome = some result) : Consistent result.1 := by
  obtain ⟨small, category, found⟩ := vzlog_read env handle level threadFetched outcome result ran
  obtain ⟨conf, after, _, same, _, given⟩ := log_asked env consistent handle level category found small threadFetched outcome
  cases ran.symm.trans given
  cases same with
  | inl unchanged => exact unchanged ▸ consistent
  | inr counted =>
      subst counted
      exact ⟨consistent.live, consistent.dead, consistent.default⟩

theorem consistent_reload (periodic : Bool) (built : Option (Conf Action)) (memory : Nat → Memory)
    (ample : ∀ handle, (memory handle).Ample) (after : Env Action) (code : Int)
    (ran : env.reload periodic built memory = some (after, code)) : Consistent after := by
  cases reload_ends env consistent periodic built memory after code ran with
  | quit => exact consistent
  | unread _ missing => exact ⟨consistent.live, consistent.dead, consistent.default⟩
  | reloaded table newConf pool on hasTable given served renewed =>
      refine ⟨fun _ => ⟨newConf, table, rfl, hasTable, served⟩, ?_, ?_⟩
      · intro off
        exact absurd (on.symm.trans off) (by simp)
      · intro handle isDefault
        obtain ⟨category, found⟩ := consistent.default handle isDefault
        obtain ⟨fresh, _, present⟩ := renewed handle category found
        exact ⟨_, present⟩
  | broken conf newConf table pool on hasConf hasTable served given visited =>
      exact absurd visited (not_broken memory ample newConf.rules table env.pool pool)

end Step

-- No reload runs out of memory while it updates the categories.
def ReloadsFit : EnvEvent Action → Prop
  | .reload _ _ memory => ∀ handle, (memory handle).Ample
  | _ => True

theorem consistent_start : Consistent (start : Env Action) := ⟨by simp [start], by simp [start, Pool.read], by simp [start]⟩

theorem consistent_step (env next : Env Action) (event : EnvEvent Action) (fits : ReloadsFit event) (consistent : Consistent env)
    (stepped : env.step event = some next) : Consistent next := by
  cases event with
  | init built =>
      cases stepped
      exact consistent_init env consistent built
  | dzlogInit built memory cname => exact consistent_dzlog_init env consistent built memory cname next stepped
  | fini =>
      cases stepped
      exact consistent_fini env consistent
  | reload periodic built memory =>
      obtain ⟨result, ran, rfl⟩ := Option.map_eq_some_iff.mp stepped
      exact consistent_reload env consistent periodic built memory fits result.1 result.2 ran
  | getCategory memory cname =>
      obtain ⟨result, ran, rfl⟩ := Option.map_eq_some_iff.mp stepped
      exact consistent_get env consistent memory cname result.1 result.2 ran
  | setCategory memory cname => exact consistent_set env consistent memory cname next stepped
  | vzlog handle level threadFetched outcome =>
      obtain ⟨result, ran, rfl⟩ := Option.map_eq_some_iff.mp stepped
      exact consistent_vzlog env consistent handle level threadFetched outcome result ran
  | vdzlog level threadFetched outcome =>
      obtain ⟨result, ran, rfl⟩ := Option.map_eq_some_iff.mp stepped
      obtain ⟨handle, _, ranThere⟩ := Option.bind_eq_some_iff.mp ran
      exact consistent_vzlog env consistent handle level threadFetched outcome result ranThere

theorem consistent_run (events : List (EnvEvent Action)) (env : Env Action) (fits : ∀ event ∈ events, ReloadsFit event)
    (ran : Machine.run step start events = some env) : Consistent env :=
  Machine.fitting_run_invariant ReloadsFit Consistent
    (fun env event next fits consistent stepped => consistent_step env next event fits consistent stepped)
    start env events consistent_start fits ran

-- In every state that calls can lead to, the test of the bitmap tells exactly whether
-- some rule of the current configuration takes the event, and a call takes the actions
-- that asking each rule in turn gives.
theorem logs_follow_conf (events : List (EnvEvent Action)) (env : Env Action) (fits : ∀ event ∈ events, ReloadsFit event)
    (ran : Machine.run step start events = some env) (handle level : Nat) (category : Category Action)
    (found : env.pool.read handle = some category) (small : level < 256) (threadFetched : Bool) (outcome : Action → Int) :
    ∃ conf after, env.conf = some conf ∧
      (category.needlessLevel level = true ↔ Category.asked conf.rules category.name level = []) ∧
      env.vzlog handle level threadFetched outcome =
        some (after, if threadFetched = true then Category.asked conf.rules category.name level else []) := by
  have consistent := consistent_run events env fits ran
  obtain ⟨conf, after, hasConf, _, needless, logged⟩ :=
    log_asked env consistent handle level category found small threadFetched outcome
  exact ⟨conf, after, hasConf, needless, logged⟩

def defaultLevels : LevelList := LevelList.empty.setDefault.getD LevelList.empty

def oneRule (selector : String) (action : Nat) : Conf Nat := ⟨(Rule.new defaultLevels (ascii selector) (some action)).toList, 0⟩

def plenty : Memory := ⟨true, fun _ => true⟩

def reloadedOnce : List (EnvEvent Nat) :=
  [.init (some (oneRule "rart_.WARN" 1)), .getCategory ⟨true, plenty, true, true⟩ (ascii "rart_cat"),
    .reload false (some (oneRule "!.=error" 2)) fun _ => plenty]

theorem reloaded_once_fits : ∀ event ∈ reloadedOnce, ReloadsFit event := by
  intro event member
  simp only [reloadedOnce, List.mem_cons, List.not_mem_nil, or_false] at member
  rcases member with rfl | rfl | rfl
  · trivial
  · trivial
  · exact fun _ => ⟨rfl, fun _ => rfl⟩

theorem logs_follow_conf_reloaded :
    ∃ env category after, Machine.run step start reloadedOnce = some env ∧ env.pool.read 0 = some category ∧
      env.vzlog 0 100 true (fun _ => 0) = some (after, [2]) := by
  obtain ⟨env, ran⟩ : ∃ env, Machine.run step start reloadedOnce = some env := ⟨_, rfl⟩
  obtain ⟨category, found⟩ : ∃ category, env.pool.read 0 = some category := by
    cases ran
    exact ⟨_, rfl⟩
  have confNow : env.conf = some (oneRule "!.=error" 2) := by
    cases ran
    rfl
  have named : category.name = ascii "rart_cat" := by
    cases ran
    cases found
    rfl
  obtain ⟨conf, after, hasConf, _, logged⟩ :=
    logs_follow_conf reloadedOnce env reloaded_once_fits ran 0 100 category found (by decide) true (fun _ => 0)
  cases confNow.symm.trans hasConf
  have taken : Category.asked (oneRule "!.=error" 2).rules (ascii "rart_cat") 100 = [2] := by decide +kernel
  exact ⟨env, category, after, ran, found, by rw [logged, named, taken, if_pos rfl]⟩

section Handles

variable (env : Env Action) (consistent : Consistent env) (handle : Nat) (category : Category Action)
  (found : env.pool.read handle = some category)
include consistent found

theorem handle_on : env.isInit = true := by
  by_contra off
  simp [consistent.dead ((Bool.not_eq_true _).mp off) handle] at found

theorem handle_fetched (memory : FetchMemory) : env.getCategory memory category.name = some (env, some handle) := by
  have on := handle_on env consistent handle category found
  obtain ⟨conf, table, hasConf, hasTable, served⟩ := consistent.live on
  obtain ⟨_, listed⟩ := served_live conf.rules table env.pool served handle category found
  obtain ⟨entry, member, same⟩ := served.listed handle category found
  obtain ⟨clean, other, present, named, _⟩ := served.named entry member
  rw [same, found] at present
  cases present
  rw [← named] at clean
  simp only [getCategory, if_pos on, fetchCategory, hasConf, hasTable, clean, listed]

theorem handle_step (next : Env Action) (event : EnvEvent Action) (fits : ReloadsFit event) (unfinished : event ≠ .fini)
    (stepped : env.step event = some next) : ∃ later, next.pool.read handle = some later ∧ later.name = category.name := by
  have on := handle_on env consistent handle category found
  have logged (level : Nat) (other : Nat) (threadFetched : Bool) (outcome : Action → Int) (result : Env Action × List Action)
      (ran : env.vzlog other level threadFetched outcome = some result) : result.1.pool = env.pool := by
    obtain ⟨small, old, present⟩ := vzlog_read env other level threadFetched outcome result ran
    obtain ⟨_, after, _, same, _, given⟩ := log_asked env consistent other level old present small threadFetched outcome
    cases ran.symm.trans given
    cases same with
    | inl unchanged => rw [unchanged]
    | inr counted => rw [counted]
  cases event with
  | init built =>
      cases stepped
      exact ⟨category, by rw [init, if_pos on]; exact found, rfl⟩
  | dzlogInit built memory cname =>
      rw [step, dzlogInit, if_pos on] at stepped
      cases stepped
      exact ⟨category, found, rfl⟩
  | fini => exact absurd rfl unfinished
  | reload periodic built memory =>
      obtain ⟨⟨after, code⟩, ran, rfl⟩ := Option.map_eq_some_iff.mp stepped
      cases reload_ends env consistent periodic built memory after code ran with
      | quit => exact ⟨category, found, rfl⟩
      | unread _ missing => exact ⟨category, found, rfl⟩
      | reloaded table newConf pool _ hasTable given served renewed =>
          obtain ⟨fresh, updated, present⟩ := renewed handle category found
          exact ⟨_, present, Category.commit_update_name newConf.rules category (memory handle) fresh true updated⟩
      | broken conf newConf table pool _ hasConf hasTable served given visited =>
          exact absurd visited (not_broken memory fits newConf.rules table env.pool pool)
  | getCategory memory cname =>
      obtain ⟨⟨after, fetchedHandle⟩, ran, rfl⟩ := Option.map_eq_some_iff.mp stepped
      rw [getCategory, if_pos on] at ran
      obtain ⟨conf, _, fetched⟩ := consistent_fetched env consistent on memory cname after fetchedHandle ran
      exact ⟨category, fetched.kept handle category found, rfl⟩
  | setCategory memory cname =>
      rw [step, setCategory, if_pos on] at stepped
      obtain ⟨⟨after, fetchedHandle⟩, ran, rfl⟩ := Option.map_eq_some_iff.mp stepped
      obtain ⟨conf, _, fetched⟩ := consistent_fetched env consistent on memory cname after fetchedHandle ran
      exact ⟨category, fetched.kept handle category found, rfl⟩
  | vzlog other level threadFetched outcome =>
      obtain ⟨result, ran, rfl⟩ := Option.map_eq_some_iff.mp stepped
      exact ⟨category, by rw [logged level other threadFetched outcome result ran]; exact found, rfl⟩
  | vdzlog level threadFetched outcome =>
      obtain ⟨result, ran, rfl⟩ := Option.map_eq_some_iff.mp stepped
      obtain ⟨other, _, ranThere⟩ := Option.bind_eq_some_iff.mp ran
      exact ⟨category, by rw [logged level other threadFetched outcome result ranThere]; exact found, rfl⟩

end Handles

-- A category that a caller holds stays its own through every reload, until zlog_fini, and
-- stays the one that its name gives.
theorem handles_stay (events later : List (EnvEvent Action)) (env final : Env Action)
    (fits : ∀ event ∈ events ++ later, ReloadsFit event) (ran : Machine.run step start events = some env)
    (ranLater : Machine.run step env later = some final) (unfinished : .fini ∉ later) (handle : Nat) (category : Category Action)
    (found : env.pool.read handle = some category) (memory : FetchMemory) :
    (∃ kept, final.pool.read handle = some kept ∧ kept.name = category.name) ∧
      final.getCategory memory category.name = some (final, some handle) := by
  have consistent := consistent_run events env (fun event member => fits event (by simp [member])) ran
  have kept := Machine.fitting_run_invariant (fun event => ReloadsFit event ∧ event ≠ .fini)
    (fun env => Consistent env ∧ ∃ kept, env.pool.read handle = some kept ∧ kept.name = category.name)
    (by
      intro env event next fits holds stepped
      obtain ⟨consistent, kept, present, named⟩ := holds
      obtain ⟨after, afterPresent, same⟩ := handle_step env consistent handle kept present next event fits.1 fits.2 stepped
      exact ⟨consistent_step env next event fits.1 consistent stepped, after, afterPresent, same.trans named⟩)
    env final later ⟨consistent, category, found, rfl⟩
    (fun event member => ⟨fits event (by simp [member]), fun same => unfinished (same ▸ member)⟩) ranLater
  obtain ⟨finalConsistent, held, present, named⟩ := kept
  refine ⟨⟨held, present, named⟩, ?_⟩
  rw [← named]
  exact handle_fetched final finalConsistent handle held present memory

theorem handles_stay_reloaded :
    ∃ env final, Machine.run step start (reloadedOnce.take 2) = some env ∧ Machine.run step env (reloadedOnce.drop 2) = some final ∧
      final.getCategory ⟨false, plenty, false, false⟩ (ascii "rart_cat") = some (final, some 0) := by
  obtain ⟨env, ran⟩ : ∃ env, Machine.run step start (reloadedOnce.take 2) = some env := ⟨_, rfl⟩
  obtain ⟨final, ranLater⟩ : ∃ final, Machine.run step env (reloadedOnce.drop 2) = some final := by
    cases ran
    exact ⟨_, rfl⟩
  obtain ⟨category, found, named⟩ : ∃ category, env.pool.read 0 = some category ∧ category.name = ascii "rart_cat" := by
    cases ran
    exact ⟨_, rfl, rfl⟩
  have stays := handles_stay (reloadedOnce.take 2) (reloadedOnce.drop 2) env final
    (by rw [List.take_append_drop]; exact reloaded_once_fits) ran ranLater (by simp [reloadedOnce]) 0 category found
    ⟨false, plenty, false, false⟩
  exact ⟨env, final, ran, ranLater, named ▸ stays.2⟩

section Rollback

variable (rules newRules : List (Rule Action)) (table : HashTable Bytes Nat) (pool after : Pool (Category Action))
  (served : Served rules table pool) (memory : Nat → Memory)
include served

theorem rolled_back (front : List Nat)
    (updated : ∀ other ∈ front, ∃ category fresh done, pool.read other = some category ∧
      category.updateRules (memory other) newRules = some (fresh, done))
    (changed : ∀ handle, after.read handle =
      Pool.readChanged (fun handle category => category.updateRules (memory handle) newRules) front pool handle) :
    ∃ restored, rollbackAll table after = some (restored, true) ∧ ∀ handle, restored.read handle = pool.read handle := by
  have split (handle : Nat) : after.read handle = pool.read handle ∨ ∃ category fresh done, pool.read handle = some category ∧
      after.read handle = some fresh ∧ category.updateRules (memory handle) newRules = some (fresh, done) := by
    rw [changed, Pool.readChanged]
    by_cases seen : handle ∈ front
    · obtain ⟨category, fresh, done, found, stepped⟩ := updated handle seen
      rw [if_pos seen, found, Option.bind_some, stepped]
      exact .inr ⟨category, fresh, done, rfl, rfl, stepped⟩
    · rw [if_neg seen]
      exact .inl rfl
  have live (handle : Nat) : (∃ category, after.read handle = some category) ↔ ∃ category, pool.read handle = some category := by
    cases split handle with
    | inl same => rw [same]
    | inr moved =>
        obtain ⟨category, fresh, done, found, present, _⟩ := moved
        rw [found, present]
        exact ⟨fun _ => ⟨category, rfl⟩, fun _ => ⟨fresh, rfl⟩⟩
  obtain ⟨restored, ran, every⟩ := rolled_all rules table pool served after live
  refine ⟨restored, ran, fun handle => ?_⟩
  rw [every]
  cases split handle with
  | inl same =>
      rw [same]
      cases found : pool.read handle with
      | none => rfl
      | some category =>
          obtain ⟨follows, _⟩ := served_live rules table pool served handle category found
          rw [Option.map_some, Category.rollback_follows rules category follows]
  | inr moved =>
      obtain ⟨category, fresh, done, found, present, stepped⟩ := moved
      obtain ⟨follows, _⟩ := served_live rules table pool served handle category found
      rw [present, found, Option.map_some,
        Category.rollback_update newRules category (memory handle) rules fresh done stepped follows]

end Rollback

-- A reload that fails because the configuration cannot be read leaves the categories as
-- they are. One that fails later does not: some category is left without rules, though
-- rolling every category back would have restored them all.
theorem failed_reload_keeps (events : List (EnvEvent Action)) (env after : Env Action) (fits : ∀ event ∈ events, ReloadsFit event)
    (ran : Machine.run step start events = some env) (periodic : Bool) (built : Option (Conf Action)) (memory : Nat → Memory)
    (failed : env.reload periodic built memory = some (after, -1)) :
    ((∀ handle, after.pool.read handle = env.pool.read handle) ↔ built = none) ∧
      ((∃ handle category, after.pool.read handle = some category ∧ category.fitRules = none) ↔ built ≠ none) ∧
      ∃ table restored, env.categories = some table ∧ rollbackAll table after.pool = some (restored, true) ∧
        ∀ handle, restored.read handle = env.pool.read handle := by
  have consistent := consistent_run events env fits ran
  cases reload_ends env consistent periodic built memory after (-1) failed with
  | unread on missing =>
      obtain ⟨conf, table, hasConf, hasTable, served⟩ := consistent.live on
      obtain ⟨restored, ranBack, every⟩ := rolled_back conf.rules conf.rules table env.pool env.pool served memory []
        (by simp) fun handle => by simp [Pool.readChanged]
      refine ⟨⟨fun _ => missing, fun _ _ => rfl⟩, ⟨?_, fun present => absurd missing present⟩, table, restored, hasTable, ranBack, every⟩
      intro broken
      obtain ⟨handle, category, found, empty⟩ := broken
      obtain ⟨follows, _⟩ := served_live conf.rules table env.pool served handle category found
      exact absurd (follows.fit.symm.trans empty) (by simp)
  | broken conf newConf table pool on hasConf hasTable served given visited =>
      cases visited with
      | stopped front rest handle category broken split succeeded found failed changed =>
          have updated : ∀ other ∈ front ++ [handle], ∃ category fresh done, env.pool.read other = some category ∧
              category.updateRules (memory other) newConf.rules = some (fresh, done) := by
            intro other member
            cases List.mem_append.mp member with
            | inl before =>
                obtain ⟨item, fresh, present, stepped⟩ := succeeded other before
                exact ⟨item, fresh, true, present, stepped⟩
            | inr last =>
                obtain rfl := List.mem_singleton.mp last
                exact ⟨category, broken, false, found, failed⟩
          obtain ⟨restored, ranBack, every⟩ :=
            rolled_back conf.rules newConf.rules table env.pool pool served memory _ updated changed
          obtain ⟨follows, _⟩ := served_live conf.rules table env.pool served handle category found
          have present : built ≠ none := by simp [given]
          have left : pool.read handle = some broken := by
            rw [changed, Pool.readChanged, if_pos (by simp), found, Option.bind_some, failed]
            rfl
          have empty : broken.fitRules = none := by
            cases Category.obtain_cases (memory handle) newConf.rules _ broken false failed with
            | inl done => cases done.1
            | inr missing => rw [missing.2.2]
          refine ⟨⟨?_, fun missing => absurd missing present⟩, ⟨fun _ => present, fun _ => ⟨handle, _, left, empty⟩⟩,
            table, restored, hasTable, ranBack, every⟩
          intro unchanged
          have there := (unchanged handle).symm.trans left
          rw [found] at there
          have kept := (congrArg Category.fitRules (Option.some.inj there)).trans empty
          exact absurd (follows.fit.symm.trans kept) (by simp)

theorem failed_reload_keeps_refused :
    ∃ env after, Machine.run step start reloadedOnce = some env ∧
      env.reload false (some (oneRule "rart_cat.*" 3)) (fun _ => ⟨false, fun _ => false⟩) = some (after, -1) ∧
      ∃ handle category, after.pool.read handle = some category ∧ category.fitRules = none := by
  obtain ⟨env, ran⟩ : ∃ env, Machine.run step start reloadedOnce = some env := ⟨_, rfl⟩
  obtain ⟨after, failed⟩ : ∃ after,
      env.reload false (some (oneRule "rart_cat.*" 3)) (fun _ => ⟨false, fun _ => false⟩) = some (after, -1) := by
    cases ran
    exact ⟨_, rfl⟩
  have kept := failed_reload_keeps reloadedOnce env after reloaded_once_fits ran false (some (oneRule "rart_cat.*" 3))
    (fun _ => ⟨false, fun _ => false⟩) failed
  exact ⟨env, after, ran, failed, kept.2.1.mpr (by simp)⟩

end Env

end Zlog
